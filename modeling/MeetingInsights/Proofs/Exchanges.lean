import MeetingInsights.Program

/-! # What a program exchanges

The calls that a program makes with the answers that it gets, in order. Nothing is said of what
answers, so that a statement about all exchanges of a program holds under every schedule, with any
provider and whatever fails.
-/

namespace MeetingInsights

/-- A call with its answer. -/
structure Exchange where
  call : Call
  answer : call.Answer

/-- Exchanges leave no trace whose calls are of a kind that leaves none. -/
theorem filterMap_eq_nil_of_calls {β : Type} {trace : Exchange → Option β} {kind : Call → Prop}
    (silent : ∀ c r, kind c → trace ⟨c, r⟩ = none) {xs : List Exchange}
    (h : ∀ x ∈ xs, kind x.call) : xs.filterMap trace = [] :=
  List.filterMap_eq_nil_iff.mpr fun ⟨c, r⟩ hx => silent c r (h ⟨c, r⟩ hx)

namespace Program

variable {α β : Type}

/-- A program with what is left of it after some exchanges. -/
inductive Leaves : Program α → List Exchange → Program α → Prop where
  | all (p : Program α) : Leaves p [] p
  | answered {c : Call} {next : c.Answer → Program α} {r : c.Answer} {xs : List Exchange}
      {q : Program α} (h : Leaves (next r) xs q) : Leaves (call c next) (⟨c, r⟩ :: xs) q

def result? : Program α → Option α
  | done a => some a
  | call _ _ => none

/-- A program can make these exchanges, and has the result `o` then if it is over. -/
def Takes (p : Program α) (xs : List Exchange) (o : Option α) : Prop :=
  ∃ q, Leaves p xs q ∧ q.result? = o

theorem Leaves.takes {p q : Program α} {xs : List Exchange} (h : Leaves p xs q) :
    p.Takes xs q.result? := ⟨q, h, rfl⟩

theorem Leaves.snoc {p : Program α} {xs : List Exchange} {c : Call} {next : c.Answer → Program α}
    (h : Leaves p xs (call c next)) (r : c.Answer) : Leaves p (xs ++ [⟨c, r⟩]) (next r) := by
  generalize hq : call c next = q at h
  induction h with
  | all p =>
    subst hq
    exact .answered (.all _)
  | answered _ ih => exact .answered (ih hq)

theorem takes_done_iff {a : α} {xs : List Exchange} {o : Option α} :
    (done a).Takes xs o ↔ xs = [] ∧ o = some a := by
  constructor
  · rintro ⟨q, h, rfl⟩
    cases h with
    | all => exact ⟨rfl, rfl⟩
  · rintro ⟨rfl, rfl⟩
    exact ⟨done a, .all _, rfl⟩

theorem takes_call_iff {c : Call} {next : c.Answer → Program α} {xs : List Exchange}
    {o : Option α} :
    (call c next).Takes xs o ↔
      (xs = [] ∧ o = none) ∨ ∃ r ys, xs = ⟨c, r⟩ :: ys ∧ (next r).Takes ys o := by
  constructor
  · rintro ⟨q, h, rfl⟩
    cases h with
    | all => exact .inl ⟨rfl, rfl⟩
    | answered h => exact .inr ⟨_, _, rfl, h.takes⟩
  · rintro (⟨rfl, rfl⟩ | ⟨r, ys, rfl, q, h, rfl⟩)
    · exact ⟨_, .all _, rfl⟩
    · exact ⟨q, .answered h, rfl⟩

/-- Of two programs one after another the second makes its exchanges once the first is over. -/
theorem takes_bind_iff {p : Program α} {f : α → Program β} {xs : List Exchange} {o : Option β} :
    (p >>= f).Takes xs o ↔
      (p.Takes xs none ∧ o = none) ∨
        ∃ ys zs a, xs = ys ++ zs ∧ p.Takes ys (some a) ∧ (f a).Takes zs o := by
  induction p generalizing xs with
  | done a =>
    simp only [done_bind, takes_done_iff]
    constructor
    · intro h
      exact .inr ⟨[], xs, a, rfl, ⟨rfl, rfl⟩, h⟩
    · rintro (⟨⟨_, h⟩, _⟩ | ⟨ys, zs, b, rfl, ⟨rfl, hb⟩, h⟩)
      · cases h
      · cases hb
        exact h
  | call c next ih =>
    simp only [call_bind, takes_call_iff, ih]
    constructor
    · rintro (⟨rfl, rfl⟩ | ⟨r, xs, rfl, ⟨h, rfl⟩ | ⟨ys, zs, a, rfl, h, ha⟩⟩)
      · exact .inl ⟨.inl ⟨rfl, trivial⟩, rfl⟩
      · exact .inl ⟨.inr ⟨r, xs, rfl, h⟩, rfl⟩
      · exact .inr ⟨⟨c, r⟩ :: ys, zs, a, rfl, .inr ⟨r, ys, rfl, h⟩, ha⟩
    · rintro (⟨⟨rfl, _⟩ | ⟨r, xs, rfl, h⟩, rfl⟩ | ⟨ys, zs, a, rfl, ⟨_, h⟩ | ⟨r, ys, rfl, h⟩, ha⟩)
      · exact .inl ⟨rfl, rfl⟩
      · exact .inr ⟨r, xs, rfl, .inl ⟨h, rfl⟩⟩
      · cases h
      · exact .inr ⟨r, ys ++ zs, rfl, .inr ⟨ys, zs, a, rfl, h, ha⟩⟩

end Program

namespace Attempt

variable {α β : Type}

/-- An attempt can make these exchanges, and has succeeded or failed with `o` then if it is over. -/
def Takes (t : Attempt α) (xs : List Exchange) (o : Option (Except Error α)) : Prop :=
  Program.Takes (ExceptT.run t) xs o

theorem takes_pure_iff {a : α} {xs : List Exchange} {o : Option (Except Error α)} :
    Takes (pure a : Attempt α) xs o ↔ xs = [] ∧ o = some (.ok a) := Program.takes_done_iff

theorem takes_throw_iff {e : Error} {xs : List Exchange} {o : Option (Except Error α)} :
    Takes (throw e : Attempt α) xs o ↔ xs = [] ∧ o = some (.error e) := Program.takes_done_iff

theorem takes_attempt_iff {c : Call} {xs : List Exchange} {o : Option c.Answer} :
    Takes c.attempt xs o ↔ (xs = [] ∧ o = none) ∨ ∃ r, xs = [⟨c, r⟩] ∧ o = some r := by
  change Program.Takes (Program.call c Program.done) xs o ↔ _
  simp only [Program.takes_call_iff, Program.takes_done_iff]
  constructor
  · rintro (h | ⟨r, ys, rfl, rfl, h⟩)
    · exact .inl h
    · exact .inr ⟨r, rfl, h⟩
  · rintro (h | ⟨r, rfl, h⟩)
    · exact .inl h
    · exact .inr ⟨r, [], rfl, rfl, h⟩

theorem takes_attempt_none_iff {c : Call} {xs : List Exchange} :
    Takes c.attempt xs none ↔ xs = [] := by
  simp [takes_attempt_iff]

theorem takes_attempt_some_iff {c : Call} {xs : List Exchange} {r : c.Answer} :
    Takes c.attempt xs (some r) ↔ xs = [⟨c, r⟩] := by
  simp [takes_attempt_iff]

theorem takes_bind_iff {t : Attempt α} {f : α → Attempt β} {xs : List Exchange}
    {o : Option (Except Error β)} :
    Takes (t >>= f) xs o ↔
      (Takes t xs none ∧ o = none) ∨ (∃ e, Takes t xs (some (.error e)) ∧ o = some (.error e)) ∨
        ∃ ys zs a, xs = ys ++ zs ∧ Takes t ys (some (.ok a)) ∧ Takes (f a) zs o := by
  simp only [Takes, ExceptT.run_bind, Program.takes_bind_iff]
  constructor
  · rintro (h | ⟨ys, zs, r, rfl, ht, h⟩)
    · exact .inl h
    · cases r with
      | ok a => exact .inr (.inr ⟨ys, zs, a, rfl, ht, h⟩)
      | error e =>
        obtain ⟨rfl, rfl⟩ := Program.takes_done_iff.mp h
        exact .inr (.inl ⟨e, by simpa using ht, rfl⟩)
  · rintro (h | ⟨e, ht, rfl⟩ | ⟨ys, zs, a, rfl, ht, h⟩)
    · exact .inl h
    · exact .inr ⟨xs, [], .error e, by simp, ht, Program.takes_done_iff.mpr ⟨rfl, rfl⟩⟩
    · exact .inr ⟨ys, zs, .ok a, rfl, ht, h⟩

theorem takes_bind_error_iff {t : Attempt α} {f : α → Attempt β} {xs : List Exchange} {e : Error} :
    Takes (t >>= f) xs (some (.error e)) ↔
      Takes t xs (some (.error e)) ∨
        ∃ ys zs a, xs = ys ++ zs ∧ Takes t ys (some (.ok a)) ∧ Takes (f a) zs (some (.error e)) := by
  simp [takes_bind_iff]

theorem takes_bind_some_iff {t : Attempt α} {f : α → Attempt β} {xs : List Exchange}
    {r : Except Error β} :
    Takes (t >>= f) xs (some r) ↔
      (∃ e, Takes t xs (some (.error e)) ∧ r = .error e) ∨
        ∃ ys zs a, xs = ys ++ zs ∧ Takes t ys (some (.ok a)) ∧ Takes (f a) zs (some r) := by
  simp [takes_bind_iff]

theorem takes_bind_pure_iff {t : Attempt α} {g : α → β} {xs : List Exchange}
    {r : Except Error β} :
    Takes (t >>= fun a => pure (g a)) xs (some r) ↔
      ∃ r', Takes t xs (some r') ∧ r = r'.map g := by
  rw [takes_bind_some_iff]
  constructor
  · rintro (⟨e, ht, rfl⟩ | ⟨ys, zs, a, rfl, ht, hg⟩)
    · exact ⟨.error e, ht, rfl⟩
    · obtain ⟨rfl, hr⟩ := takes_pure_iff.mp hg
      exact ⟨.ok a, by rwa [List.append_nil], Option.some.inj hr⟩
  · rintro ⟨e | a, ht, rfl⟩
    · exact .inl ⟨e, ht, rfl⟩
    · exact .inr ⟨xs, [], a, (List.append_nil xs).symm, ht, takes_pure_iff.mpr ⟨rfl, rfl⟩⟩

theorem takes_bind_pure_error_iff {t : Attempt α} {g : α → β} {xs : List Exchange} {e : Error} :
    Takes (t >>= fun a => pure (g a)) xs (some (.error e)) ↔ Takes t xs (some (.error e)) := by
  rw [takes_bind_error_iff]
  simp [takes_pure_iff]

/-- Every call that an attempt can make is of this kind. -/
def Calls (t : Attempt α) (kind : Call → Prop) : Prop :=
  ∀ xs o, Takes t xs o → ∀ x ∈ xs, kind x.call

theorem calls_pure (a : α) (kind : Call → Prop) : Calls (pure a : Attempt α) kind := by
  intro xs o h
  obtain ⟨rfl, _⟩ := takes_pure_iff.mp h
  simp

theorem calls_throw (e : Error) (kind : Call → Prop) : Calls (throw e : Attempt α) kind := by
  intro xs o h
  obtain ⟨rfl, _⟩ := takes_throw_iff.mp h
  simp

theorem calls_attempt {c : Call} {kind : Call → Prop} (h : kind c) : Calls c.attempt kind := by
  intro xs o ht
  rcases takes_attempt_iff.mp ht with ⟨rfl, _⟩ | ⟨r, rfl, _⟩
  · simp
  · simpa using h

theorem calls_lift_ask {c : Call} {kind : Call → Prop} (h : kind c) :
    Calls (ExceptT.lift (Program.ask c) : Attempt c.Answer) kind := by
  intro xs o ht
  change Program.Takes (Program.call c fun r => Program.done (Except.ok r)) xs o at ht
  simp only [Program.takes_call_iff, Program.takes_done_iff] at ht
  rcases ht with ⟨rfl, _⟩ | ⟨r, ys, rfl, rfl, _⟩
  · simp
  · simpa using h

theorem Calls.bind {t : Attempt α} {f : α → Attempt β} {kind : Call → Prop} (ht : Calls t kind)
    (hf : ∀ a, Calls (f a) kind) : Calls (t >>= f) kind := by
  intro xs o h
  rcases takes_bind_iff.mp h with ⟨h, _⟩ | ⟨e, h, _⟩ | ⟨ys, zs, a, rfl, hys, hzs⟩
  · exact ht _ _ h
  · exact ht _ _ h
  · intro x hx
    rcases List.mem_append.mp hx with hx | hx
    · exact ht _ _ hys x hx
    · exact hf a _ _ hzs x hx

end Attempt

end MeetingInsights
