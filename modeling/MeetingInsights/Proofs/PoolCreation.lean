import MeetingInsights.CommandLine.Execution
import MeetingInsights.Config.File
import MeetingInsights.Proofs.AttemptRuns
import Mathlib.Control.Monad.Basic

/-! # Making pools

The settings of an accepted configuration are those of the pool that is made from it: clamping
changes none of them. What validation does not look at is whether a queue can be as large as it is
told to be. If it cannot, there is no pool, and a dry run that needs one crashes.
-/

namespace MeetingInsights

namespace Pool

variable {settings : Settings} {p : Pool}

private theorem Settings.clamped_eq_self_iff :
    settings.clamped = settings ↔
      settings.workerCount ≠ 0 ∧ settings.bufferSize ≠ 0 ∧ settings.pollIntervalMs ≠ 0 := by
  obtain ⟨workers, buffer, poll⟩ := settings
  rw [Settings.clamped_eq, Settings.mk.injEq]
  dsimp only
  omega

theorem canHold_clamped (settings : Settings) :
    canHold settings.clamped.bufferSize = true ↔ settings.bufferSize ≤ queueLimit := by
  have limit : 1 ≤ queueLimit := by decide
  rw [canHold, Settings.clamped_eq, Bool.and_eq_true, decide_eq_true_eq, decide_eq_true_eq]
  dsimp only
  omega

theorem create?_eq_some_iff :
    create? settings = some p ↔ settings.bufferSize ≤ queueLimit ∧ p = new settings := by
  rw [create?, Option.ite_none_right_eq_some, canHold_clamped, Option.some.injEq, eq_comm (a := p)]

theorem create?_eq_none_iff : create? settings = none ↔ queueLimit < settings.bufferSize := by
  rw [create?, ite_eq_right_iff, canHold_clamped]
  simp

end Pool

namespace Config

variable {c : Config}

private theorem poolSettings_settleQueueKind (c : Config) :
    c.settleQueueKind.1.queue.poolSettings = c.queue.poolSettings := by
  unfold settleQueueKind
  split <;> rfl

private theorem poolSettings_validate (c : Config) :
    c.validate.config.queue.poolSettings = c.queue.poolSettings := by
  unfold validate
  split
  · rfl
  split
  · rfl
  split
  · rfl
  dsimp only
  split <;> exact poolSettings_settleQueueKind c

/-- Validation accepts the settings of a pool if clamping would not change them. -/
theorem clamped_of_accepted (accepted : c.validate.error = none) :
    c.queue.poolSettings.clamped = c.queue.poolSettings := by
  rw [Pool.Settings.clamped_eq_self_iff]
  unfold validate at accepted
  split at accepted
  · cases accepted
  split at accepted
  · cases accepted
  split at accepted
  · cases accepted
  exact ⟨‹_›, ‹_›, ‹_›⟩

/-- From an accepted configuration a pool is made with just the numbers that are configured, if its
queue can be as large, and no pool if it cannot. -/
theorem makes_pool_iff (accepted : c.validate.error = none) :
    ((∃ p, Pool.create? c.validate.config.queue.poolSettings = some p ∧
        p.settings = ⟨c.queue.workerCount, c.queue.bufferSize, c.queue.pollIntervalMs⟩) ↔
      c.queue.bufferSize ≤ Pool.queueLimit) ∧
    (Pool.create? c.validate.config.queue.poolSettings = none ↔
      Pool.queueLimit < c.queue.bufferSize) := by
  rw [poolSettings_validate]
  refine ⟨⟨?_, fun fits => ?_⟩, Pool.create?_eq_none_iff⟩
  · rintro ⟨p, made, -⟩
    exact (Pool.create?_eq_some_iff.mp made).1
  · exact ⟨_, Pool.create?_eq_some_iff.mpr ⟨fits, rfl⟩, clamped_of_accepted accepted⟩

theorem standard_makes_pool :
    Config.standard.validate.error = none ∧
      ∃ p, Pool.create? Config.standard.validate.config.queue.poolSettings = some p ∧
        p.settings = ⟨1, 100, 1000⟩ := by
  have accepted : Config.standard.validate.error = none := by decide +kernel
  exact ⟨accepted, (makes_pool_iff accepted).1.mpr (by decide)⟩

/-- A queue of the largest size that a variable can ask for. -/
def overfull : Config := { Config.standard with queue.bufferSize := Nat.pow 2 64 - 1 }

theorem overfull_makes_no_pool :
    Config.load .missing (fun key =>
        if key = "NOKER_QUEUE_BUFFER_SIZE" then some "18446744073709551615" else none) =
      .ok overfull ∧
    overfull.validate.error = none ∧
    Pool.create? overfull.validate.config.queue.poolSettings = none :=
  ⟨by decide +kernel, by decide +kernel, Pool.create?_eq_none_iff.mpr (by decide +kernel)⟩

end Config

namespace CommandLine

private theorem run?_eq_none_iff {b : Backend} (calm : b.faults = []) (provider : Provider)
    (settings : Pool.Settings) (draft : MeetingDraft) (waitMs : Nat) :
    Ingest.run? provider settings draft waitMs b = none ↔
      Pool.queueLimit < settings.bufferSize := by
  rw [← Pool.create?_eq_none_iff, Ingest.run?, Attempt.run_attempt,
    Backend.answer_of_faultless calm]
  simp only [Backend.perform]
  cases Pool.create? settings <;> simp

private theorem dryRun_eq_crashed_iff {c : Config} {o : IngestOptions} {notes : String}
    {w : Surroundings} (calm : w.backend.faults = []) :
    dryRun c o notes w = .crashed ↔
      c.ai.isEnabled = true ∧ Pool.queueLimit < c.queue.bufferSize := by
  unfold dryRun
  cases enabled : c.ai.isEnabled with
  | false => simp
  | true =>
    have crash := run?_eq_none_iff calm (Chat.extract (Chat.select c.ai).1 w.send)
      c.queue.poolSettings (o.draft notes) (o.timeoutSecs * 1000)
    simp only [if_true, true_and]
    refine .trans ?_ crash
    split <;> rename_i ran <;> simp [ran]

/-- A command crashes if it is a dry run that asks its provider, with a queue that is too large. -/
theorem execute_eq_crashed_iff {i : Invocation} {w : Surroundings} (calm : w.backend.faults = []) :
    i.execute w = .crashed ↔
      ∃ c o notes, Config.load (w.files i.configPath) w.lookup = .ok c ∧ i.command = .ingest o ∧
        o.notes.read w.files = .ok notes ∧ o.isDryRun = true ∧ c.ai.isEnabled = true ∧
        Pool.queueLimit < c.queue.bufferSize := by
  unfold Invocation.execute
  cases loaded : Config.load (w.files i.configPath) w.lookup with
  | error reason => simp
  | ok c =>
    cases command : i.command with
    | serve | migrate => simp
    | ingest o =>
      cases notes : o.notes.read w.files with
      | error f => simp [ingest, notes]
      | ok text =>
        cases dry : o.isDryRun with
        | false => simp [ingest, notes, dry]
        | true => simp [ingest, notes, dry, dryRun_eq_crashed_iff calm]

end CommandLine

end MeetingInsights
