import MeetingInsights.Database.Connections
import MeetingInsights.Proofs.ConfiguredNumbers
import Mathlib.Control.Monad.Basic

/-! # Lifetimes of connections

A configuration gives the lifetime of a connection as any 64-bit count of minutes, while the seconds
are a 64-bit count as well. Up to a limit the seconds are exact, and beyond it there are none: asking
for such connections is a crash.
-/

namespace MeetingInsights

namespace Config

private theorem validate_database (c : Config) (d : Database) :
    ({ c with database := d }).validate = { c.validate with config.database := d } := by
  unfold validate settleQueueKind
  dsimp only
  split
  · rfl
  split
  · rfl
  split
  · rfl
  split <;> split <;> rfl

end Config

namespace Database.Connections

/-- The most minutes whose seconds can be counted. -/
def minutesLimit : Nat := secondsLimit / 60

variable {d : Config.Database} {k : Connections}

private theorem isSome_ofConfig?_iff : (ofConfig? d).isSome ↔ d.maxLifetimeMins ≤ minutesLimit := by
  rw [minutesLimit, Nat.le_div_iff_mul_le (by decide), Nat.mul_comm]
  simp [ofConfig?, Option.isSome_ite]

private theorem eq_of_mem_ofConfig? (h : k ∈ ofConfig? d) :
    k.most = d.maxConnections ∧ k.least = min d.minConnections d.maxConnections ∧
      k.lifetimeSecs = if 0 < d.maxLifetimeMins then some (60 * d.maxLifetimeMins) else none := by
  simp only [ofConfig?, Option.mem_def] at h
  split at h
  · cases h
    exact ⟨rfl, rfl, rfl⟩
  · cases h

/-- There are connections to a configuration just if its minutes keep to the limit. No more are kept
then than there may be, and each lives for the configured time, or without a limit if none is
configured. All settings that fit into their words can be configured, and validation passes over
them. -/
theorem lifetime_exact_iff (c : Config) (d : Config.Database) :
    ((ofConfig? d).isSome ↔ d.maxLifetimeMins ≤ minutesLimit) ∧
    (∀ k ∈ ofConfig? d, k.least ≤ k.most ∧ (k.lifetimeSecs = none ↔ d.maxLifetimeMins = 0) ∧
      ∀ secs ∈ k.lifetimeSecs, secs = 60 * d.maxLifetimeMins) ∧
    (Config.Database.decode 0 d.toJson.toDoc = some d ↔ d.Fits) ∧
    ({ c with database := d }).validate = { c.validate with config.database := d } := by
  refine ⟨isSome_ofConfig?_iff, fun k made => ?_,
    Config.Database.decode_toJson_eq_some_iff (by decide), Config.validate_database c d⟩
  obtain ⟨most, least, lifetime⟩ := eq_of_mem_ofConfig? made
  rw [most, least, lifetime]
  refine ⟨Nat.min_le_right _ _, by simp, fun secs given => ?_⟩
  split at given
  · exact (Option.some.inj given).symm
  · cases given

def overlong : Config := { Config.standard with database.maxLifetimeMins := minutesLimit + 1 }

/-- There are no connections to a configuration that is read without complaint. -/
theorem overlong_lifetime_crashes :
    Config.load (.ofText "database:\n  max_lifetime_mins: 307445734561825861\n") (fun _ => none) =
      .ok overlong ∧
    ofConfig? overlong.database = none := by
  decide +kernel

end Database.Connections

end MeetingInsights
