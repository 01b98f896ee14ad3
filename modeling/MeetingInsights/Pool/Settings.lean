/-! # Settings of a worker pool -/

namespace MeetingInsights.Pool

/-- How many workers a pool has, how many waiting jobs it holds, and the milliseconds between two
looks at its health. -/
structure Settings where
  workerCount : Nat
  bufferSize : Nat
  pollIntervalMs : Nat
deriving DecidableEq, Repr, Inhabited

namespace Settings

def standard : Settings := ⟨1, 100, 1000⟩

/-- The settings with a number of workers, one at least. -/
def withWorkerCount (s : Settings) (n : Nat) : Settings := { s with workerCount := max n 1 }

def withBufferSize (s : Settings) (n : Nat) : Settings := { s with bufferSize := max n 1 }

def withPollIntervalMs (s : Settings) (ms : Nat) : Settings := { s with pollIntervalMs := max ms 1 }

/-- The settings as a pool takes them: none is zero. -/
def clamped (s : Settings) : Settings :=
  ((standard.withWorkerCount s.workerCount).withBufferSize s.bufferSize).withPollIntervalMs
    s.pollIntervalMs

theorem clamped_eq (s : Settings) :
    s.clamped = ⟨max s.workerCount 1, max s.bufferSize 1, max s.pollIntervalMs 1⟩ := rfl

end Settings

end MeetingInsights.Pool
