import MeetingInsights.Pool.Event

/-! # Receiving events

A channel keeps the last events that were sent. A receiver that falls behind by more is told once how
many it has missed and goes on with the oldest event that is kept.
-/

namespace MeetingInsights.Pool

def channelCapacity : Nat := 256

inductive Received (α : Type) where
  | message (a : α)
  | lagged (missed : Nat)
  | empty
deriving DecidableEq, Repr

/-- One receive on a channel that `sent` has gone through, by a receiver that has passed `position`
of it; the new position comes with what is found. -/
def receive {α : Type} (sent : List α) (position : Nat) : Received α × Nat :=
  if channelCapacity < sent.length - position then
    let oldest := sent.length - channelCapacity
    (.lagged (oldest - position), oldest)
  else
    match sent[position]? with
    | some a => (.message a, position + 1)
    | none => (.empty, position)

/-- All that a receiver finds until the channel is empty. -/
def receiveAll {α : Type} (sent : List α) (position : Nat) : List (Received α) :=
  if channelCapacity < sent.length - position then
    let oldest := sent.length - channelCapacity
    .lagged (oldest - position) :: (sent.drop oldest).map .message
  else (sent.drop position).map .message

/-- Receives until the end of a job shows or the channel is empty: the counts of the job, or the
position to go on from. -/
def awaitCounts (meeting : Uuid) (sent : List Event) (position : Nat) :
    (fuel : Nat) → Except Nat (Nat × Nat)
  | 0 => .error position
  | fuel + 1 =>
    match receive sent position with
    | (.message e, next) =>
      match e.counts? meeting with
      | some counts => .ok counts
      | none => awaitCounts meeting sent next fuel
    | (.lagged _, next) => awaitCounts meeting sent next fuel
    | (.empty, next) => .error next

def awaitJob (meeting : Uuid) (sent : List Event) (position : Nat) : Except Nat (Nat × Nat) :=
  awaitCounts meeting sent position (sent.length + 2)

end MeetingInsights.Pool
