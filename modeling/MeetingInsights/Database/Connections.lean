import MeetingInsights.Config.Basic

/-! # Connections to the database

How many connections are kept and for how long.
-/

namespace MeetingInsights.Database

/-- The settings of a set of connections. Without a lifetime, a connection is kept as long as it
works. -/
structure Connections where
  most : Nat
  least : Nat
  connectTimeoutSecs : Nat
  idleTimeoutSecs : Nat
  lifetimeSecs : Option Nat
deriving DecidableEq, Repr, Inhabited

namespace Connections

/-- The most seconds that connections can be kept: a 64-bit count. -/
def secondsLimit : Nat := Nat.pow 2 64 - 1

/-- The settings that a configuration asks for. No more connections are kept than there may be, and a
lifetime of zero stands for none. Asking for a lifetime of more seconds than can be counted is a
crash. -/
def ofConfig? (c : Config.Database) : Option Connections :=
  let secs := 60 * c.maxLifetimeMins
  if secs ≤ secondsLimit then
    some {
      most := c.maxConnections
      least := min c.minConnections c.maxConnections
      connectTimeoutSecs := c.connectTimeoutSecs
      idleTimeoutSecs := c.idleTimeoutSecs
      lifetimeSecs := if 0 < c.maxLifetimeMins then some secs else none }
  else none

def standard : Connections where
  most := Config.Database.standard.maxConnections
  least := Config.Database.standard.minConnections
  connectTimeoutSecs := Config.Database.standard.connectTimeoutSecs
  idleTimeoutSecs := Config.Database.standard.idleTimeoutSecs
  lifetimeSecs := some (60 * Config.Database.standard.maxLifetimeMins)

end Connections

end MeetingInsights.Database
