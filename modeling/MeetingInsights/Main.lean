import MeetingInsights.CommandLine.Execution
import MeetingInsights.Environment.Assignments
import Std.Time.DateTime.Timestamp

/-! # The program

Gathers the files, the environment, the time and random identifiers, runs the command line and writes
what comes of it. No endpoint can be reached.
-/

namespace MeetingInsights

open CommandLine

def fileAt (path : String) : IO File := do
  try
    return .bytes (← IO.FS.readBinFile path)
  catch e =>
    match e with
    | .noFileOrDirectory .. => return .missing
    | e => return .unreadable e.toString

def valuesOf (names : List String) : IO (List (String × String)) :=
  names.filterMapM fun name => return (← IO.getEnv name).map fun value => (name, value)

/-- The environment, to which the assignments in a file of the working directory are added. -/
def environment : IO Config.Lookup := do
  let assignments := ((← fileAt ".env").read.toOption).getD ""
  let known := configVariable :: Config.overrides.map Config.Override.key
  let own ← valuesOf (known ++ Environment.mentioned assignments)
  return Environment.extend (fun name => own.lookup name) assignments

def unixNanos : IO Nat :=
  return (← Std.Time.Timestamp.now).toNanosecondsSinceUnixEpoch.val.toNat

def emptyBackend : IO Backend := do
  let nanos ← unixNanos
  let id : IO Uuid := return .ofTime (nanos / 1000000) (← IO.rand 0 (Nat.pow 2 74 - 1))
  let supply : Supply := ⟨← id, ← id, ← id, ← id⟩
  return ⟨.empty, supply, .ofUnixNanos nanos, [], []⟩

def filesOf (lookup : Config.Lookup) (args : List String) : IO (List (String × File)) := do
  match Invocation.parse (lookup configVariable) args with
  | .ok i => i.paths.mapM fun path => return (path, ← fileAt path)
  | .error _ => return []

def write (o : Outcome) : IO UInt32 := do
  let (text, isResult) := o.text
  if isResult then IO.print text else IO.eprint text
  return o.exitCode.toUInt32

end MeetingInsights

open MeetingInsights in
def main (args : List String) : IO UInt32 := do
  let lookup ← environment
  let files ← filesOf lookup args
  write (CommandLine.run args
    ⟨fun path => (files.lookup path).getD .missing, lookup, fun _ => .nothing, ← emptyBackend⟩)
