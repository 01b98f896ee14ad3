import MeetingInsights.Config.Document
import MeetingInsights.Config.Validation

/-! # Loading a configuration

A configuration is read from a file, overridden from the environment and validated. A file that does
not exist stands for the standard configuration.
-/

namespace MeetingInsights

inductive File where
  | missing
  /-- It cannot be read, for the reason that the system gives. -/
  | unreadable (detail : String)
  | bytes (content : ByteArray)
deriving Inhabited

namespace File

def ofText (s : String) : File := .bytes s.toUTF8

def directory : File := .unreadable "Is a directory (os error 21)"

/-- The text of a file, or what the system says against reading it. -/
def read : File → Except String String
  | .missing => .error "No such file or directory (os error 2)"
  | .unreadable detail => .error detail
  | .bytes content =>
    match String.fromUTF8? content with
    | some s => .ok s
    | none => .error "stream did not contain valid UTF-8"

end File

namespace Config

inductive LoadFailure where
  /-- The file holds no configuration. -/
  | malformed
  /-- The file cannot be read, or the configuration is refused. -/
  | refused (e : Error)
deriving DecidableEq, Repr, Inhabited

def ofFile : File → Except LoadFailure Config
  | .missing => .ok .standard
  | f =>
    match f.read with
    | .error detail => .error (.refused (.io detail))
    | .ok s =>
      match ofYaml? s with
      | some c => .ok c
      | none => .error .malformed

def settle (c : Config) (lookup : Lookup) : Except Error Config :=
  match c.applyEnvironment lookup with
  | (_, some e) => .error e
  | (c, none) =>
    match c.validate with
    | ⟨_, _, some e⟩ => .error e
    | ⟨c, _, none⟩ => .ok c

def load (f : File) (lookup : Lookup) : Except LoadFailure Config :=
  match ofFile f with
  | .error e => .error e
  | .ok c =>
    match c.settle lookup with
    | .error e => .error (.refused e)
    | .ok c => .ok c

end Config

end MeetingInsights
