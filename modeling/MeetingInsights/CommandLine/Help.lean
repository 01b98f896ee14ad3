import MeetingInsights.CommandLine.Invocation

/-! # Help on the command line

What is told to whoever asks for help, and what is told when a command line cannot be understood.
-/

namespace MeetingInsights.CommandLine

def purposeOf : String → String
  | "serve" => "Run the worker pool until it is told to stop"
  | "ingest" => "Create a meeting, process it, and print the result"
  | "migrate" => "Run database migrations and exit"
  | _ => "Print this message"

def commandLine (name : String) : String := "  " ++ name ++ ": " ++ purposeOf name ++ "\n"

def parameterLine (p : Parameter) : String :=
  let letter := match p.letter with
    | some c => ", -" ++ String.singleton c
    | none => ""
  let value := match p.role with
    | .setting _ => " <value>"
    | _ => ""
  "  --" ++ p.name ++ letter ++ value ++ "\n"

def helpText : String :=
  "Usage: " ++ programName ++ " [options] <command>\n\nCommands:\n" ++
    String.join (commandNames.map commandLine) ++ "\nOptions:\n" ++
    String.join (sharedParameters.map parameterLine) ++ "\nOptions of ingest:\n" ++
    String.join (ingestParameters.map parameterLine)

def versionLine (title : String) : String := title ++ " " ++ programVersion ++ "\n"

def complaint : Interruption → String
  | .nothingGiven | .noCommand => "a command is required"
  | .unknownCommand => "there is no such command"
  | .unknownArgument => "there is an argument that is not known"
  | .noValue => "a value is required"
  | .unreadableValue => "a value cannot be read"
  | .unexpectedValue => "there is a value where none is expected"
  | .incomplete => "a required argument is missing"
  | .conflict => "an argument cannot be used twice or together with another one"
  | .help | .version _ => ""

def Interruption.text : Interruption → String
  | .help => helpText
  | .version title => versionLine title
  | i => "error: " ++ complaint i ++ "\n\n" ++ helpText

end MeetingInsights.CommandLine
