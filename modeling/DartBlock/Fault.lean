import DartBlock.Datum.Display
import DartBlock.Mishap
import DartBlock.Shell.Words
import DartBlock.Text.Blank

/-!
# Faults

Why a block cannot be run. A fault is kept as its cause; `Fault.message` gives the wording.
-/

namespace DartBlock

inductive ConfigurationFault
  | noBodySlot
  | unknownKeys (keys : List String)
  | notText (key : String)
  | unreadableFile (path reason : String)
  | invalidYaml (path : String)
  | noMapping (path : String)
  | badResultType (value : Datum)
  | badHeader (kind : String)
  | badMode (mode : Datum)
  | badCommand (command : String) (reason : Shell.SplitFault)
  | emptyCommand
  | commandNotFound (name : String)
  deriving Repr

/-- The wording of a configuration fault. What a YAML reader has to say in detail is left out:
the message ends with the file's name. -/
def ConfigurationFault.message : ConfigurationFault → String
  | .noBodySlot => "Wrapper template has no '%s' placeholder for the snippet body"
  | .unknownKeys keys => "Unknown configuration keys: " ++ ", ".intercalate keys
  | .notText key => "Configuration key '" ++ key ++ "' must be a string"
  | .unreadableFile path reason =>
    "Cannot read configuration file " ++ path ++ ": " ++ reason
  | .invalidYaml path => "Invalid YAML in configuration file " ++ path
  | .noMapping path => "Configuration file " ++ path ++ " must contain a mapping"
  | .badResultType value =>
    "Invalid result-type directive " ++ value.quoted ++ ": expected 'output' or 'value'"
  | .badHeader kind =>
    "Directives must be a Directives instance or a mapping, got " ++ kind
  | .badMode mode =>
    "Invalid result mode " ++ mode.quoted ++ ": expected one of "
      ++ ", ".intercalate (Mode.all.map Mode.word)
  | .badCommand command reason =>
    "Cannot parse external command " ++ command.inQuotes ++ ": " ++ reason.message
  | .emptyCommand => "External command is empty"
  | .commandNotFound name => "External command not found: " ++ name.inQuotes

structure ExecutionFailure where
  summary : String
  exitCode : Option Int := none
  stderr : String := ""
  command : List String := []
  deriving DecidableEq, Repr

namespace ExecutionFailure

/-- How many characters of the error output a message shows. -/
def detailLimit : Nat := 2000

/-- The error output as a message shows it: stripped, and cut if it is long. -/
def detail (f : ExecutionFailure) : List Char :=
  let cs := Text.strip f.stderr.toList
  if cs.length > detailLimit then cs.take detailLimit ++ ['\n', '.', '.', '.'] else cs

/-- The summary, the exit code if there is one, and the error output on lines of its own. -/
def message (f : ExecutionFailure) : String :=
  let head := match f.exitCode with
    | some code => f.summary ++ " (exit code " ++ toString code ++ ")"
    | none => f.summary
  if f.detail.isEmpty then head else head ++ "\n" ++ String.ofList f.detail

end ExecutionFailure

/-- Why a block cannot be run. A dispatch fault is a program that did not accept its mode. -/
inductive Fault
  | configuration (cause : ConfigurationFault)
  | session (name : Datum)
  | execution (failure : ExecutionFailure)
  | dispatch (failure : ExecutionFailure)
  | mishap (m : Mishap)
  deriving Repr

namespace Fault

def kind : Fault → String
  | .configuration _ => "ConfigurationError"
  | .session _ => "SessionUnsupportedError"
  | .execution _ => "ExecutionError"
  | .dispatch _ => "GuestDispatchError"
  | .mishap _ => "Mishap"

/-- The wording of a fault. A mishap comes with none. -/
def message : Fault → String
  | .configuration cause => cause.message
  | .session name =>
    "Dart blocks do not support sessions (requested session: " ++ name.quoted ++ ")"
  | .execution failure => failure.message
  | .dispatch failure => failure.message
  | .mishap _ => ""

def isReported : Fault → Bool
  | .mishap _ => false
  | _ => true

def failure? : Fault → Option ExecutionFailure
  | .execution failure | .dispatch failure => some failure
  | _ => none

end Fault

end DartBlock
