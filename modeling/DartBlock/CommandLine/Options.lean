import DartBlock.Format
import DartBlock.Text.Digit
import DartBlock.Text.Quoted

/-!
# Arguments of the command line

What the arguments ask for. An argument that begins with a hyphen is a switch, except where it
reads like a number or holds a space; a switch may be shortened as long as no other begins like
it, and its value is the next argument or follows an equals sign. After two hyphens alone no
argument is a switch.
-/

namespace DartBlock.CommandLine

inductive Switch
  | help
  | results
  | command
  | session
  | config
  | expand
  | format
  deriving DecidableEq, Repr

namespace Switch

/-- All switches, in the order they are listed. -/
def all : List Switch := [.help, .results, .command, .session, .config, .expand, .format]

def long : Switch → String
  | .help => "--help"
  | .results => "--results"
  | .command => "--cmd"
  | .session => "--session"
  | .config => "--config"
  | .expand => "--expand"
  | .format => "--format"

def short? : Switch → Option String
  | .help => some "-h"
  | _ => none

def title (s : Switch) : String :=
  match s.short? with
  | some short => short ++ "/" ++ s.long
  | none => s.long

end Switch

/-- What the arguments ask to be done with a file. -/
structure Options where
  file : String
  results : Option String := none
  command : Option String := none
  session : Option String := none
  config : Option String := none
  expand : Bool := false
  format : Format := .text
  deriving DecidableEq, Repr

inductive Request
  | help
  | run (o : Options)
  deriving DecidableEq, Repr

inductive UsageFault
  | ambiguous (argument : String) (switches : List Switch)
  | noValue (s : Switch)
  | needlessValue (s : Switch) (value : String)
  | badFormat (word : String)
  | noFile
  | unrecognized (arguments : List String)
  deriving DecidableEq, Repr

def UsageFault.message : UsageFault → String
  | .ambiguous argument switches =>
    "ambiguous option: " ++ argument ++ " could match "
      ++ ", ".intercalate (switches.map Switch.long)
  | .noValue s => "argument " ++ s.title ++ ": expected one argument"
  | .needlessValue s value =>
    "argument " ++ s.title ++ ": ignored explicit argument " ++ value.inQuotes
  | .badFormat word =>
    "argument " ++ Switch.format.title ++ ": invalid choice: " ++ word.inQuotes
      ++ " (choose from " ++ ", ".intercalate (Format.all.map fun f => f.word.inQuotes) ++ ")"
  | .noFile => "the following arguments are required: file"
  | .unrecognized arguments => "unrecognized arguments: " ++ " ".intercalate arguments

/-! ## The parts of a command line -/

inductive Item
  | argument (s : String)
  | separator
  | switch (s : Switch) (isShort : Bool) (value : Option String)
  | unknown (s : String)
  deriving DecidableEq, Repr

/-- The two hyphens after which no argument is a switch. -/
def separatorText : String := "--"

/-- The switch with exactly this form, and whether it is the short one. -/
def formOf? (name : String) : Option (Switch × Bool) :=
  if Switch.help.short? = some name then some (.help, true)
  else (Switch.all.find? fun s => s.long == name).map fun s => (s, false)

/-- What stands before an equals sign, and what after it, if there is one. -/
def cutValue (cs : List Char) : List Char × Option String :=
  let name := cs.takeWhile (· != '=')
  match cs.drop name.length with
  | _ :: value => (name, some (String.ofList value))
  | [] => (name, none)

/-- Whether a text is written like a negative number: digits, or a point with digits after it. A
line feed at the end does not count. -/
def isNegativeNumber (cs : List Char) : Bool :=
  let isDigit (c : Char) : Bool := (Text.westernDigit c).isDigit
  let cs := if cs.getLast? = some '\n' then cs.dropLast else cs
  match cs with
  | '-' :: body =>
    match body.dropWhile isDigit with
    | [] => !body.isEmpty
    | '.' :: fraction => !fraction.isEmpty && fraction.all isDigit
    | _ => false
  | _ => false

/-- What an argument is that begins with a hyphen and is no exact form of a switch. -/
def inexact (argument : String) : Except UsageFault Item :=
  let cs := argument.toList
  let (name, value) := cutValue cs
  let other : Item :=
    if isNegativeNumber cs || cs.contains ' ' then .argument argument else .unknown argument
  match value, formOf? (String.ofList name) with
  | some v, some (s, isShort) => .ok (.switch s isShort (some v))
  | _, _ =>
    match cs with
    | '-' :: '-' :: _ =>
      match Switch.all.filter fun s => name.isPrefixOf s.long.toList with
      | [] => .ok other
      | [s] => .ok (.switch s false value)
      | ss => .error (.ambiguous argument ss)
    | '-' :: 'h' :: rest => .ok (.switch .help true (some (String.ofList rest)))
    | _ => .ok other

def itemOf (argument : String) : Except UsageFault Item :=
  if argument.toList.head? ≠ some '-' ∨ argument = "-" then .ok (.argument argument)
  else match formOf? argument with
    | some (s, isShort) => .ok (.switch s isShort none)
    | none => inexact argument

def items : List String → Except UsageFault (List Item)
  | [] => .ok []
  | a :: as =>
    if a = separatorText then .ok (.separator :: as.map .argument)
    else do
      let i ← itemOf a
      return i :: (← items as)

/-! ## What the parts ask for -/

structure Draft where
  file : Option String := none
  options : Options := { file := "" }
  extras : List String := []

namespace Draft

/-- Takes in an argument: the first one is the file. -/
def addArgument (d : Draft) (a : String) : Draft :=
  match d.file with
  | none => { d with file := some a }
  | some _ => { d with extras := d.extras ++ [a] }

def addExtra (d : Draft) (a : String) : Draft := { d with extras := d.extras ++ [a] }

/-- Sets the value of a switch; no value sets it back. -/
def set (d : Draft) (s : Switch) (value : Option String) : Except UsageFault Draft :=
  let o := d.options
  match s with
  | .help => .ok d
  | .expand => .ok { d with options := { o with expand := true } }
  | .results => .ok { d with options := { o with results := value } }
  | .command => .ok { d with options := { o with command := value } }
  | .session => .ok { d with options := { o with session := value } }
  | .config => .ok { d with options := { o with config := value } }
  | .format =>
    match value with
    | none => .ok { d with options := { o with format := .text } }
    | some word =>
      match Format.ofWord? word with
      | some format => .ok { d with options := { o with format } }
      | none => .error (.badFormat word)

def finish (d : Draft) : Except UsageFault Request :=
  match d.file with
  | none => .error .noFile
  | some file =>
    if d.extras = [] then .ok (.run { d.options with file })
    else .error (.unrecognized d.extras)

end Draft

/-- What follows the short form of help in the same argument: only more of it. -/
def helpTail : List Char → Except UsageFault Request
  | ['h'] => .ok .help
  | 'h' :: cs => helpTail cs
  | cs => .error (.needlessValue .help (String.ofList cs))

/-- The value that follows a switch in the same argument. Two hyphens alone are no value. -/
def joined (value : String) : Option String :=
  if value = separatorText then none else some value

/-- Reads the rest of a command line. An argument takes the separator next to it along, if it is
the file. -/
def request (d : Draft) : List Item → Except UsageFault Request
  | [] => d.finish
  | .argument a :: .separator :: rest =>
    if d.file.isNone then request (d.addArgument a) rest
    else request ((d.addExtra a).addExtra separatorText) rest
  | .argument a :: rest => request (d.addArgument a) rest
  | .separator :: .argument a :: rest =>
    if d.file.isNone then request (d.addArgument a) rest
    else request ((d.addExtra separatorText).addExtra a) rest
  | .separator :: rest => request (d.addExtra separatorText) rest
  | .unknown a :: rest => request (d.addExtra a) rest
  | .switch .help _ none :: _ => .ok .help
  | .switch .help true (some value) :: _ => helpTail value.toList
  | .switch .expand _ none :: rest => do request (← d.set .expand none) rest
  | .switch .help false (some value) :: _ => .error (.needlessValue .help value)
  | .switch .expand _ (some value) :: _ => .error (.needlessValue .expand value)
  | .switch s _ (some value) :: rest => do request (← d.set s (joined value)) rest
  | .switch s _ none :: .argument value :: rest => do request (← d.set s (some value)) rest
  | .switch s _ none :: _ => .error (.noValue s)

def readArguments (arguments : List String) : Except UsageFault Request := do
  request {} (← items arguments)

end DartBlock.CommandLine
