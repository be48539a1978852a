import DartBlock.Settings
import DartBlock.Text.Lowercase

/-!
# Directives

The header arguments of one block: which mode it is run in, how its result is to be shaped,
and what overrides the settings. They are read off the texts of keys and values, so a number that is
too long to be written is a mishap wherever its text is asked for.
-/

namespace DartBlock

/-- What the header of a block asks for. -/
structure Directives where
  mode : Mode := .value
  flags : List String := []
  command : Datum := .null
  session : Datum := .null
  extra : List (String × Datum) := []
  deriving Repr

namespace Datum

/-- The words of a value: those of a text, or those of the items of a collection; any other
value is one word. -/
def words : Datum → List String
  | .null => []
  | .text s => s.blankWords
  | .mode m => [m.word]
  | .bytes bs => bs.map fun b => toString b.toNat
  | .list items => items.flatMap fun x => x.display.blankWords
  | .set items => items.flatMap fun x => x.display.blankWords
  | .mapping entries => entries.flatMap fun e => e.1.display.blankWords
  | x => [x.display]

/-- Whether one of the words is asked of a value without a text. -/
def hasLongWord : Datum → Bool
  | .list items => items.any isLong
  | .set items => items.any isLong
  | .mapping entries => entries.any fun e => isLong e.1
  | x => x.isLong

def folded (x : Datum) : String := x.display.stripped.lowercased

/-- Whether a session value asks for a session, as far as that can be told from its text. -/
def wantsSession (session : Datum) : Except Mishap Bool :=
  if session.isLong then .error .longNumber
  else match session with
    | .null => .ok false
    | x => .ok (x.folded != "" && x.folded != "none")

def mode? : Datum → Option Mode
  | .mode m => some m
  | x => Mode.ofWord? x.folded

end Datum

namespace Directives

inductive Key
  | results
  | resultType
  | resultFormat
  | command
  | session
  | extra (name : String)
  deriving DecidableEq, Repr

/-- The name of a key: colons in front and the case of letters do not matter. -/
def Key.nameOf (key : Datum) : String :=
  (String.ofList (key.display.toList.dropWhile (· == ':'))).lowercased

def Key.ofDatum (key : Datum) : Key :=
  let name := nameOf key
  if name = "results" then .results
  else if name = "result-type" ∨ name = "result_type" then .resultType
  else if name = "result-format" ∨ name = "result_format" then .resultFormat
  else if name = "cmd" ∨ name = "command" ∨ name = "external-command-override"
      ∨ name = "external_command_override" then .command
  else if name = "session" then .session
  else .extra name

structure Draft where
  mode : Option Mode := none
  flags : List String := []
  command : Option String := none
  session : Datum := .null
  extra : List (String × Datum) := []

namespace Draft

/-- Takes in one word of the results: a mode counts if it is the first, anything else is a
flag. -/
def addWord (d : Draft) (word : String) : Draft :=
  let w := word.lowercased
  match Mode.ofWord? w with
  | some m => { d with mode := d.mode.or (some m) }
  | none => { d with flags := d.flags ++ [w] }

/-- Sets an extra entry; one that is there keeps its place. -/
def putExtra (name : String) (value : Datum) : List (String × Datum) → List (String × Datum)
  | [] => [(name, value)]
  | (n, v) :: rest =>
    if n = name then (n, value) :: rest else (n, v) :: putExtra name value rest

/-- Whether an entry has to be read off a text that cannot be had. The value of an extra entry is
kept as it is. -/
def isUnreadable (entry : Datum × Datum) : Bool :=
  entry.1.isLong || match Key.ofDatum entry.1 with
    | .results | .resultFormat => entry.2.hasLongWord
    | .resultType | .command | .session => entry.2.isLong
    | .extra _ => false

def add (d : Draft) (entry : Datum × Datum) : Except Fault Draft :=
  let value := entry.2
  if isUnreadable entry then .error (.mishap .longNumber)
  else match Key.ofDatum entry.1 with
  | .results => .ok (value.words.foldl addWord d)
  | .resultType =>
    match value.mode? with
    | some m => .ok { d with mode := some m }
    | none => .error (.configuration (.badResultType value))
  | .resultFormat => .ok { d with flags := d.flags ++ value.words.map String.lowercased }
  | .command =>
    .ok { d with command := match value with | .null => none | x => some x.display.stripped }
  | .session =>
    .ok { d with session := match value with | .null => .null | x => .text x.display }
  | .extra name => .ok { d with extra := putExtra name value d.extra }

def finish (d : Draft) : Directives where
  mode := d.mode.getD .value
  flags := d.flags.eraseDups
  command := match d.command with
    | some c => if c = "" then .null else .text c
    | none => .null
  session := d.session
  extra := d.extra

end Draft

def ofEntries (entries : Entries) : Except Fault Directives :=
  (entries.foldlM Draft.add {}).map Draft.finish

def wantsSession (d : Directives) : Except Mishap Bool := d.session.wantsSession

def override? (d : Directives) : Option Datum :=
  if d.command.isTrue then some d.command else none

end Directives

def Settings.withOverrides (s : Settings) (d : Directives) : Settings :=
  match d.override? with
  | some command => { s with command }
  | none => s

/-- What a block comes with: nothing, directives, the entries of a header, or a value that is
none of these. -/
inductive Header
  | absent
  | directives (d : Directives)
  | entries (es : Entries)
  | other (kind : String)
  deriving Repr

namespace Header

def ofDatum : Datum → Header
  | .null => .absent
  | .bool _ => .other "bool"
  | .int _ => .other "int"
  | .float _ => .other "float"
  | .text _ => .other "str"
  | .mode _ => .other "ResultType"
  | .bytes _ => .other "bytes"
  | .moment _ => .other "datetime"
  | .list _ | .recurring false => .other "list"
  | .set _ => .other "set"
  | .mapping es => .entries es
  | .recurring true => .other "dict"

def read : Header → Except Fault Directives
  | .absent => .ok {}
  | .directives d => .ok d
  | .entries es => Directives.ofEntries es
  | .other kind => .error (.configuration (.badHeader kind))

end Header

end DartBlock
