import DartBlock.Datum.Basic
import DartBlock.Mishap
import DartBlock.Shell.Quote
import DartBlock.Text.LineBreak
import DartBlock.Text.Utf8

/-!
# The host

What the library asks of the machine it runs on, and the record of what was asked. A host
answers look-ups of commands and may fail to create, write or remove a scratch file; a process
either cannot be started or prints some bytes and ends with an exit code. Before any of that the
host looks at what it is handed, and does nothing with what is no directory, text or command at all.
-/

namespace DartBlock

/-- What a host is handed: a directory for a scratch file, a text that is to be written, or the
words of a process. -/
inductive Argument
  | directory (value : Datum)
  | text (s : String)
  | words (argv : List String)
  deriving Repr

/-- What is wrong with an argument itself. A directory is none at all or a text without zero
characters, and so is each word. -/
def Argument.mishap? : Argument → Option Mishap
  | .directory .null => none
  | .directory value =>
    match value.text? with
    | some s => if s.toList.contains '\x00' then some .zeroInPath else none
    | none => some .noPath
  | .text _ => none
  | .words argv => if argv.any fun w => w.toList.contains '\x00' then some .zeroInWord else none

/-- The answers of a machine. A text stands for the reason of a failure. -/
structure Host where
  which : String → Option String
  /-- What is wrong with an argument. A text in here always has UTF-8. Where one stands for a text
  with half of a surrogate pair, which has none, it is left to the machine to tell. -/
  mishap? : Argument → Option Mishap := Argument.mishap?
  creationError : Option String := none
  writeError : Option String := none
  removalError : Option String := none

inductive Guest
  | unstartable (reason : String)
  | ends (stdout stderr : ByteArray) (exitCode : Int)

/-- The text of captured bytes: invalid UTF-8 is replaced and line breaks become line feeds. -/
def captured (bytes : ByteArray) : String :=
  (Text.Utf8.decodeLossy bytes).withLineFeeds

/-- One request to the host. A creation tells which file it made, and a write whether all of the
text was written. A run is asked for whether or not the process can be started. -/
inductive Event
  | lookup (name : String)
  | create (directory : Datum) (path : Option String)
  | write (path text : String) (complete : Bool)
  | run (argv : List String)
  | remove (path : String)
  deriving Repr

def Event.creates : Event → Bool
  | .create _ (some _) => true
  | _ => false

/-- The path of the scratch file made after `made` others. -/
def scratchPath (made : Nat) : String :=
  "/scratch/obdart-" ++ toString (made + 1) ++ ".dart"

/-- A remark on what is going on, shown when debugging. -/
inductive Note
  | wrapped
  | verbatim
  | valueUnavailable
  | started (argv : List String)
  | kept (path : String)
  | cleanupFailed (path reason : String)
  | ended (exitCode : Int) (stdout stderr : Nat)
  | table (rows columns : Nat)
  deriving DecidableEq, Repr

namespace Note

def lineOf (words : List String) : String :=
  " ".intercalate ("[DBG]" :: words) ++ "\n"

def words : Note → List String
  | .wrapped => ["CLASSIFY", "wrapped"]
  | .verbatim => ["CLASSIFY", "verbatim (own main)"]
  | .valueUnavailable =>
    ["CLASSIFY value requested for a block with its own main; running unwrapped"]
  | .started argv => ["INVOKE", Shell.join argv]
  | .kept path => ["keeping scratch file", path]
  | .cleanupFailed path reason => ["scratch cleanup failed", path, reason]
  | .ended code stdout stderr =>
    ["EXIT", toString code, "stdout bytes", toString stdout, "stderr bytes", toString stderr]
  | .table rows columns => ["SHAPE table", toString rows, "x", toString columns]

def line (n : Note) : String := lineOf n.words

end Note

end DartBlock
