import DartBlock.Mishap
import DartBlock.Path
import DartBlock.Text.LineBreak
import DartBlock.Text.Quoted
import DartBlock.Text.Utf8

/-!
# Files

How files are read as text: why a machine refuses to read one, and a directory that is given by its
contents.
-/

namespace DartBlock

inductive Refusal
  | missing
  | denied
  | notDirectory
  | isDirectory
  | longName
  deriving DecidableEq, Repr

namespace Refusal

def number : Refusal → Nat
  | .missing => 2
  | .denied => 13
  | .notDirectory => 20
  | .isDirectory => 21
  | .longName => 36

def wording : Refusal → String
  | .missing => "No such file or directory"
  | .denied => "Permission denied"
  | .notDirectory => "Not a directory"
  | .isDirectory => "Is a directory"
  | .longName => "File name too long"

def message (r : Refusal) (p : Path) : String :=
  "[Errno " ++ toString r.number ++ "] " ++ r.wording ++ ": " ++ p.text.inQuotes

end Refusal

/-- The text of bytes, with line feeds as its only line breaks. -/
def textOf (bytes : ByteArray) : Except Mishap String :=
  match Text.Utf8.decode? bytes with
  | some s => .ok s.withLineFeeds
  | none => .error .notUtf8

abbrev ReadFile := Path → Except Refusal ByteArray

/-- Why there is no text: the machine refuses to read the file, or its text cannot be had. -/
inductive TextFault
  | refused (r : Refusal)
  | mishap (m : Mishap)
  deriving DecidableEq, Repr

def ReadFile.bytes (read : ReadFile) (p : Path) : Except TextFault ByteArray :=
  if p.text.toList.contains '\x00' then .error (.mishap .zeroInPath)
  else (read p).mapError .refused

def ReadFile.text (read : ReadFile) (p : Path) : Except TextFault String := do
  (textOf (← read.bytes p)).mapError .mishap

/-! ## A directory given by its contents -/

inductive Entry
  | file (bytes : ByteArray)
  | directory

/-- The contents of a directory and of those in it, by the parts of their paths. -/
structure Files where
  entries : List (List String × Entry) := []

namespace Files

def ofNames (named : List (String × Entry)) : Files where
  entries := named.map fun e => ((Path.ofString e.1).parts, e.2)

/-- What stands at a place. What holds an entry is a directory. -/
def entry? (f : Files) (place : List String) : Option Entry :=
  match f.entries.lookup place with
  | some e => some e
  | none =>
    if f.entries.any fun e => place.isPrefixOf e.1 then some .directory else none

/-- The greatest number of bytes of a name. -/
def nameLimit : Nat := 255

/-- Follows the parts of a path from a place. Outside the directory nothing is found; `none`
stands for such a place. -/
def walk (f : Files) : (place : Option (List String)) → List String → Except Refusal ByteArray
  | _, [] => .error .isDirectory
  | none, ".." :: rest => f.walk none rest
  | some [], ".." :: rest => f.walk none rest
  | some place, ".." :: rest => f.walk (some place.dropLast) rest
  | place?, name :: rest =>
    if name.utf8ByteSize > nameLimit then .error .longName
    else match place?.bind fun place => f.entry? (place ++ [name]) with
      | none => .error .missing
      | some .directory => f.walk (place?.map (· ++ [name])) rest
      | some (.file bytes) => if rest.isEmpty then .ok bytes else .error .notDirectory

def pathLimit : Nat := 4095

def read (f : Files) : ReadFile := fun p =>
  if p.text.utf8ByteSize > pathLimit then .error .longName
  else f.walk (if p.root = "" then some [] else none) p.parts

end Files

end DartBlock
