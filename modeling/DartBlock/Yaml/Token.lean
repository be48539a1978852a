import DartBlock.Yaml.Trouble

/-!
# Tokens of YAML

The parts of a document: marks, labels and scalars. The marks that begin and end a block stand
for a change of the indentation.
-/

namespace DartBlock.Yaml

inductive Directive
  | version (major : Nat)
  | handle (name stem : String)
  | unknown
  deriving DecidableEq, Repr

/-- A part of a document. -/
inductive Token
  | directive (d : Directive)
  | documentStart
  | documentEnd
  | blockSequence
  | blockMapping
  | blockEnd
  | flowSequence
  | flowSequenceEnd
  | flowMapping
  | flowMappingEnd
  | entry
  | comma
  | key
  | value
  | alias (name : String)
  | anchor (name : String)
  | tag (handle : Option String) (suffix : String)
  | scalar (text : List Char) (plain : Bool)
  | finish
  /-- The place where the text breaks the rules. -/
  | broken (t : Trouble)
  deriving DecidableEq, Repr

end DartBlock.Yaml
