import DartBlock.Yaml.Trouble

/-!
# Mishaps

What goes wrong without a message. Nothing looks out for a mishap: it ends the work it comes up in,
and no report is made of it.
-/

namespace DartBlock

inductive Mishap
  | notUtf8
  | zeroInPath
  /-- A number has more digits than are written. -/
  | longNumber
  /-- A command is no text. -/
  | noCommand
  /-- A directory is no text. -/
  | noPath
  /-- A word that is handed to a process holds a zero character. -/
  | zeroInWord
  /-- A text that is to be written has no UTF-8. -/
  | notEncodable
  | yaml (t : Yaml.Trouble)
  deriving DecidableEq, Repr

end DartBlock
