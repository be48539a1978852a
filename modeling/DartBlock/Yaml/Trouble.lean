/-!
# Troubles with YAML

Why a text is no YAML document, or why a value it describes cannot be made.
-/

namespace DartBlock.Yaml

/-- What is wrong with a text. The first is a document that breaks the rules of the language, and
the second a text that is none; the others are documents that keep the rules and describe a value
that does not exist. -/
inductive Trouble
  | invalid
  | notUtf8
  /-- A text tagged as a number has no digits. -/
  | noDigits
  /-- A text tagged as a number is written like none. -/
  | noNumber
  /-- A number to the base sixty has too many places. -/
  | tooLong
  /-- A text tagged as a truth value is none of their words. -/
  | noTruth (word : String)
  /-- A text tagged as a moment is written like none. -/
  | noMoment
  /-- A mapping is tagged as a moment. -/
  | mappedMoment
  /-- The calendar or the clock has no such moment. -/
  | noSuchMoment
  /-- A scalar is given by a mapping that leads back to itself. -/
  | endless
  /-- An escape is beyond the last character. -/
  | noCharacter
  /-- An escape is beyond every number of 31 bits. -/
  | wideEscape
  deriving DecidableEq, Repr

end DartBlock.Yaml
