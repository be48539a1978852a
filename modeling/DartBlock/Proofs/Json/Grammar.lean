import DartBlock.Json.Reader
import DartBlock.Proofs.Number.Reading

/-!
# The JSON grammar

Which texts stand for which values. Nothing here says how a text is read: a text may be cut into
parts in any way in which the parts are again of the grammar.

* `IsSymbol` and `IsString` are the characters of strings, with their escapes.
* `IsNumber` are the numbers.
* `IsValue`, `AreItems` and `AreMembers` are the values, with the items of arrays and the members of
  objects.
* `IsText` allows white space around a value.
-/

namespace DartBlock.Json

def IsGaps (cs : List Char) : Prop := ∀ c ∈ cs, isSpace c

theorem isGaps_nil : IsGaps [] := List.forall_mem_nil _

/-! ## Strings -/

def IsUnit (ds : List Char) (n : Nat) : Prop := IsNumeral 16 ds n ∧ ds.length = 4

/-- How a character is written in a string. -/
inductive IsSymbol : List Char → Char → Prop
  | /-- As itself, but for the quotation mark, the backslash and the control characters. -/
    plain {c : Char} : 0x20 ≤ c.toNat → c ≠ '"' → c ≠ '\\' → IsSymbol [c] c
  | /-- As a letter or a mark behind a backslash. -/
    short {e c : Char} : simpleEscape? e = some c → IsSymbol ['\\', e] c
  | /-- As its number. -/
    unit {ds : List Char} {c : Char} : IsUnit ds c.toNat → IsSymbol ('\\' :: 'u' :: ds) c
  | /-- Beyond U+FFFF, as a high and a low surrogate. -/
    pair {ds es : List Char} {high low : Nat} {c : Char} :
      IsUnit ds high → 0xD800 ≤ high → high < 0xDC00 →
      IsUnit es low → 0xDC00 ≤ low → low < 0xE000 →
      c.toNat = 0x10000 + (high - 0xD800) * 0x400 + (low - 0xDC00) →
      IsSymbol ('\\' :: 'u' :: ds ++ '\\' :: 'u' :: es) c

inductive IsString : List Char → List Char → Prop
  | /-- The empty text. -/
    nil : IsString [] []
  | /-- A character before others. -/
    cons {symbol cs : List Char} {c : Char} {s : List Char} :
      IsSymbol symbol c → IsString cs s → IsString (symbol ++ cs) (c :: s)

/-! ## Numbers -/

/-- There are characters, and the first one is a zero only if it is the only one. -/
def IsUnpadded (ds : List Char) : Prop := ds ≠ [] ∧ (ds.head? = some '0' → ds = ['0'])

/-- The digits of a fraction after the point, if there are any. -/
def fractionOf (fs : List Char) : List Char := if fs = [] then [] else '.' :: fs

inductive IsExponent : List Char → Int → Prop
  | /-- No exponent. -/
    absent : IsExponent [] 0
  | /-- An exponent with a sign or without. -/
    given {mark : Char} {sign ds : List Char} {n : Nat} : mark = 'e' ∨ mark = 'E' →
      sign ∈ [[], ['+'], ['-']] → IsNumeral 10 ds n →
      IsExponent (mark :: (sign ++ ds)) (if sign = ['-'] then -n else n)

/-- How a number is written behind its sign. -/
inductive IsUnsigned (negative : Bool) : List Char → Value → Prop
  | /-- A whole number. -/
    whole {ds : List Char} {n : Nat} : IsUnpadded ds → IsNumeral 10 ds n →
      IsUnsigned negative ds (.int (if negative then -n else n))
  | /-- A number with a fraction, an exponent or both. -/
    float {ds fs es : List Char} {n : Nat} {e : Int} : IsUnpadded ds →
      IsNumeral 10 (ds ++ fs) n → IsExponent es e → fractionOf fs ++ es ≠ [] →
      IsUnsigned negative (ds ++ (fractionOf fs ++ es))
        (.float (.ofDecimal negative n (e - fs.length)))

inductive IsNumber : List Char → Value → Prop
  | /-- Without a sign. -/
    positive {cs : List Char} {v : Value} : IsUnsigned false cs v → IsNumber cs v
  | /-- With a minus sign. -/
    negative {cs : List Char} {v : Value} : IsUnsigned true cs v → IsNumber ('-' :: cs) v

/-! ## Values -/

/-- How the name of a member is written, with the colon and the white space next to them. -/
inductive IsName : List Char → List Char → Prop
  | /-- A string and a colon. -/
    mk {before cs between after s : List Char} :
      IsGaps before → IsString cs s → IsGaps between → IsGaps after →
      IsName (before ++ '"' :: cs ++ '"' :: between ++ ':' :: after) s

mutual

inductive IsValue : List Char → Value → Prop
  | /-- The word for nothing. -/
    null : IsValue ['n', 'u', 'l', 'l'] .null
  | /-- The word for truth. -/
    yes : IsValue ['t', 'r', 'u', 'e'] (.bool true)
  | /-- The word for falsehood. -/
    no : IsValue ['f', 'a', 'l', 's', 'e'] (.bool false)
  | /-- A number. -/
    number {cs : List Char} {v : Value} : IsNumber cs v → IsValue cs v
  | /-- A string. -/
    string {cs s : List Char} : IsString cs s →
      IsValue ('"' :: cs ++ ['"']) (.string (.ofList s))
  | /-- An empty array. -/
    noItems {gaps : List Char} : IsGaps gaps → IsValue ('[' :: gaps ++ [']']) (.array [])
  | /-- An array with items. -/
    items {cs : List Char} {vs : List Value} : AreItems cs vs →
      IsValue ('[' :: cs ++ [']']) (.array vs)
  | /-- An empty object. -/
    noMembers {gaps : List Char} : IsGaps gaps → IsValue ('{' :: gaps ++ ['}']) (.object [])
  | /-- An object with members. -/
    members {cs : List Char} {ms : List (String × Value)} : AreMembers cs ms →
      IsValue ('{' :: cs ++ ['}']) (.object ms)

inductive AreItems : List Char → List Value → Prop
  | /-- A single item. -/
    one {before cs after : List Char} {v : Value} :
      IsGaps before → IsValue cs v → IsGaps after → AreItems (before ++ cs ++ after) [v]
  | /-- An item before others. -/
    cons {before cs after others : List Char} {v : Value} {vs : List Value} :
      IsGaps before → IsValue cs v → IsGaps after → AreItems others vs →
      AreItems (before ++ cs ++ after ++ ',' :: others) (v :: vs)

inductive AreMembers : List Char → List (String × Value) → Prop
  | /-- A single member. -/
    one {name cs after s : List Char} {v : Value} :
      IsName name s → IsValue cs v → IsGaps after →
      AreMembers (name ++ cs ++ after) [(.ofList s, v)]
  | /-- A member before others. -/
    cons {name cs after others s : List Char} {v : Value} {ms : List (String × Value)} :
      IsName name s → IsValue cs v → IsGaps after → AreMembers others ms →
      AreMembers (name ++ cs ++ after ++ ',' :: others) ((.ofList s, v) :: ms)

end

/-- A text that stands for a value. -/
def IsText (text : String) (v : Value) : Prop :=
  ∃ before cs after, IsGaps before ∧ IsValue cs v ∧ IsGaps after ∧
    text.toList = before ++ cs ++ after

end DartBlock.Json
