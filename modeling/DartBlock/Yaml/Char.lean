/-!
# YAML characters

The character classes that reading and writing YAML share. The end of a text is shown as NUL,
which no YAML text holds.
-/

namespace DartBlock.Yaml

def isBreak (c : Char) : Bool :=
  c == '\n' || c == '\u0085' || c == '\u2028' || c == '\u2029'

def endsLine (c : Char) : Bool := c == '\x00' || isBreak c

def endsPart (c : Char) : Bool := c == ' ' || endsLine c

def endsWord (c : Char) : Bool := c == '\t' || endsPart c

def isAllowed (c : Char) : Bool :=
  let n := c.toNat
  n == 0x09 || n == 0x0A || n == 0x0D || (0x20 ≤ n && n ≤ 0x7E) || n == 0x85
    || (0xA0 ≤ n && n ≤ 0xD7FF) || (0xE000 ≤ n && n ≤ 0xFFFD) || 0x10000 ≤ n

end DartBlock.Yaml
