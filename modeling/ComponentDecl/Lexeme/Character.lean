import ComponentDecl.Text

/-!
# Character classes of the grammar

The classes that decide where lexemes begin and end.
-/

namespace ComponentDecl
namespace Lexeme

/-- The six white space characters of ASCII. -/
def isSpace (c : Char) : Bool :=
  let n := c.toNat
  (9 ≤ n && n ≤ 13) || n == 32

def isSeparator (c : Char) : Bool :=
  c.toNat == 0x2028 || c.toNat == 0x2029

/-- Line feed and the two separators: what can stand for a semicolon. -/
def isLineEnd (c : Char) : Bool :=
  c == '\n' || isSeparator c

/-- The characters that may stand between lexemes: ASCII white space, the space
separators of Unicode, the line separators and four invisible characters. -/
def isGap (c : Char) : Bool :=
  let n := c.toNat
  isSpace c || n == 0xA0 || n == 0x1680 || (0x2000 ≤ n && n ≤ 0x200B) ||
    n == 0x2028 || n == 0x2029 || n == 0x202F || n == 0x205F || n == 0x2060 ||
    n == 0x3000 || n == 0xFEFF

def isDigit (c : Char) : Bool :=
  let n := c.toNat
  48 ≤ n && n ≤ 57

/-- The Latin letters. -/
def isLetter (c : Char) : Bool :=
  let n := c.toNat
  (65 ≤ n && n ≤ 90) || (97 ≤ n && n ≤ 122)

def isHex (c : Char) : Bool :=
  let n := c.toNat
  isDigit c || (65 ≤ n && n ≤ 70) || (97 ≤ n && n ≤ 102)

/-- The ASCII characters with a meaning of their own, which no word contains. -/
def marks : Text :=
  ":;\x60\"'@#.,|^&<=>+-*/\\%?!~()[]\x7b\x7d"

def isWordChar (c : Char) : Bool :=
  !(c.toNat ≤ 0x1F || isGap c || marks.contains c)

def isWordStart (c : Char) : Bool :=
  isWordChar c && !isDigit c

end Lexeme
end ComponentDecl
