import ComponentDecl.Text

/-!
# Blank characters

The characters with the Unicode property `White_Space`, and trimming by them.
-/

namespace ComponentDecl
namespace Text

/-- The characters with the Unicode property `White_Space`. -/
def isBlank (c : Char) : Bool :=
  let n := c.toNat
  (9 ≤ n && n ≤ 13) || n == 0x20 || n == 0x85 || n == 0xA0 || n == 0x1680 ||
    (0x2000 ≤ n && n ≤ 0x200A) || n == 0x2028 || n == 0x2029 || n == 0x202F ||
    n == 0x205F || n == 0x3000

def trimStart (t : Text) : Text :=
  t.dropWhile isBlank

def trimEnd (t : Text) : Text :=
  (t.reverse.dropWhile isBlank).reverse

def trim (t : Text) : Text :=
  trimEnd (trimStart t)

/-- A text without the carriage returns at its end. -/
def trimReturns (t : Text) : Text :=
  (t.reverse.dropWhile (· == '\r')).reverse

end Text
end ComponentDecl
