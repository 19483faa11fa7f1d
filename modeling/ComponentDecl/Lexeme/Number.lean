import ComponentDecl.Lexeme.Character

/-!
# Numbers

A number is the longest text at the head of the input that some form of numeral
allows.  Digits may be parted by single underscores.
-/

namespace ComponentDecl
namespace Lexeme

/-- Further digits, each after at most one underscore. -/
def moreDigits (p : Char → Bool) : Text → Text
  | '_' :: c :: rest => if p c then '_' :: c :: moreDigits p rest else []
  | c :: rest => if p c then c :: moreDigits p rest else []
  | [] => []

def digits (p : Char → Bool) : Text → Text
  | c :: rest => if p c then c :: moreDigits p rest else []
  | [] => []

/-- A numeral with a mark for its base, such as `0x1F`. -/
def based (low high : Char) (p : Char → Bool) : Text → Text
  | '0' :: m :: rest =>
      if m == low || m == high then
        match digits p rest with
        | [] => []
        | ds => '0' :: m :: ds
      else []
  | _ => []

def exponent : Text → Text
  | e :: rest =>
      if e == 'e' || e == 'E' then
        match rest with
        | s :: more =>
            if s == '-' || s == '+' then
              match digits isDigit more with
              | [] => []
              | ds => e :: s :: ds
            else
              match digits isDigit rest with
              | [] => []
              | ds => e :: ds
        | [] => []
      else []
  | [] => []

/-- Whether digits may stand before a point or an exponent: one zero, or digits
with at most one leading zero. -/
def isWholePart : Text → Bool
  | ['0'] => true
  | '0' :: c :: _ => isDigit c && c != '0'
  | c :: _ => isDigit c && c != '0'
  | [] => false

def fraction : Text → Text
  | '.' :: rest =>
      let ds := digits isDigit rest
      '.' :: ds ++ exponent (rest.drop ds.length)
  | t => exponent t

def decimal (t : Text) : Text :=
  match digits isDigit t with
  | [] =>
      match t with
      | '.' :: rest =>
          match digits isDigit rest with
          | [] => []
          | ds => '.' :: ds ++ exponent (rest.drop ds.length)
      | _ => []
  | ds =>
      let rest := t.drop ds.length
      if isWholePart ds then ds ++ fraction rest else ds

def withBigMark (numeral t : Text) : Text :=
  match numeral, t.drop numeral.length with
  | _ :: _, 'n' :: _ => numeral ++ ['n']
  | _, _ => numeral

/-- The longer of two texts, the first if they are equally long. -/
def longer (s t : Text) : Text :=
  if s.length < t.length then t else s

def number? (t : Text) : Option (Text × Text) :=
  let hex := based 'x' 'X' isHex t
  let binary := based 'b' 'B' (fun c => c == '0' || c == '1') t
  let octal := based 'o' 'O' (fun c => '0' ≤ c && c ≤ '7') t
  let best := [withBigMark hex t, withBigMark binary t, withBigMark octal t,
    withBigMark (digits isDigit t) t].foldl longer (decimal t)
  if best.isEmpty then none else some (best, t.drop best.length)

end Lexeme
end ComponentDecl
