import ComponentDecl.Text

/-!
# JSON

Reading of JSON texts.  Strings are kept as the pieces they are written with, since an
escape may stand for half a character; whether the pieces make up a text is decided
only where the text is wanted.
-/

namespace ComponentDecl

/-- A piece of a JSON string: a character, or a unit of sixteen bits given by an
escape. -/
inductive Piece where
  | char (c : Char)
  | unit (n : Nat)
  deriving DecidableEq, Repr

namespace Piece

/-- Whether a unit is the first half of a character. -/
def isHigh (n : Nat) : Bool := 0xD800 ≤ n && n < 0xDC00

def isLow (n : Nat) : Bool := 0xDC00 ≤ n && n < 0xE000

def joined (high low : Nat) : Char :=
  Char.ofNat (0x10000 + (high - 0xD800) * 0x400 + (low - 0xDC00))

/-- The text of a row of pieces.  Every half needs its other half right beside it. -/
def text? : List Piece → Option Text
  | [] => some []
  | char c :: rest => (text? rest).map (c :: ·)
  | [unit n] => if isHigh n || isLow n then none else some [Char.ofNat n]
  -- two units may be the halves of one character
  | unit n :: unit m :: rest =>
      if isHigh n then
        if isLow m then (text? rest).map (joined n m :: ·) else none
      else if isLow n then none
      else (text? (unit m :: rest)).map (Char.ofNat n :: ·)
  | unit n :: char c :: rest =>
      if isHigh n || isLow n then none
      else (text? rest).map fun t => Char.ofNat n :: c :: t

end Piece

inductive JsonValue where
  | null
  | bool (b : Bool)
  | number (written : Text)
  | string (pieces : List Piece)
  | array (elements : List JsonValue)
  | object (members : List (List Piece × JsonValue))

namespace JsonValue

/-!
# Scanning
-/

/-- The white space of JSON. -/
def isSpace (c : Char) : Bool :=
  c == ' ' || c == '\n' || c == '\t' || c == '\r'

def skip (t : Text) : Text :=
  t.dropWhile isSpace

def hexDigit? (c : Char) : Option Nat :=
  if '0' ≤ c && c ≤ '9' then some (c.toNat - '0'.toNat)
  else if 'a' ≤ c && c ≤ 'f' then some (c.toNat - 'a'.toNat + 10)
  else if 'A' ≤ c && c ≤ 'F' then some (c.toNat - 'A'.toNat + 10)
  else none

def hexUnit? (a b c d : Char) : Option Nat := do
  let a ← hexDigit? a
  let b ← hexDigit? b
  let c ← hexDigit? c
  let d ← hexDigit? d
  return ((a * 16 + b) * 16 + c) * 16 + d

def shortEscape? (c : Char) : Option Char :=
  if c == '"' || c == '\\' || c == '/' then some c
  else if c == 'b' then some (Char.ofNat 8)
  else if c == 'f' then some (Char.ofNat 12)
  else if c == 'n' then some '\n'
  else if c == 'r' then some '\r'
  else if c == 't' then some '\t'
  else none

/-- The pieces of a string after its opening quote, and what follows the closing one. -/
def pieces? : Text → Option (List Piece × Text)
  | [] => none
  | '"' :: rest => some ([], rest)
  | '\\' :: 'u' :: a :: b :: c :: d :: rest => do
      let n ← hexUnit? a b c d
      let (ps, rest) ← pieces? rest
      return (.unit n :: ps, rest)
  | '\\' :: e :: rest => do
      let c ← shortEscape? e
      let (ps, rest) ← pieces? rest
      return (.char c :: ps, rest)
  | c :: rest =>
      if c.toNat < 0x20 || c == '\\' then none
      else do
        let (ps, rest) ← pieces? rest
        return (.char c :: ps, rest)

def isDigit (c : Char) : Bool :=
  '0' ≤ c && c ≤ '9'

def digits? (t : Text) : Option (Text × Text) :=
  match t.span isDigit with
  | ([], _) => none
  | ds => some ds

/-- The digits before the point: a zero stands alone. -/
def wholePart? : Text → Option (Text × Text)
  | '0' :: rest => if rest.head?.any isDigit then none else some (['0'], rest)
  | t => digits? t

def fraction? : Text → Option (Text × Text)
  | '.' :: rest => (digits? rest).map fun (ds, rest) => ('.' :: ds, rest)
  | t => some ([], t)

def exponentSign : Text → Text × Text
  | '+' :: rest => (['+'], rest)
  | '-' :: rest => (['-'], rest)
  | t => ([], t)

def exponent? : Text → Option (Text × Text)
  | c :: rest =>
      if c == 'e' || c == 'E' then
        let (sign, rest) := exponentSign rest
        (digits? rest).map fun (ds, rest) => (c :: sign ++ ds, rest)
      else some ([], c :: rest)
  | [] => some ([], [])

def magnitude? (t : Text) : Option (Text × Text) := do
  let (whole, t) ← wholePart? t
  let (fraction, t) ← fraction? t
  let (exponent, t) ← exponent? t
  return (whole ++ fraction ++ exponent, t)

def number? : Text → Option (Text × Text)
  | '-' :: rest => (magnitude? rest).map fun (n, rest) => ('-' :: n, rest)
  | t => magnitude? t

def plain? (t : Text) : Option (JsonValue × Text) :=
  match Text.strip? "null" t, Text.strip? "true" t, Text.strip? "false" t with
  | some rest, _, _ => some (null, rest)
  | _, some rest, _ => some (bool true, rest)
  | _, _, some rest => some (bool false, rest)
  | _, _, _ => (number? t).map fun (n, rest) => (number n, rest)

/-!
# Reading
-/

mutual

/-- A value and what follows it. -/
def value? : Nat → Text → Option (JsonValue × Text)
  | 0, _ => none
  | fuel + 1, t =>
      match skip t with
      | '"' :: rest => (pieces? rest).map fun (ps, rest) => (string ps, rest)
      | '[' :: rest =>
          match skip rest with
          | ']' :: rest => some (array [], rest)
          | rest => (elements? fuel rest).map fun (vs, rest) => (array vs, rest)
      | '{' :: rest =>
          match skip rest with
          | '}' :: rest => some (object [], rest)
          | rest => (members? fuel rest).map fun (ms, rest) => (object ms, rest)
      | rest => plain? rest

/-- The elements of an array through its closing bracket. -/
def elements? : Nat → Text → Option (List JsonValue × Text)
  | 0, _ => none
  | fuel + 1, t => do
      let (v, rest) ← value? fuel t
      match skip rest with
      | ']' :: rest => some ([v], rest)
      | ',' :: rest =>
          let (vs, rest) ← elements? fuel rest
          return (v :: vs, rest)
      | _ => none

def members? : Nat → Text → Option (List (List Piece × JsonValue) × Text)
  | 0, _ => none
  | fuel + 1, t =>
      match skip t with
      | '"' :: rest => do
          let (key, rest) ← pieces? rest
          match skip rest with
          | ':' :: rest =>
              let (v, rest) ← value? fuel rest
              match skip rest with
              | '}' :: rest => some ([(key, v)], rest)
              | ',' :: rest =>
                  let (ms, rest) ← members? fuel rest
                  return ((key, v) :: ms, rest)
              | _ => none
          | _ => none
      | _ => none

end

def read? (t : Text) : Option JsonValue := do
  -- a value takes one step for itself and one for the element it is
  let (v, rest) ← value? (2 * t.length + 2) t
  if (skip rest).isEmpty then some v else none

/-- A string as a text, or nothing for the null value. -/
def textOrNull? : JsonValue → Option (Option Text)
  | null => some none
  | string ps => (Piece.text? ps).map some
  | _ => none

end JsonValue
end ComponentDecl
