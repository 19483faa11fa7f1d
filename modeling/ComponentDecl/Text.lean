/-!
# Text

All text of the library is a list of characters, so that its laws are laws of
lists.  Strings appear only where text enters or leaves the library.
-/

namespace ComponentDecl

abbrev Text := List Char

instance : Coe String Text := ⟨String.toList⟩

namespace Text

/-!
# Measures

Offsets and columns count the bytes of the UTF-8 encoding.
-/

/-- The number of bytes of the UTF-8 encoding of a text. -/
def bytes : Text → Nat
  | [] => 0
  | c :: rest => c.utf8Size + bytes rest

@[simp] theorem bytes_nil : bytes [] = 0 := rfl

@[simp] theorem bytes_cons (c : Char) (t : Text) :
    bytes (c :: t) = c.utf8Size + bytes t := rfl

@[simp] theorem bytes_append (s t : Text) :
    bytes (s ++ t) = bytes s + bytes t := by
  induction s with
  | nil => simp
  | cons c rest ih =>
      rw [List.cons_append, bytes_cons, bytes_cons, ih, Nat.add_assoc]

/-!
# Lines

A line feed ends a line; the text after the last line feed is a line as well,
so a text always has at least one line.
-/

/-- The lines of a text, without their line feeds. -/
def lines : Text → List Text
  | [] => [[]]
  | c :: rest =>
      match lines rest with
      | [] => [[c]]
      | line :: more => if c = '\n' then [] :: line :: more else (c :: line) :: more

theorem lines_ne_nil (t : Text) : lines t ≠ [] := by
  cases t with
  | nil => simp [lines]
  | cons c rest =>
      unfold lines
      split
      · simp
      · split <;> simp

/-!
# Cutting
-/

/-- What follows `head` in a text that starts with it. -/
def strip? : Text → Text → Option Text
  | [], t => some t
  | _ :: _, [] => none
  | a :: head, c :: t => if a = c then strip? head t else none

def stripEnd? (tail t : Text) : Option Text :=
  (strip? tail.reverse t.reverse).map List.reverse

def startsWith (head t : Text) : Bool :=
  (strip? head t).isSome

theorem strip?_eq_some {head t rest : Text} :
    strip? head t = some rest ↔ t = head ++ rest := by
  induction head generalizing t with
  | nil => simp [strip?, eq_comm]
  | cons a head ih =>
      cases t with
      | nil => simp [strip?]
      | cons c t =>
          by_cases h : a = c
          · subst h
            simp [strip?, ih]
          · simp [strip?, h, eq_comm]

def times (n : Nat) (t : Text) : Text :=
  (List.replicate n t).flatten

def joinWith (mark : Text) : List Text → Text
  | [] => []
  | [t] => t
  | t :: more => t ++ mark ++ joinWith mark more

def ofNat (n : Nat) : Text :=
  Nat.toDigits 10 n

end Text
end ComponentDecl
