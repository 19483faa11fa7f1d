import ComponentDecl.Parse.Chunk
import ComponentDecl.Parse.Probe

/-!
# Repairs

A repair of a broken source leaves a stretch out or adds one missing lexeme, so that
the grammar can read on.  It has a price, and the cheapest repair shows where the
mistake is.
-/

namespace ComponentDecl
namespace Parse

/-- A mistake in a source: a stretch that does not fit, or a node that is missing. -/
inductive Mistake where
  | stretch (start stop : Nat)
  | missing (offset : Nat) (name : Text)
  deriving Repr

/-- A mistake with its repair: the price and the repaired source, in which `removed`
characters at the place of the mistake became `added` others. -/
structure Repair where
  mistake : Mistake
  price : Nat
  repaired : Text
  removed : Nat := 0
  added : Nat := 0
  /-- How many lexemes were left out from the one that does not fit on. -/
  skipped : Nat := 0
  /-- How many lexemes can be read from the one that did not fit on. -/
  reach : Nat := 0
  deriving Repr

namespace Repair

/-!
# Prices

The prices are the error costs by which the parser behind the grammar chooses between its
attempts to go on.
-/

/-- The price of any repair. -/
def basePrice : Nat := 500

/-- The price of a construct that is left out. -/
def constructPrice : Nat := 100

/-- The price of a line end that is left out. -/
def linePrice : Nat := 30

def missingPrice : Nat := basePrice + 110

def stretchPrice (n : Nat) (t : Text) : Nat :=
  basePrice + constructPrice * n + Text.bytes t + linePrice * t.count '\n'

/-- The advantage, in price times lexemes read since, at which the dearer of two repairs is
given up. -/
def decisiveLead : Nat := 18 * constructPrice

/-- What a repair may cost more than another that reads less far.  The parser has no such
rule of its own: the bound is fitted to what it reports. -/
def furtherPrice : Nat := basePrice + constructPrice

/-- Whether a cheaper repair is ahead so far that what comes later does not count. -/
def isAhead (p q : Repair) : Bool :=
  p.price < q.price && q.skipped ≤ p.reach &&
    decisiveLead < (q.price - p.price) * (1 + (p.reach - p.skipped))

/-!
# The mistakes that repairs show
-/

def offset (r : Repair) : Nat :=
  match r.mistake with
  | .stretch start _ => start
  | .missing offset _ => offset

/-- The mistake seen after a later one in the repaired source. -/
def hidden (r : Repair) : Mistake → Mistake
  | .stretch start stop =>
      let joins := match r.mistake with
        | .stretch _ _ => start ≤ r.offset + r.added
        | .missing _ _ => start ≤ r.offset && r.repaired.length ≤ stop + 3
      -- the later stretch takes the place of the earlier mistake into itself
      if joins && r.offset < stop then
        .stretch (min start r.offset) (stop + r.removed - r.added)
      else r.mistake
  | .missing _ _ => r.mistake

def adding (source : Text) (offset next : Nat) (name text : Text) : Repair where
  mistake := .missing offset name
  price := missingPrice
  repaired := source.take offset ++ text ++ ' ' :: source.drop next
  removed := next - offset
  added := text.length + 1

end Repair

/-!
# The broken place
-/

/-- A source with the place where it cannot be read further. -/
structure Break where
  source : Text
  /-- Where the first statement that cannot be read starts. -/
  start : Nat
  /-- Where the lexeme that does not fit starts. -/
  stop : Nat
  before : List Lexeme.Piece
  after : List Lexeme.Piece

namespace Break

def of (source : Text) (offset : Nat) : Break :=
  let ps := Lexeme.pieces source
  let start := brokenStart source
  ⟨source, start, offset, ps.filter (fun p => start ≤ p.start && p.stop ≤ offset),
    ps.filter (offset < ·.stop)⟩

variable (b : Break)

/-- The chunks before the lexeme that does not fit, from the nearest on. -/
def chunks : List Chunk :=
  Parse.chunks b.before

/-- The end of the last lexeme that was read. -/
def readEnd : Nat :=
  (b.before.getLast?.map (·.stop)).getD b.stop

/-- The end of the last lexeme or comment that was read. -/
def readFully : Nat :=
  ((b.source.take b.stop).reverse.dropWhile Lexeme.isGap).length

def last : Nat :=
  ((b.before ++ b.after).getLast?.map (·.stop)).getD b.source.length

def next : Text :=
  b.source.drop b.stop

/-- The same, with a plain name in place of a word that has no meaning there. -/
def nextPlain : Text :=
  match Lexeme.word? b.next with
  | some (_, rest) => 'x' :: rest
  | none => b.next

/-- The repair that leaves out all from an offset through `skipped` lexemes from the one
that does not fit on. -/
def leavingOut (start skipped : Nat) : Repair :=
  let inside := (b.chunks.filter (start ≤ ·.start)).reverse
  let named := ((b.chunks.find? (·.start < start)).any fun (c : Chunk) => c.text == "function") ||
    takes (frontOf b.source start) "static \x7b"
  let gone := b.after.take skipped
  let stop := (gone.getLast?.map (·.stop)).getD b.readEnd
  let rest := ((b.after.drop skipped).head?.map (·.start)).getD b.source.length
  { mistake := .stretch start stop
    price := Repair.stretchPrice (Chunk.countAfter named inside + skipped)
      ((b.source.drop start).take (stop - start))
    repaired := b.source.take start ++ ' ' :: b.source.drop rest
    removed := rest - start
    added := 1 }

/-!
# Missing lexemes
-/

/-- What a source may lack: the name of the node and a text for it. -/
def lackable (front : Text) : List (String × String) :=
  [("property_identifier", " typeof "), ("identifier", " x "), ("\x7d", "\x7d"), (")", ")"),
   (";", ";"), ("]", "]")] ++
  if endsExpression front then [] else [("/>", "/>"), (">", ">")]

/-- The lexeme that is missing, if one is.  The flag tells that it can be followed without
a semicolon. -/
def missing? : Option (Repair × Bool) :=
  let front := b.source.take b.readFully
  let next := b.nextPlain
  let repair (l : String × String) := Repair.adding b.source b.readFully b.stop l.1 l.2
  if Lexeme.operator? b.next == some "=" then none
  else
    let all := (lackable front).filter fun l => followsDirectly front l.2.toList
    match all.find? fun l => followsDirectly (front ++ bar :: l.2.toList) next with
    | some l => some (repair l, true)
    | none =>
        (all.find? fun l => follows (front ++ bar :: l.2.toList) next).map fun l =>
          (repair l, false)

/-!
# Stretches
-/

/-- Whether a statement or a member of a class starts at an offset, and it is the first of
its row. -/
def startsRow (start : Nat) : Bool :=
  startsEntry (frontOf b.source start) &&
    match (Lexeme.pieces (b.source.take start)).getLast? with
    | none => true
    | some p => p.spells "\x7b" || p.spells ":" || p.spells ")" || p.spells "else"

def continuesRow (start : Nat) : Bool :=
  startsEntry (frontOf b.source start) && !b.startsRow start &&
    !((Lexeme.pieces (b.source.take start)).getLast?.any fun p => p.spells "default")

/-- The bracket around the broken place, and the chunk before it. -/
def around : List Chunk → Option (Chunk × Option Chunk)
  | [] => none
  | c :: rest => if !c.closed && opens c.text then some (c, rest.head?) else around rest

/-- What the expression around a row of chunks is the value of, if it is one. -/
def valueOf : List Chunk → Option Text
  | [] => none
  | c :: rest =>
      if c.text == "=" || c.text == ":" || c.text == "=>" then some c.text
      else if c.isOperand || c.text == "." || c.joins then valueOf rest
      else none

/-- Whether a missing lexeme takes precedence over leaving out the stretch that starts
with a chunk; `rest` are the chunks before it. -/
def precedes (m : Repair × Bool) (c : Chunk) (rest : List Chunk) : Bool :=
  let name : Text := match m.1.mistake with
    | .missing _ n => n
    | _ => []
  let afterOperand := rest.head?.any Chunk.isOperand
  if name == ";" then b.continuesRow c.start
  else if c.text == ":" || c.text == "?" then true
  else if c.closed then false
  else if c.text == "(" || c.text == "[" then afterOperand
  else if c.text == "." then
    match around rest with
    | some (o, p) =>
        if o.text == "(" then !(p.any Chunk.isOperand)
        else if o.text == "[" then true
        else m.2 && takes (b.source.take o.stop) "a: a" &&
          !((rest.filter (o.start < ·.start)).any fun d => d.text == ",")
    | none => false
  else c.joins && c.text != "=" && afterOperand && (valueOf rest).isNone

def withRest : List Chunk → List (Chunk × List Chunk)
  | [] => []
  | c :: rest => (c, rest) :: withRest rest

def stretches (m : Option (Repair × Bool)) (skipped : Nat) : List Repair :=
  let starts :=
    if skipped == 0 then
      (withRest b.chunks).filterMap fun (c, rest) =>
        if m.any fun m => b.precedes m c rest then none else some (c.start, rest)
    else (b.stop, b.chunks) :: (withRest b.chunks).map fun (c, rest) => (c.start, rest)
  let starts := (starts.filter fun (start, rest) =>
    start == b.stop || !(rest.head?.any fun (c : Chunk) => c.text == ".")).map (·.1)
  let rest := ((b.after.drop skipped).head?.map fun p => b.source.drop p.start).getD []
  let fits (start : Nat) : Bool := follows (frontOf b.source start) rest
  let single (start : Nat) : Bool :=
    Chunk.count false (b.chunks.filter (start ≤ ·.start)).reverse ≤ 1
  match starts.filter fits with
  | [] => []
  | first :: others =>
      (first :: (others.filter single).take 1).map fun start => b.leavingOut start skipped

def leavingRest : Repair :=
  let starts := (b.after.take 1).map (·.start) ++ b.chunks.map (·.start)
  let start := (starts.find? fun n => isWhole (frontOf b.source n)).getD b.start
  { b.leavingOut start b.after.length with
    skipped := b.after.length
    reach := b.after.length + 1 }

/-- A repair with the number of lexemes that can be read after it, from the one that did
not fit on. -/
def reached (r : Repair) (skipped : Nat) : Repair :=
  let reach :=
    match stuck? r.repaired with
    | some stop =>
        let back := r.repaired.length - stop
        (b.after.filter fun p => p.stop + back ≤ b.source.length).length
    | none => b.after.length + 1
  { r with skipped := skipped, reach := reach }

/-- The repairs that leave out a stretch through at least `skipped` lexemes, as long as no
repair in `found` is cheaper and reads as far. -/
def stretchesFrom (m : Option (Repair × Bool)) (found : List Repair) : Nat → Nat → List Repair
  | 0, _ => found
  | fuel + 1, skipped =>
      let gone := b.after.take skipped
      let stop := (gone.getLast?.map (·.stop)).getD b.stop
      let price := Repair.stretchPrice skipped ((b.source.drop b.stop).take (stop - b.stop))
      -- leaving out more only costs more
      if 1 < skipped && found.any fun r => r.price < price && skipped ≤ r.reach then found
      else if b.after.length ≤ skipped then found ++ [b.leavingRest]
      else
        let now := (b.stretches m skipped).map fun r => b.reached r skipped
        let now := now.filter fun r => !(found.any fun f => f.isAhead r)
        stretchesFrom m (found ++ now) fuel (skipped + 1)

/-!
# All repairs
-/

def endsQuoted : Bool :=
  match b.after with
  | [p] =>
      1 < p.text.length && Lexeme.isOpen false p.text && (Lexeme.string? p.text).isNone &&
        (Lexeme.regex? p.text).isNone
  | _ => false

def givingUp : Repair :=
  { mistake := .stretch (b.source.takeWhile Lexeme.isGap).length b.source.length
    price := b.leavingRest.price
    repaired := [] }

/-- Whether a brace could end the innermost statement or member of a class. -/
def endsInBlock : Bool :=
  startsEntry (b.source.take b.last ++ ['}'])

/-- How many open constructs the parser looks back through for one to end. -/
def deepest : Nat := 16

/-- The repair of a source that stops too early.  The broken statement alone is left out
only if it leaves few constructs open. -/
def atEnd : Repair :=
  let front := b.source.take b.readFully
  let rest := b.leavingRest
  let cases := (stuck? (front ++ "; case a:\x7d".toList)).isNone &&
    ((b.before ++ b.after).getLast?.any fun p => !p.spells "\x7b")
  let lacks (s : String) := isWhole (front ++ s.toList) && !(s == "\x7d" && cases)
  match ["\x7d", ";", ")"].find? lacks with
  | some s =>
      let added := Repair.adding b.source b.readFully b.source.length s.toList s.toList
      let later := match rest.mistake with
        | .stretch start _ => start == b.start && b.continuesRow start
        | _ => false
      if added.price < rest.price || later then added else rest
  | none =>
      let read := (Lexeme.pieces b.source).length
      let lead := (rest.price - Repair.missingPrice) * (1 + read)
      if deepest ≤ Chunk.depth b.chunks.reverse ||
          (b.endsInBlock && Repair.decisiveLead < lead) then b.givingUp
      else rest

/-- Whether a repair leaves out what a row of statements or members starts with. -/
def isFavoured (r : Repair) : Bool :=
  match r.mistake with
  | .stretch start stop =>
      stop ≤ b.stop && (b.startsRow start || (b.after.drop 1).head?.any (·.spells "=") ||
        (Text.startsWith "," (b.source.drop start) && Text.startsWith "," b.next))
  | _ => false

/-- The repairs of a broken source.  Of equally good ones the first is taken. -/
def repairs : List Repair :=
  if b.after.isEmpty || b.endsQuoted then [b.atEnd]
  else
    let m := b.missing?
    let added := (m.toList.filter (·.2)).map fun m => b.reached m.1 0
    let early := (b.stretches m 0).map fun r => b.reached r 0
    let all := b.stretchesFrom m (added ++ early) b.after.length 1
    let late := all.drop (added.length + early.length)
    -- the order decides between repairs that are equally good
    early.filter b.isFavoured ++ late.reverse ++ (early.filter fun r => !b.isFavoured r) ++ added

end Break

/-!
# Choosing
-/

/-- The better of two repairs, the first if they are equal: one that is far ahead, one
that reads further unless it costs much more, or the cheaper one. -/
def Repair.better (p q : Repair) : Repair :=
  if p.isAhead q then p
  else if q.isAhead p then q
  else if p.reach < q.reach && q.price < p.price + furtherPrice then q
  else if q.reach < p.reach && p.price < q.price + furtherPrice then p
  else if q.price < p.price then q
  else p

/-- The mistake in a source after at most `fuel + 1` repairs: a later repair that leaves out
more hides an earlier one. -/
def mistakeWithin : Nat → Text → Option Mistake
  | fuel, source => do
      let n ← stuck? source
      match (Break.of source n).repairs with
      | [] => some (.stretch 0 source.length)
      | r :: rs =>
          let best := rs.foldl Repair.better r
          match fuel with
          | 0 => some best.mistake
          | fuel + 1 =>
              match mistakeWithin fuel best.repaired with
              | none => some best.mistake
              | some m => some (best.hidden m)

end Parse
end ComponentDecl
