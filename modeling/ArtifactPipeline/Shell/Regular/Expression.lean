import ArtifactPipeline.Text.Utf8

/-!
# Regular expressions

A regular expression says which runs of octets are wanted. A run that is found is the first one, and
among those that start at its place the longest one. Where it can be reached in several ways, the earlier
of two choices is preferred, and one more repetition to one less; what the groups of the expression stand
for is found on that way.

* `Expression.from` are the places that are reached from a place, the preferred way first, each with what
  the groups hold;
* `Expression.longest?` is the longest run at a place, and `Expression.find?` the first one.
-/

namespace ArtifactPipeline.Shell.Regular

/-- A set of octets. -/
structure OctetSet where
  spans : List (UInt8 × UInt8)
  /-- Whether the octets outside the spans are meant. -/
  inverse : Bool := false
deriving Repr, DecidableEq

/-- Whether an octet is in the spans of a set. -/
def OctetSet.lists (s : OctetSet) (b : UInt8) : Bool := s.spans.any fun p => p.1 ≤ b && b ≤ p.2

/-- A letter as a small one. -/
def lowered (b : UInt8) : UInt8 := if 0x41 ≤ b ∧ b ≤ 0x5A then b + 0x20 else b

/-- A letter as a capital. -/
def raised (b : UInt8) : UInt8 := if 0x61 ≤ b ∧ b ≤ 0x7A then b - 0x20 else b

/-- Whether an octet belongs to a word. -/
def isWordOctet (b : UInt8) : Bool :=
  (0x30 ≤ b && b ≤ 0x39) || (0x41 ≤ b && b ≤ 0x5A) || (0x61 ≤ b && b ≤ 0x7A) || b == 0x5F

/-- What a place must be like. -/
inductive Edge where
  | lineStart
  | lineEnd
  | textStart
  | textEnd
  | wordStart
  | wordEnd
  | wordEdge
  | noWordEdge
deriving Repr, DecidableEq

/-- A regular expression. -/
inductive Expression where
  | empty
  | octet (set : OctetSet)
  | edge (e : Edge)
  | both (first second : Expression)
  | either (first second : Expression)
  | repeated (body : Expression) (least : Nat) (most : Option Nat)
  /-- What the body stands for is remembered under a number. -/
  | group (number : Nat) (body : Expression)
  /-- What is remembered under a number, once more. -/
  | again (number : Nat)
deriving Repr, DecidableEq

/-- A text in which runs are searched, and how. -/
structure Subject where
  octets : Array UInt8
  /-- Whether capitals and small letters count as the same. -/
  folds : Bool := false
  /-- Whether lines start and end at line breaks. -/
  byLines : Bool := false
  /-- Whether the start of the text is the start of a line. -/
  startsLine : Bool := true

/-- A place in a text, and where the groups start and end. -/
structure Spot where
  place : Nat
  groups : List (Nat × Nat × Nat) := []
deriving Repr, DecidableEq

namespace Subject

variable (t : Subject)

/-- Whether the octet before a place belongs to a word. -/
def wordBefore (i : Nat) : Bool := i != 0 && (t.octets[i - 1]?).any isWordOctet

/-- Whether the octet after a place belongs to a word. -/
def wordAfter (i : Nat) : Bool := (t.octets[i]?).any isWordOctet

/-- Whether a place is as it must be. -/
def holdsAt (i : Nat) : Edge → Bool
  | .lineStart =>
    (i == 0 && t.startsLine) || (t.byLines && i != 0 && t.octets[i - 1]? == some 0x0A)
  | .lineEnd => i == t.octets.size || (t.byLines && t.octets[i]? == some 0x0A)
  | .textStart => i == 0 && t.startsLine
  | .textEnd => i == t.octets.size
  | .wordStart => !t.wordBefore i && t.wordAfter i
  | .wordEnd => t.wordBefore i && !t.wordAfter i
  | .wordEdge => t.wordBefore i != t.wordAfter i
  | .noWordEdge => t.wordBefore i == t.wordAfter i

/-- Whether two octets count as the same. -/
def same (a b : UInt8) : Bool := if t.folds then lowered a == lowered b else a == b

/-- Whether an octet is in a set. -/
def holds (s : OctetSet) (b : UInt8) : Bool :=
  (s.lists b || (t.folds && (s.lists (lowered b) || s.lists (raised b)))) != s.inverse

/-- The number of octets from a place on that are in a set, up to a number of them. -/
def runLength (s : OctetSet) : (most : Nat) → Nat → Nat
  | 0, _ => 0
  | n + 1, i =>
    match t.octets[i]? with
    | some b => if t.holds s b then runLength s n (i + 1) + 1 else 0
    | none => 0

/-- Whether the octets from two places on are the same. -/
def agrees : (length : Nat) → Nat → Nat → Bool
  | 0, _, _ => true
  | n + 1, i, j =>
    match t.octets[i]?, t.octets[j]? with
    | some a, some b => t.same a b && agrees n (i + 1) (j + 1)
    | _, _ => false

end Subject

/-- Spots without those that come after one that is as good. -/
def distinct (like : Spot → Spot → Bool) (spots : List Spot) : List Spot :=
  spots.foldl (fun kept s => if kept.any (like s) then kept else kept ++ [s]) []

/-- The spots that any number of steps lead to, the last one first, after those that are known already. More
steps are preferred to fewer. A step that leads nowhere is left out. -/
def climb (like : Spot → Spot → Bool) (step : Spot → List Spot) :
    (fuel : Nat) → (reached : List Spot) → Spot → List Spot
  | 0, reached, _ => reached
  | fuel + 1, reached, s =>
    if reached.any fun r => like r s then reached
    else s :: ((step s).filter fun n => s.place < n.place).foldl (climb like step fuel) reached

/-- The spots that up to so many steps lead to, the last one first, after those that are known already;
each with the number of steps that were left. More steps are preferred to fewer. -/
def climbUpTo (like : Spot → Spot → Bool) (step : Spot → List Spot) :
    (n : Nat) → (reached : List (Spot × Nat)) → Spot → List (Spot × Nat)
  | 0, reached, s => (s, 0) :: reached
  | n + 1, reached, s =>
    if reached.any fun r => r.2 == n + 1 && like r.1 s then reached
    else (s, n + 1) :: ((step s).filter fun m => s.place < m.place).foldl (climbUpTo like step n) reached

/-- The spots after so many steps. -/
def iterate (like : Spot → Spot → Bool) (step : Spot → List Spot) : Nat → List Spot → List Spot
  | 0, spots => spots
  | n + 1, spots =>
    if spots.isEmpty then [] else iterate like step n (distinct like (spots.flatMap step))

namespace Expression

/-- Whether what is remembered is asked for. -/
def remembers : Expression → Bool
  | both a b | either a b => a.remembers || b.remembers
  | repeated a _ _ | group _ a => a.remembers
  | again _ => true
  | empty | octet _ | edge _ => false

/-- The greatest number of a group. -/
def groupCount : Expression → Nat
  | both a b | either a b => max a.groupCount b.groupCount
  | repeated a _ _ => a.groupCount
  | group n a => max n a.groupCount
  | again _ | empty | octet _ | edge _ => 0

/-- The set of which an expression is one octet. -/
def set? : Expression → Option OctetSet
  | octet set => some set
  | _ => none

/-- The spots after a number of octets of a set, the farthest first. -/
def runs (t : Subject) (set : OctetSet) (least : Nat) (most : Option Nat) (s : Spot) : List Spot :=
  let length := t.runLength set (most.getD t.octets.size) s.place
  (List.range (length + 1 - least)).map fun i => { s with place := s.place + (length - i) }

/-- The spots that are reached from one, the preferred one first. Of those that are alike, only one is
kept. -/
def «from» (like : Spot → Spot → Bool) (t : Subject) : Expression → Spot → List Spot
  | empty, s => [s]
  | octet set, s =>
    match t.octets[s.place]? with
    | some b => if t.holds set b then [{ s with place := s.place + 1 }] else []
    | none => []
  | edge e, s => if t.holdsAt s.place e then [s] else []
  | both a b, s => distinct like ((a.from like t s).flatMap (b.from like t))
  | either a b, s => distinct like (a.from like t s ++ b.from like t s)
  | repeated a least most, s =>
    match a.set? with
    | some set => runs t set least most s
    | none =>
      let step := a.from like t
      let start := iterate like step least [s]
      match most with
      | none => (start.foldl (climb like step (t.octets.size + 2)) []).reverse
      | some n =>
        distinct like ((start.foldl (climbUpTo like step (n - least)) []).reverse.map Prod.fst)
  | group n a, s =>
    (a.from like t s).map fun e => { e with groups := (n, s.place, e.place) :: e.groups.filter (·.1 != n) }
  | again n, s =>
    match s.groups.lookup n with
    | none => []
    | some (i, j) =>
      if t.agrees (j - i) i s.place then [{ s with place := s.place + (j - i) }] else []

/-- The spot with the farthest place; of several, the first one. -/
def farthest? (spots : List Spot) : Option Spot :=
  spots.foldl (fun best s => match best with
    | some b => if b.place < s.place then some s else best
    | none => some s) none

/-- The longest run at a place. -/
def longest? (e : Expression) (t : Subject) (start : Nat) : Option Spot :=
  let like : Spot → Spot → Bool :=
    if e.remembers then fun a b => a == b else fun a b => a.place == b.place
  farthest? (e.from like t ⟨start, []⟩)

/-- The first run from a place on: where it starts, and its end. -/
def find? (e : Expression) (t : Subject) : (tries : Nat) → (start : Nat) → Option (Nat × Spot)
  | 0, _ => none
  | tries + 1, start =>
    match e.longest? t start with
    | some s => some (start, s)
    | none => e.find? t tries (start + 1)

/-- The first run in a text from a place on. -/
def search? (e : Expression) (t : Subject) (start : Nat) : Option (Nat × Spot) :=
  e.find? t (t.octets.size + 1 - start) start

end Expression

end ArtifactPipeline.Shell.Regular
