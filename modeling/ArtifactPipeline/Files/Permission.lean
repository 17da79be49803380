import ArtifactPipeline.Text.Search

/-!
# Permissions

Who may do what with a file is a number of twelve bits: three for special uses, and three each for the
owner, the group and all others, who may read, write and carry out. A permission is written as an
octal number, or as a list of changes such as `u+x,go=r`.

* `change?` carries out what a text says on a number;
* `letters` are the nine letters that a list of files shows.
-/

namespace ArtifactPipeline.Permission

/-- The bits of one number without those of another. -/
def without (a b : Nat) : Nat := a - Nat.land a b

/-- All bits. -/
def all : Nat := 4095

/-- The bits that belong to a letter for somebody. -/
def whoseBits? (c : Char) : Option Nat :=
  match c with
  | 'u' => some 2496
  | 'g' => some 1080
  | 'o' => some 519
  | 'a' => some 4095
  | _ => none

/-- Three bits, for everybody. -/
def forAll (three : Nat) : Nat := three * 73

/-- The bits that a letter for a use stands for, given the old ones. -/
def useBits? (isDirectory : Bool) (old : Nat) (c : Char) : Option Nat :=
  match c with
  | 'r' => some (forAll 4)
  | 'w' => some (forAll 2)
  | 'x' => some (forAll 1)
  | 'X' => some (if isDirectory || Nat.land old (forAll 1) != 0 then forAll 1 else 0)
  | 's' => some 3072
  | 't' => some 512
  | 'u' => some (forAll (old / 64 % 8))
  | 'g' => some (forAll (old / 8 % 8))
  | 'o' => some (forAll (old % 8))
  | _ => none

/-- Carry out the signs and letters after the letters for somebody. `whose` are the bits of those, or
zero where nobody is named, and then the bits of `mask` stay out. -/
def changes? (isDirectory : Bool) (mask whose : Nat) :
    (fuel : Nat) → List Char → Nat → Option Nat
  | 0, _, _ => none
  | _ + 1, [], old => some old
  | fuel + 1, sign :: rest, old =>
    if sign = '+' ∨ sign = '-' ∨ sign = '=' then
      let letters := rest.takeWhile fun c => (useBits? isDirectory old c).isSome
      let bits := (letters.filterMap (useBits? isDirectory old)).foldl Nat.lor 0
      let bits := if whose = 0 then without bits mask else Nat.land bits whose
      let new :=
        if sign = '+' then Nat.lor old bits
        else if sign = '-' then without old bits
        else Nat.lor (if whose = 0 then 0 else without old whose) bits
      changes? isDirectory mask whose fuel (rest.drop letters.length) new
    else none

/-- Carry out one change. -/
def clause? (isDirectory : Bool) (mask : Nat) (cs : List Char) (old : Nat) : Option Nat :=
  let who := cs.takeWhile fun c => (whoseBits? c).isSome
  let whose := (who.filterMap whoseBits?).foldl Nat.lor 0
  let rest := cs.drop who.length
  if rest.isEmpty then none else changes? isDirectory mask whose (rest.length + 1) rest old

/-- The number that octal digits denote. -/
def octal? (cs : List Char) : Option Nat :=
  if !cs.isEmpty ∧ cs.all fun c => '0' ≤ c && c ≤ '7' then
    some (cs.foldl (fun n c => 8 * n + (c.toNat - '0'.toNat)) 0)
  else none

/-- Carry out what a text says; `mask` are the bits that stay out where nobody is named. -/
def change? (isDirectory : Bool) (mask : Nat) (text : String) (old : Nat) : Option Nat :=
  match octal? text.toList with
  | some n => if n ≤ all then some n else none
  | none => (Text.splitOn ',' text.toList).foldlM (fun old cs => clause? isDirectory mask cs old) old

/-- The three letters for one of the three. -/
def threeLetters (three : Nat) (special : Option Char) : List Char :=
  let last := match special, three % 2 with
    | some c, 1 => c
    | some c, _ => c.toUpper
    | none, 1 => 'x'
    | none, _ => '-'
  [if three / 4 % 2 = 1 then 'r' else '-', if three / 2 % 2 = 1 then 'w' else '-', last]

/-- The nine letters for a number. -/
def letters (n : Nat) : String :=
  let special (bit : Nat) (c : Char) : Option Char := if n / bit % 2 = 1 then some c else none
  String.ofList (threeLetters (n / 64 % 8) (special 2048 's')
    ++ threeLetters (n / 8 % 8) (special 1024 's') ++ threeLetters (n % 8) (special 512 't'))

/-- The digits of a number in base eight, at least four. -/
def digits (n : Nat) : String :=
  let ds := Nat.toDigits 8 n
  String.ofList (List.replicate (4 - ds.length) '0' ++ ds)

end ArtifactPipeline.Permission
