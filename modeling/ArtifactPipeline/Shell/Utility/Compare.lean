import ArtifactPipeline.Decimal.Shortest
import ArtifactPipeline.Shell.Utility.Rows

/-!
# Orders of octets

The ways in which programs compare parts of lines: octet by octet, as numbers, as months, or as
versions, in which runs of digits count as numbers.

* `compareBytes` is the order octet by octet, which is total (`compareBytes_eq_iff`);
* `Order.compare` is one of the others, named by a letter.
-/

namespace ArtifactPipeline.Shell.Utility

/-- How octets compare: by the first one that differs, and then by length. -/
def compareBytes : Bytes → Bytes → Ordering
  | [], [] => .eq
  | [], _ :: _ => .lt
  | _ :: _, [] => .gt
  | x :: a, y :: b => if x = y then compareBytes a b else if x < y then .lt else .gt

theorem compareBytes_eq_iff {a b : Bytes} : compareBytes a b = .eq ↔ a = b := by
  induction a generalizing b with
  | nil => cases b <;> simp [compareBytes]
  | cons x a ih =>
    cases b with
    | nil => simp [compareBytes]
    | cons y b =>
      by_cases h : x = y
      · simp [compareBytes, h, ih]
      · by_cases hlt : x < y <;> simp [compareBytes, h, hlt]

/-! ### Numbers -/

/-- The number at the start of octets, as a whole number and the number of its decimal places. -/
def leadingNumber (bytes : Bytes) : Int × Nat :=
  let bytes := bytes.dropWhile isBlankByte
  let negative := bytes.head? == some 0x2D
  let bytes := if negative then bytes.tail else bytes
  let whole := bytes.takeWhile isDigitByte
  let fraction := match bytes.drop whole.length with
    | 0x2E :: rest => rest.takeWhile isDigitByte
    | _ => []
  let n : Int := digitsValue (whole ++ fraction)
  (if negative then -n else n, fraction.length)

/-- How the numbers at the start of octets compare. -/
def compareNumbers (a b : Bytes) : Ordering :=
  let (m, j) := leadingNumber a
  let (n, k) := leadingNumber b
  compare (m * Int.ofNat (Nat.pow 10 k)) (n * Int.ofNat (Nat.pow 10 j))

/-- The place of the letter for a unit among those letters, from one on. -/
def unitPlace (b : UInt8) : Int :=
  if b = 0x6B then 1
  else
    match ("KMGTPEZYRQ".toList).idxOf? (Char.ofUInt8 b) with
    | some i => i + 1
    | none => 0

/-- The unit after the number at the start of octets; it counts only for numbers that are not zero. -/
def leadingUnit (bytes : Bytes) : Int :=
  let negative := bytes.head? == some 0x2D
  let bytes := if negative then bytes.tail else bytes
  let whole := bytes.takeWhile isDigitByte
  let rest := bytes.drop whole.length
  let fraction := match rest with
    | 0x2E :: more => more.takeWhile isDigitByte
    | _ => []
  let rest := if rest.head? = some 0x2E then rest.drop (fraction.length + 1) else rest
  let place := if (whole ++ fraction).any (· != 0x30) then (rest.head?.map unitPlace).getD 0 else 0
  if negative then -place else place

/-- How numbers with units compare: first by the units. -/
def compareUnits (a b : Bytes) : Ordering :=
  let a := a.dropWhile isBlankByte
  let b := b.dropWhile isBlankByte
  (compare (leadingUnit a) (leadingUnit b)).then (compareNumbers a b)

/-- A number in any of the notations for numbers, or none. -/
inductive AnyNumber where
  | none
  | notANumber
  | infinite (negative : Bool)
  | finite (negative : Bool) (magnitude : Decimal.Ratio)

/-- The power of a base that letters at the start of a text stand for: a mark, a sign and digits. -/
def leadingPower (marks : List Char) (cs : List Char) : Int :=
  match cs with
  | mark :: rest =>
    if !marks.contains mark then 0
    else
      let (negative, rest) := match rest with
        | '-' :: rest => (true, rest)
        | '+' :: rest => (false, rest)
        | rest => (false, rest)
      let digits := rest.takeWhile Char.isDigit
      let n : Int := min 100000 (digits.foldl (fun n c => 10 * n + (c.toNat - '0'.toNat)) 0)
      if negative then -n else n
  | [] => 0

/-- The value of a digit in base sixteen. -/
def digitValue (c : Char) : Nat :=
  if c.isDigit then c.toNat - '0'.toNat else c.toLower.toNat - 'a'.toNat + 10

/-- Whether a character is a digit in base sixteen. -/
def isHexDigit (c : Char) : Bool := c.isDigit || ('a' ≤ c.toLower && c.toLower ≤ 'f')

/-- The number with digits in a base at the start of a text: how many digits there are, the digits as a
whole number, how many of them stand after the point, and what stands after them. -/
def leadingDigits (base : Nat) (cs : List Char) : Nat × Nat × Nat × List Char :=
  let isDigit := if base = 16 then isHexDigit else Char.isDigit
  let whole := cs.takeWhile isDigit
  let rest := cs.drop whole.length
  let (fraction, rest) := match rest with
    | '.' :: more =>
      let fraction := more.takeWhile isDigit
      (fraction, more.drop fraction.length)
    | rest => ([], rest)
  let digits := whole ++ fraction
  (digits.length, digits.foldl (fun n c => base * n + digitValue c) 0, fraction.length, rest)

/-- The number at the start of a text. -/
def AnyNumber.ofText (text : String) : AnyNumber :=
  let cs := text.toList.dropWhile fun c => c == ' ' || ('\t' ≤ c && c ≤ '\r')
  let (negative, cs) := match cs with
    | '-' :: rest => (true, rest)
    | '+' :: rest => (false, rest)
    | cs => (false, cs)
  match cs.map Char.toLower with
  | 'i' :: 'n' :: 'f' :: _ => infinite negative
  | 'n' :: 'a' :: 'n' :: _ => notANumber
  | lower =>
    let sixteen := match lower with
      | '0' :: 'x' :: rest =>
        let (count, n, places, after) := leadingDigits 16 rest
        if count = 0 then Option.none
        else
          let e := leadingPower ['p'] after - 4 * places
          some (finite negative (.ofPower n 2 e))
      | _ => Option.none
    match sixteen with
    | some x => x
    | Option.none =>
      let (count, n, places, after) := leadingDigits 10 lower
      if count = 0 then none
      else finite negative (.ofPower n 10 (leadingPower ['e'] after - places))

/-- A number as a fraction. -/
def signedPart (negative : Bool) (r : Decimal.Ratio) : Int × Nat :=
  (if negative then -(r.num : Int) else r.num, r.den)

/-- How any numbers compare: what is no number comes first. -/
def AnyNumber.compare (a b : AnyNumber) : Ordering :=
  let rank : AnyNumber → Int
    | none => 0
    | notANumber => 1
    | infinite true => 2
    | finite _ _ => 3
    | infinite false => 4
  match a, b with
  | finite s x, finite t y =>
    let (m, j) := signedPart s x
    let (n, k) := signedPart t y
    Ord.compare (m * (k : Int)) (n * (j : Int))
  | a, b => Ord.compare (rank a) (rank b)

/-! ### Months -/

/-- The short names of months. -/
def monthNames : List String :=
  ["JAN", "FEB", "MAR", "APR", "MAY", "JUN", "JUL", "AUG", "SEP", "OCT", "NOV", "DEC"]

/-- The number of the month whose name stands at the start of octets; zero is none. -/
def monthOf (bytes : Bytes) : Nat :=
  let start := textOf (((bytes.dropWhile isBlankByte).take 3).map upperByte)
  match monthNames.idxOf? start with
  | some i => i + 1
  | none => 0

/-! ### Versions -/

/-- Whether an octet is a letter. -/
def isLetterByte (b : UInt8) : Bool := (0x41 ≤ b && b ≤ 0x5A) || (0x61 ≤ b && b ≤ 0x7A)

/-- The rank of an octet that is no digit, or of the end. -/
def versionRank : Option UInt8 → Int
  | none => -1
  | some b =>
    if isDigitByte b then 0
    else if isLetterByte b then b.toNat
    else if b = 0x7E then -2
    else b.toNat + 256

/-- How octets without digits compare, up to the first digit of each; what is left after them. -/
def compareUpToDigits : (fuel : Nat) → Bytes → Bytes → Ordering × Bytes × Bytes
  | 0, a, b => (.eq, a, b)
  | fuel + 1, a, b =>
    let plain (bytes : Bytes) : Bool := bytes.head?.any fun c => !isDigitByte c
    if !plain a && !plain b then (.eq, a, b)
    else
      match compare (versionRank a.head?) (versionRank b.head?) with
      | .eq => compareUpToDigits fuel a.tail b.tail
      | order => (order, a, b)

/-- How versions compare: runs of digits as numbers, and what stands between them by rank. -/
def compareRuns : (fuel : Nat) → Bytes → Bytes → Ordering
  | 0, _, _ => .eq
  | fuel + 1, a, b =>
    if a.isEmpty && b.isEmpty then .eq
    else
      match compareUpToDigits (a.length + b.length + 1) a b with
      | (.eq, a, b) =>
        let m := a.takeWhile isDigitByte
        let n := b.takeWhile isDigitByte
        match compare (digitsValue m) (digitsValue n) with
        | .eq => compareRuns fuel (a.drop m.length) (b.drop n.length)
        | order => order
      | (order, _, _) => order

/-- The octets after a run of endings, each of which is a point, a letter and letters or digits. -/
def afterEndings : (fuel : Nat) → Bytes → Bytes
  | 0, bytes => bytes
  | fuel + 1, bytes =>
    match bytes with
    | 0x2E :: c :: rest =>
      if isLetterByte c || c == 0x7E then
        afterEndings fuel (rest.dropWhile fun b => isLetterByte b || isDigitByte b || b == 0x7E)
      else bytes
    | bytes => bytes

/-- A name without endings. -/
def withoutEndings : (fuel : Nat) → Bytes → Bytes
  | 0, bytes => bytes
  | _ + 1, [] => []
  | fuel + 1, b :: rest =>
    let after := afterEndings (rest.length + 1) rest
    if after.isEmpty then [b]
    else b :: rest.take (rest.length - after.length) ++ withoutEndings fuel after

/-- The rank of a name by the points at its start. -/
def dotRank (bytes : Bytes) : Nat :=
  if bytes = [] then 0
  else if bytes = [0x2E] then 1
  else if bytes = [0x2E, 0x2E] then 2
  else if bytes.head? = some 0x2E then 3
  else 4

/-- How names with versions in them compare. -/
def compareVersions (a b : Bytes) : Ordering :=
  let n := a.length + b.length + 1
  (compare (dotRank a) (dotRank b)).then <|
    if dotRank a < 3 then .eq
    else
      (compareRuns n (withoutEndings n a) (withoutEndings n b)).then (compareRuns n a b)

end ArtifactPipeline.Shell.Utility
