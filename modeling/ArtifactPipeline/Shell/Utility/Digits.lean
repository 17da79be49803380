import ArtifactPipeline.Shell.Utility.Amount
import ArtifactPipeline.Shell.Utility.Rows

/-!
# Octets in the digits of a base

The programs `base64` and `base32` write octets in digits of six or five bits, in lines of one width, and
read them back. Octets are taken in groups that make up whole digits, and marks fill the last group.

* `DigitBase.encode` writes octets, and `DigitBase.decode` reads them back;
* `length_encode` : the text is made of whole groups.
-/

namespace ArtifactPipeline.Shell.Utility

/-- A base of digits. -/
structure DigitBase where
  digits : List Char
  /-- The number of bits in a digit. -/
  bits : Nat
  /-- The number of octets in a group. -/
  octets : Nat
  /-- The number of digits in a group. -/
  places : Nat
  /-- Whether a group that is cut short still has octets. -/
  keepsCut : Bool

namespace DigitBase

/-- Digits of six bits. -/
def sixtyFour : DigitBase where
  digits := "ABCDEFGHIJKLMNOPQRSTUVWXYZabcdefghijklmnopqrstuvwxyz0123456789+/".toList
  bits := 6
  octets := 3
  places := 4
  keepsCut := true

/-- Digits of five bits. -/
def thirtyTwo : DigitBase where
  digits := "ABCDEFGHIJKLMNOPQRSTUVWXYZ234567".toList
  bits := 5
  octets := 5
  places := 8
  keepsCut := false

/-- The mark that fills a group. -/
def filler : Char := '='

variable (b : DigitBase)

/-- A digit of a number, counted from the lowest one. -/
def digitAt (n i : Nat) : Char :=
  b.digits.getD (n / Nat.pow 2 (b.bits * i) % Nat.pow 2 b.bits) filler

/-- A group of octets in digits. -/
def encodeGroup (group : Bytes) : List Char :=
  let filled := group ++ List.replicate (b.octets - group.length) 0
  let n := filled.foldl (fun n octet => 256 * n + octet.toNat) 0
  let used := (8 * group.length + b.bits - 1) / b.bits
  (List.range b.places).map fun i => if i < used then b.digitAt n (b.places - 1 - i) else filler

/-- Octets in digits. -/
def encode : (fuel : Nat) → Bytes → List Char
  | 0, _ => []
  | fuel + 1, bytes =>
    if bytes.isEmpty then []
    else b.encodeGroup (bytes.take b.octets) ++ encode fuel (bytes.drop b.octets)

theorem length_encodeGroup (group : Bytes) : (b.encodeGroup group).length = b.places := by
  simp [encodeGroup]

theorem length_encode (fuel : Nat) (bytes : Bytes) : b.places ∣ (b.encode fuel bytes).length := by
  induction fuel generalizing bytes with
  | zero => exact Nat.dvd_zero _
  | succ fuel ih =>
    rw [encode]
    split
    · exact Nat.dvd_zero _
    · rw [List.length_append, length_encodeGroup]
      exact Nat.dvd_add (Nat.dvd_refl _) (ih _)

/-- The octets of a group of digits, and whether it makes sense. -/
def decodeGroup (group : List Char) : Bytes × Bool :=
  let digits := (group.takeWhile b.digits.contains).filterMap fun c => b.digits.idxOf? c
  let marks := group.drop digits.length
  let n := (digits ++ List.replicate (b.places - digits.length) 0).foldl
    (fun n d => Nat.pow 2 b.bits * n + d) 0
  let all := (List.range b.octets).map fun i => UInt8.ofNat (n / Nat.pow 256 (b.octets - 1 - i))
  let count := digits.length * b.bits / 8
  let whole := group.length == b.places
  let good := whole && marks.all (· == filler) && (8 * count + b.bits - 1) / b.bits == digits.length
    && 0 < count
  (if whole || b.keepsCut then all.take count else [], good)

/-- The octets of digits, up to a group that makes no sense, and whether there is none. -/
def decode : (fuel : Nat) → List Char → Bytes × Bool
  | 0, _ => ([], true)
  | fuel + 1, cs =>
    if cs.isEmpty then ([], true)
    else
      match b.decodeGroup (cs.take b.places) with
      | (octets, true) =>
        let (more, good) := decode fuel (cs.drop b.places)
        (octets ++ more, good)
      | (octets, false) => (octets, false)

end DigitBase

/-- A text in lines of a width; the width zero keeps it in one. -/
def wrapped (width : Nat) : (fuel : Nat) → List Char → String
  | 0, _ => ""
  | fuel + 1, cs =>
    if cs.isEmpty then ""
    else if width = 0 then String.ofList cs
    else String.ofList (cs.take width) ++ "\n" ++ wrapped width fuel (cs.drop width)

/-- The width of lines that an option asks for. -/
def wrapWidth (value : String) : Task Nat :=
  match Amount.read [] value with
  | .exactly n => return n
  | .tooLarge => return 0
  | _ => Task.fail ("invalid wrap size: " ++ Quoting.text value)

/-- The options of programs that write octets in digits. -/
def digitOptions : OptionTable where
  flags := "di"
  valued := "w"
  long := longNames "d=decode w=wrap i=ignore-garbage"

/-- Octets in digits of a base, or back. -/
def inDigits (b : DigitBase) : Utility := fun arguments => do
  let a ← Task.optionsWith digitOptions arguments fun letter value =>
    if letter = 'w' then discard (wrapWidth value) else pure ()
  let width ← match a.value? 'w' with
    | some value => wrapWidth value
    | none => pure 76
  Task.atMost 1 a.operands
  let name := a.operands.head?.getD "-"
  match ← Task.openOperand name with
  | .error fault =>
    if name = "-" then Task.fail ("read error: " ++ faultText fault) else Task.unreadable name fault
  | .ok number =>
    match ← Task.takeAll number with
    | .error fault => Task.fail ("read error: " ++ faultText fault)
    | .ok bytes =>
      if a.has 'd' then
        let cs := (textOf bytes).toList.filter fun c =>
          if a.has 'i' then b.digits.contains c || c == DigitBase.filler else c != '\n'
        let (octets, good) := b.decode (cs.length + 1) cs
        Task.put octets
        if !good then Task.fail "invalid input"
      else
        let cs := b.encode (bytes.length + 1) bytes
        Task.putText (wrapped width (cs.length + 1) cs)

/-- Octets in digits of six bits, or back. -/
def base64 : Utility := inDigits .sixtyFour

/-- Octets in digits of five bits, or back. -/
def base32 : Utility := inDigits .thirtyTwo

end ArtifactPipeline.Shell.Utility
