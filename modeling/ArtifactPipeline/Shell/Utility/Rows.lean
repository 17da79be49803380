import ArtifactPipeline.Shell.Task

/-!
# Rows of octets

Most programs work on the lines of what they read. A line ends with a line break; the last line of a file
may lack it.

* `endedLines` are the lines with their ends, and `plainLines` those without;
* `flatten_endedBy` : nothing is lost.
-/

namespace ArtifactPipeline.Shell.Utility

/-- Put an octet before rows, which a mark ends. -/
def putBefore (mark b : UInt8) (rows : List Bytes) : List Bytes :=
  if b = mark then [b] :: rows
  else
    match rows with
    | [] => [[b]]
    | row :: rows => (b :: row) :: rows

/-- The rows of octets, each with the mark that ends it; the last one may have none. -/
def endedBy (mark : UInt8) (bytes : Bytes) : List Bytes := bytes.foldr (putBefore mark) []

/-- The lines of octets, each with its end. -/
def endedLines (bytes : Bytes) : List Bytes := endedBy 0x0A bytes

/-- A line without its end. -/
def withoutEnd (mark : UInt8) (line : Bytes) : Bytes :=
  if line.getLast? = some mark then line.dropLast else line

/-- The rows of octets that end in a mark, without it. -/
def plainBy (mark : UInt8) (bytes : Bytes) : List Bytes :=
  (endedBy mark bytes).map (withoutEnd mark)

/-- The lines of octets, without their ends. -/
def plainLines (bytes : Bytes) : List Bytes := plainBy 0x0A bytes

/-- Lines, each with an end. -/
def unlines (lines : List Bytes) : Bytes := lines.flatMap fun line => line ++ [0x0A]

/-- Whether octets lack an end of a line at their end. -/
def isUnended (bytes : Bytes) : Bool := bytes.getLast?.any (· != 0x0A)

theorem flatten_putBefore (mark b : UInt8) (rows : List Bytes) :
    (putBefore mark b rows).flatten = b :: rows.flatten := by
  unfold putBefore
  split
  · simp
  · split <;> simp

theorem flatten_endedBy (mark : UInt8) (bytes : Bytes) : (endedBy mark bytes).flatten = bytes := by
  rw [endedBy]
  induction bytes with
  | nil => rfl
  | cons b rest ih => rw [List.foldr_cons, flatten_putBefore, ih]

/-- A text at the end of so many columns. -/
def rightAligned (width : Nat) (text : String) : String :=
  String.ofList (List.replicate (width - text.length) ' ') ++ text

/-- A text at the start of so many columns. -/
def leftAligned (width : Nat) (text : String) : String :=
  text ++ String.ofList (List.replicate (width - text.length) ' ')

/-- A number at the end of so many columns, in octets. -/
def paddedNumber (width n : Nat) : Bytes := Octets.bytes (rightAligned width (toString n))

/-- A number in a base, with zeros before it. -/
def zeroPadded (base width n : Nat) : String :=
  let digits := Nat.toDigits base n
  String.ofList (List.replicate (width - digits.length) '0' ++ digits)

/-- Octets as text. -/
def textOf (bytes : Bytes) : String := Octets.ofBytes bytes

/-- Whether an octet is a blank within a line. -/
def isBlankByte (b : UInt8) : Bool := b == 0x20 || b == 0x09

/-- Whether an octet separates words. -/
def isSpaceByte (b : UInt8) : Bool := b == 0x20 || (0x09 ≤ b && b ≤ 0x0D)

/-- Whether an octet is a decimal digit. -/
def isDigitByte (b : UInt8) : Bool := 0x30 ≤ b && b ≤ 0x39

/-- Whether an octet can be seen, or is a blank. -/
def isPrintedByte (b : UInt8) : Bool := 0x20 ≤ b && b ≤ 0x7E

/-- The number that digits denote. -/
def digitsValue (digits : Bytes) : Nat := digits.foldl (fun n b => 10 * n + (b.toNat - 0x30)) 0

/-- A letter as a capital. -/
def upperByte (b : UInt8) : UInt8 := if 0x61 ≤ b ∧ b ≤ 0x7A then b - 0x20 else b

end ArtifactPipeline.Shell.Utility
