import ArtifactPipeline.Config.Value
import ArtifactPipeline.Text.Quoted
import ArtifactPipeline.Text.Reader
import ArtifactPipeline.Word

/-!
# Reading written values

The reader for the form in which configuration values are written. Blanks may stand around every
part of a value, lists and tables may hold each other up to a fixed depth, and of two entries with
one key the later counts. A number without fraction and exponent is an integer if it fits into 64
bits, with or without a sign; every other number is a float.

* `Value.parse?` reads a whole text;
* `scale` gives the double for the digits of a float.
-/

namespace ArtifactPipeline.Config

open Text (Reader hexValue?)
open Text.Reader

/-- The number of lists and tables that may stand inside each other. -/
def nestingLimit : Nat := 127

/-- Whether a character may stand around the parts of a value. -/
def isPadding (c : Char) : Bool := c == ' ' || c == '\t' || c == '\n' || c == '\r'

/-- A character with the blanks before it. -/
def mark (c : Char) : Reader Unit := do
  let _ ← run isPadding
  char c

/-! ### Texts -/

/-- The number that four hexadecimal digits denote. -/
def unit : Reader Nat := fun cs => do
  let digits ← (cs.take 4).mapM hexValue?
  if digits.length = 4 then
    some (digits.foldl (fun n d => n * 16 + d) 0, cs.drop 4)
  else none

/-- A character by its number. One beyond the sixteenth bit is given in two units. -/
def numberedChar : Reader Char := do
  let n ← unit
  if 0xD800 ≤ n ∧ n < 0xDC00 then
    text ['\\', 'u']
    let low ← unit
    require (0xDC00 ≤ low && low < 0xE000)
    pure (Char.ofNat (0x10000 + (n - 0xD800) * 0x400 + (low - 0xDC00)))
  else
    require (n < 0xDC00 || 0xE000 ≤ n)
    pure (Char.ofNat n)

/-- A character after a backslash. -/
def escapedTail : Reader Char := do
  match ← satisfy fun _ => true with
  | '\x22' => pure '\x22'
  | '\\' => pure '\\'
  | '/' => pure '/'
  | 'b' => pure '\x08'
  | 'f' => pure '\x0c'
  | 'n' => pure '\n'
  | 'r' => pure '\r'
  | 't' => pure '\t'
  | 'u' => numberedChar
  | _ => refuse

/-- A character of a text. -/
def textChar : Reader Char := do
  let c ← satisfy fun c => c != '\x22' && 0x20 ≤ c.toNat
  if c == '\\' then escapedTail else pure c

/-- A text between double quotes. -/
def textBody : Reader String := do
  char '\x22'
  let cs ← many textChar
  char '\x22'
  pure (String.ofList cs)

/-! ### Numbers -/

/-- The digits of a number, as far as it fits into 64 bits, and how many digits are left. -/
def significand (digits : List Char) : Nat × Nat :=
  digits.foldl (fun (n, left) c =>
    let next := n * 10 + (c.toNat - '0'.toNat)
    if left = 0 ∧ next < Word.bound then (next, 0) else (n, left + 1)) (0, 0)

/-- The greatest power of ten by which a float is scaled in one step. -/
def greatestStep : Nat := 308

/-- A float times a power of ten, rounded once for each step. A result that is too large is none.
After `steps` steps of division nothing is left. -/
def scale : (steps : Nat) → Float → Int → Option Float
  | 0, _, _ => some 0.0
  | steps + 1, x, exponent =>
    if exponent.natAbs ≤ greatestStep then
      let power := Float.ofScientific 1 false exponent.natAbs
      if exponent < 0 then some (x / power)
      else if (x * power).isInf then none
      else some (x * power)
    else if x == 0.0 then some x
    else if 0 < exponent then none
    else scale steps (x / 1e308) (exponent + greatestStep)

/-- The float of some digits, the last of them at a power of ten. -/
def floatOf (digits : List Char) (exponent : Int) : Option Float :=
  let (n, left) := significand digits
  scale 4 (UInt64.ofNat n).toFloat (exponent + left)

/-- Digits without a zero before others. -/
def plainDigits : Reader (List Char) := do
  let digits ← run1 Char.isDigit
  require (digits.length = 1 || digits.head? != some '0')
  pure digits

/-- The exponent of a number. -/
def powerOfTen : Reader Int := do
  let _ ← satisfy fun c => c == 'e' || c == 'E'
  let sign ← optional (satisfy fun c => c == '+' || c == '-')
  let digits ← run1 Char.isDigit
  let n : Int := digits.foldl (fun n c => n * 10 + (c.toNat - '0'.toNat)) 0
  pure (if sign == some '-' then -n else n)

/-- The integer that digits denote, if it fits. A zero with a sign is none. -/
def integer? (negative : Bool) (digits : List Char) : Option Value :=
  let (n, left) := significand digits
  if left ≠ 0 then none
  else if !negative then some (.int n)
  else if n ≠ 0 ∧ n ≤ Word.signedBound then some (.int (-(n : Int)))
  else none

/-- A number. -/
def number : Reader Value := do
  let minus ← optional (char '-')
  let whole ← plainDigits
  let fraction ← optional (do
    char '.'
    run1 Char.isDigit)
  let exponent ← optional powerOfTen
  let negative := minus.isSome
  let integer := if fraction.isNone && exponent.isNone then integer? negative whole else none
  match integer with
  | some v => pure v
  | none =>
    let fraction := fraction.getD []
    let x ← ofOption (floatOf (whole ++ fraction) (exponent.getD 0 - fraction.length))
    pure (.float (if negative then -x else x))

/-! ### Values -/

/-- A value that holds no other. -/
def leaf : Reader Value := do
  let _ ← run isPadding
  firstOf [
    Value.string <$> textBody,
    number,
    (do
      text ['n', 'u', 'l', 'l']
      pure .null),
    (do
      text ['t', 'r', 'u', 'e']
      pure (.bool true)),
    (do
      text ['f', 'a', 'l', 's', 'e']
      pure (.bool false))]

/-- A list, given a reader of its items. -/
def items (item : Reader Value) : Reader Value := do
  mark '['
  let found ← separated item (mark ',')
  mark ']'
  pure (.array found)

/-- An entry of a table, given a reader of its value. -/
def keyed (item : Reader Value) : Reader (String × Value) := do
  let _ ← run isPadding
  let key ← textBody
  mark ':'
  let v ← item
  pure (key, v)

/-- A table, given a reader of the values in it. -/
def entries (item : Reader Value) : Reader Value := do
  mark '\x7b'
  let found ← separated (keyed item) (mark ',')
  mark '\x7d'
  pure (.table found)

/-- A value with at most `depth` lists and tables inside each other. -/
def nested : (depth : Nat) → Reader Value
  | 0 => leaf
  | depth + 1 => firstOf [items (nested depth), entries (nested depth), leaf]

/-- The value that a text spells. -/
def Value.parse? (s : String) : Option Value :=
  whole (do
    let v ← nested nestingLimit
    let _ ← run isPadding
    pure v) s

end ArtifactPipeline.Config
