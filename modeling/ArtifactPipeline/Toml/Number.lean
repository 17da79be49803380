import ArtifactPipeline.Decimal.Floating
import ArtifactPipeline.Toml.Text
import ArtifactPipeline.Word

/-!
# Numbers

Digits may have single underscores between them. An integer is decimal, with a sign and without
leading zeros, or hexadecimal, octal or binary, without a sign; it must fit into 64 bits with sign.
A float has a fraction, an exponent or both, or is infinite or no number; one that is too large is
refused, except that a negative one becomes the negative infinity.
-/

namespace ArtifactPipeline.Toml

open Text (Reader hexValue?)
open Text.Reader

/-- Digits with single underscores between them; the underscores are left out. -/
def digitsWith (isDigit : Char → Bool) : Reader (List Char) := do
  let first ← satisfy isDigit
  let rest ← many (orElse (satisfy isDigit) (do
    char '_'
    satisfy isDigit))
  pure (first :: rest)

/-- A decimal digit. -/
def isDecimalDigit (c : Char) : Bool := '0' ≤ c && c ≤ '9'

/-- Decimal digits that may start with zeros. -/
def looseDigits : Reader (List Char) := digitsWith isDecimalDigit

/-- The digits of a whole number, without leading zeros. -/
def strictDigits : Reader (List Char) := do
  let c ← peek
  if c == some '0' then
    char '0'
    pure ['0']
  else looseDigits

/-- Whether a minus sign was read; a plus sign may stand there too. -/
def sign : Reader Bool := do
  let c ← peek
  if c == some '-' then
    char '-'
    pure true
  else if c == some '+' then
    char '+'
    pure false
  else pure false

/-- The number that digits spell in a base. -/
def valueIn (base : Nat) (digits : List Char) : Nat :=
  digits.foldl (fun acc c => acc * base + (hexValue? c).getD 0) 0

/-- The integers that fit. -/
def inRange (n : Int) : Bool := Word.fits n

/-- An integer in another base, after its mark. -/
def based (mark : Char) (base : Nat) : Reader Int := do
  text ['0', mark]
  let digits ← digitsWith fun c => (hexValue? c).any (· < base)
  let n : Int := valueIn base digits
  require (inRange n)
  pure n

/-- A decimal integer. -/
def decimalInteger : Reader Int := do
  let negative ← sign
  let digits ← strictDigits
  let n : Int := valueIn 10 digits
  let n := if negative then -n else n
  require (inRange n)
  pure n

/-- An integer. -/
def integer : Reader Int :=
  firstOf [based 'x' 16, based 'o' 8, based 'b' 2, decimalInteger]

/-- The digits after the point. -/
def fraction : Reader (List Char) := do
  char '.'
  looseDigits

/-- The exponent after its mark. -/
def exponent : Reader Int := do
  let _ ← satisfy fun c => c == 'e' || c == 'E'
  let negative ← sign
  let digits ← looseDigits
  let n : Int := valueIn 10 digits
  pure (if negative then -n else n)

/-- A float in digits. -/
def digitFloat : Reader Float := do
  let negative ← sign
  let whole ← strictDigits
  let after ← optional fraction
  let power ← optional exponent
  require (after.isSome || power.isSome)
  let after := after.getD []
  let x := Decimal.nearestDouble (whole ++ after) (power.getD 0 - after.length)
  require (negative || !x.isInf)
  pure (if negative then -x else x)

/-- A float that is infinite or no number. -/
def namedFloat : Reader Float := do
  let negative ← sign
  let x ← orElse
    (do
      text ['i', 'n', 'f']
      pure (1.0 / 0.0))
    (do
      text ['n', 'a', 'n']
      pure (0.0 / 0.0))
  pure (if negative then -x else x)

/-- A float. -/
def float : Reader Float := orElse digitFloat namedFloat

end ArtifactPipeline.Toml
