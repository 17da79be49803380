import ArtifactPipeline.Decimal.Rounded

/-!
# Binary numbers of a format

A format of binary numbers says how many bits a number has and how large and how small it can be. A number
that is read is rounded to the nearest one of a format; it is written in decimal or hexadecimal digits.

* `nearestDouble` rounds decimal digits to a double of the machine; a decimal whose first digit is beyond
  the range of doubles by far is infinite, or zero, without a look at its digits.
* `FloatFormat.nearest` rounds, and `FloatFormat.read?` reads the number at the start of a text;
* `Floating.hexadecimal` writes a number with the digits that it has;
* `nearest_zero` : zero stays zero.
-/

namespace ArtifactPipeline.Decimal

/-! ### Doubles -/

/-- The number that decimal digits denote. -/
def digitsValue (digits : List Char) : Nat :=
  digits.foldl (fun n c => 10 * n + (c.toNat - '0'.toNat)) 0

/-- The exponents beyond which a number of few digits is infinite or zero. -/
def exponentBound : Int := 400

/-- The double nearest to `digits * 10 ^ exponent`. -/
def nearestDouble (digits : List Char) (exponent : Int) : Float :=
  let significant := digits.dropWhile (· == '0')
  let n := digitsValue significant
  let place := exponent + significant.length
  if n = 0 ∨ place < -exponentBound then 0.0
  else if exponentBound < place then 1.0 / 0.0
  else if 0 ≤ exponent then Float.ofScientific n false exponent.toNat
  else Float.ofScientific n true (-exponent).toNat

/-! ### Formats -/

/-- A format of binary numbers. -/
structure FloatFormat where
  /-- The number of bits. -/
  bits : Nat
  /-- The exponent of the smallest number. -/
  least : Int
  /-- The exponent from which on numbers are infinite. -/
  most : Int
  /-- The number of bits in the first hexadecimal digit. -/
  firstBits : Nat

/-- Numbers of fifty-three bits. -/
def FloatFormat.double : FloatFormat := ⟨53, -1074, 1024, 1⟩

/-- Numbers of sixty-four bits. -/
def FloatFormat.extended : FloatFormat := ⟨64, -16445, 16384, 4⟩

/-- A number of a format. -/
inductive Floating where
  | notANumber (negative : Bool)
  | infinite (negative : Bool)
  /-- `mantissa * 2 ^ exponent`. -/
  | finite (negative : Bool) (mantissa : Nat) (exponent : Int)
deriving Repr, DecidableEq

namespace FloatFormat

variable (f : FloatFormat)

/-- A fraction in units of a power of two, as numerator and denominator. -/
def inUnits (r : Ratio) (exponent : Int) : Nat × Nat :=
  if 0 ≤ exponent then (r.num, r.den * Nat.pow 2 exponent.toNat)
  else (r.num * Nat.pow 2 (-exponent).toNat, r.den)

/-- The number nearest to a fraction, and whether it is out of range: too large, or so small that bits are
lost. -/
def nearest (negative : Bool) (r : Ratio) : Floating × Bool :=
  if r.num = 0 then (.finite negative 0 0, false)
  else
    let guess : Int := (r.num.log2 : Int) - (r.den.log2 : Int)
    let (n, d) := inUnits r guess
    let top := if n < d then guess - 1 else guess
    let exponent := max (top - f.bits + 1) f.least
    let (n, d) := inUnits r exponent
    let mantissa := Decimal.nearest n d
    if f.most ≤ exponent + (mantissa.log2 : Int) then (.infinite negative, true)
    else
      let small := top < f.least + f.bits - 1
      let carried := mantissa = Nat.pow 2 f.bits
      (if carried then .finite negative (mantissa / 2) (exponent + 1)
        else .finite negative mantissa exponent, small && n % d != 0)

theorem nearest_zero (negative : Bool) (den : Nat) :
    f.nearest negative ⟨0, den⟩ = (.finite negative 0 0, false) := by
  simp [nearest]

/-- The digits at the start of a text, the number of them behind a point, and what stands after. -/
def digitsOf (isDigit : Char → Bool) (cs : List Char) : List Char × Nat × List Char :=
  let whole := cs.takeWhile isDigit
  match cs.drop whole.length with
  | '.' :: rest =>
    let places := rest.takeWhile isDigit
    (whole ++ places, places.length, rest.drop places.length)
  | rest => (whole, 0, rest)

/-- The exponent after a mark at the start of a text, and what stands after it. -/
def exponentOf (mark : Char) (cs : List Char) : Int × List Char :=
  match cs with
  | c :: rest =>
    let (negative, digits) := match rest with
      | '-' :: more => (true, more)
      | '+' :: more => (false, more)
      | more => (false, more)
    let taken := digits.takeWhile Char.isDigit
    if c.toLower = mark ∧ !taken.isEmpty then
      let n : Int := digitsValue taken
      (if negative then -n else n, digits.drop taken.length)
    else (0, cs)
  | [] => (0, [])

/-- The value of a hexadecimal digit. -/
def hexValue (c : Char) : Nat :=
  if c.isDigit then c.toNat - '0'.toNat else c.toLower.toNat - 'a'.toNat + 10

/-- Whether a character is a hexadecimal digit. -/
def isHexDigit (c : Char) : Bool := c.isDigit || ('a' ≤ c.toLower && c.toLower ≤ 'f')

/-- `n * base ^ exponent`, rounded. Numbers that are out of range by far are not computed. -/
def scaled (negative : Bool) (n base count : Nat) (exponent : Int) : Floating × Bool :=
  let bound : Int := 20000
  if n = 0 then (.finite negative 0 0, false)
  else if bound < exponent + count then (.infinite negative, true)
  else if exponent + count < -bound then (.finite negative 0 0, true)
  else f.nearest negative (.ofPower n base exponent)

/-- The number at the start of a text, whether it is out of range, and what stands after it. -/
def read? (text : List Char) : Option (Floating × Bool × List Char) :=
  let (negative, cs) := match text with
    | '-' :: rest => (true, rest)
    | '+' :: rest => (false, rest)
    | cs => (false, cs)
  let decimal : Option (Floating × Bool × List Char) :=
    let (digits, places, rest) := digitsOf Char.isDigit cs
    if digits.isEmpty then none
    else
      let (exponent, rest) := exponentOf 'e' rest
      let (x, far) := f.scaled negative (digitsValue digits) 10 digits.length (exponent - places)
      some (x, far, rest)
  match cs.map Char.toLower with
  | 'i' :: 'n' :: 'f' :: 'i' :: 'n' :: 'i' :: 't' :: 'y' :: _ =>
    some (.infinite negative, false, cs.drop 8)
  | 'i' :: 'n' :: 'f' :: _ => some (.infinite negative, false, cs.drop 3)
  | 'n' :: 'a' :: 'n' :: _ => some (.notANumber negative, false, cs.drop 3)
  | '0' :: 'x' :: _ =>
    let (digits, places, rest) := digitsOf isHexDigit (cs.drop 2)
    if digits.isEmpty then decimal
    else
      let (exponent, rest) := exponentOf 'p' rest
      let n := digits.foldl (fun n c => 16 * n + hexValue c) 0
      let (x, far) := f.scaled negative n 2 (4 * digits.length) (exponent - 4 * places)
      some (x, far, rest)
  | _ => decimal

end FloatFormat

namespace Floating

/-- Whether a number has a minus sign. -/
def isNegative : Floating → Bool
  | notANumber negative => negative
  | infinite negative => negative
  | finite negative _ _ => negative

/-- The name of a number that has no digits. -/
def name? : Floating → Option String
  | notANumber _ => some "nan"
  | infinite _ => some "inf"
  | finite _ _ _ => none

/-- The size of a number as a fraction. -/
def ratio : Floating → Ratio
  | finite _ mantissa exponent => .ofPower mantissa 2 exponent
  | _ => ⟨0, 1⟩

/-- A number in hexadecimal digits after `0x`, with a power of two. Without a number of places it has the
digits that it needs. -/
def hexadecimal (f : FloatFormat) (places : Option Nat) (alternate : Bool) (x : Floating) : List Char :=
  match x with
  | finite _ mantissa exponent =>
    let behind := (f.bits - f.firstBits + 3) / 4
    let shift := 4 * behind - (f.bits - f.firstBits)
    let extra := f.bits - 1 - mantissa.log2
    let normal : Int := f.least + f.bits - f.firstBits
    let lifted := exponent - extra
    let small := mantissa = 0 ∨ lifted < f.least
    let (digits, power) : Nat × Int :=
      if mantissa = 0 then (0, 0)
      else if small then (mantissa * Nat.pow 2 ((exponent - f.least).toNat + shift), normal)
      else (mantissa * Nat.pow 2 (extra + shift), lifted + f.bits - f.firstBits)
    let kept := places.getD behind
    let rounded :=
      if kept < behind then Decimal.nearest digits (Nat.pow 16 (behind - kept))
      else digits * Nat.pow 16 (kept - behind)
    let all := Nat.toDigits 16 rounded
    let all := List.replicate (kept + 1 - all.length) '0' ++ all
    let whole := all.take (all.length - kept)
    let fraction := all.drop (all.length - kept)
    let fraction := if places.isNone then (fraction.reverse.dropWhile (· == '0')).reverse else fraction
    let point := if fraction.isEmpty ∧ !alternate then [] else ['.']
    whole ++ point ++ fraction ++ 'p' :: (if power < 0 then '-' else '+')
      :: Nat.toDigits 10 power.natAbs
  | _ => []

end Floating

end ArtifactPipeline.Decimal
