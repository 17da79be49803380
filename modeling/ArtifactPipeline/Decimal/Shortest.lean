import ArtifactPipeline.Word

/-!
# The shortest decimal that reads back

A finite binary number stands for every real number that is rounded to it, an interval around it.
Its shortest decimal is the decimal with the fewest digits in that interval, and among those the
one nearest to the number; of two equally near ones the one with the even last digit.

`shortest` looks at one number of digits after the other. With a given number of digits the
candidates are the two neighbours of the number on the grid of such decimals: if any point of the
grid lies in the interval, one of the two does. All comparisons are exact, on natural numbers.

How the digits are written out is said by a `Layout`: which exponents get positional digits, and how
an exponent is spelled otherwise. `Layout.render` writes a double in a layout.
-/

namespace ArtifactPipeline.Decimal

/-! ### Digits -/

/-- A positive number `mantissa * 2 ^ exponent`. -/
structure Binary where
  mantissa : Nat
  exponent : Int
  /-- Whether the next number below is only half as far away as the one above. -/
  narrowBelow : Bool
deriving Repr, DecidableEq

/-- A positive number `digits * 10 ^ exponent`. -/
structure Scaled where
  digits : Nat
  exponent : Int
deriving Repr, DecidableEq

/-- A positive fraction. -/
structure Ratio where
  num : Nat
  den : Nat
deriving Repr, DecidableEq

namespace Ratio

/-- `n * base ^ e`. -/
def ofPower (n base : Nat) (e : Int) : Ratio :=
  if 0 ≤ e then ⟨n * Nat.pow base e.toNat, 1⟩ else ⟨n, Nat.pow base (-e).toNat⟩

/-- Whether `a ≤ b`. -/
def le (a b : Ratio) : Bool := a.num * b.den ≤ b.num * a.den

/-- Whether `a < b`. -/
def lt (a b : Ratio) : Bool := a.num * b.den < b.num * a.den

/-- The distance between two fractions. -/
def distance (a b : Ratio) : Ratio :=
  ⟨(a.num * b.den - b.num * a.den) + (b.num * a.den - a.num * b.den), a.den * b.den⟩

end Ratio

/-- The number itself. -/
def Binary.value (x : Binary) : Ratio := .ofPower x.mantissa 2 x.exponent

/-- The lower end of the interval of numbers rounded to `x`. -/
def Binary.lower (x : Binary) : Ratio :=
  if x.narrowBelow then .ofPower (4 * x.mantissa - 1) 2 (x.exponent - 2)
  else .ofPower (2 * x.mantissa - 1) 2 (x.exponent - 1)

/-- The upper end of the interval of numbers rounded to `x`. -/
def Binary.upper (x : Binary) : Ratio := .ofPower (2 * x.mantissa + 1) 2 (x.exponent - 1)

/-- Whether a decimal is rounded to `x`. The ends of the interval are, when the mantissa is
even. -/
def Binary.covers (x : Binary) (d : Scaled) : Bool :=
  let r := Ratio.ofPower d.digits 10 d.exponent
  if x.mantissa % 2 = 0 then x.lower.le r && r.le x.upper
  else x.lower.lt r && r.lt x.upper

/-- The number `p` with `10 ^ (p - 1) ≤ r < 10 ^ p`, starting from a guess that is off by at most
`fuel`. -/
def magnitudeFrom (r : Ratio) : (fuel : Nat) → (guess : Int) → Int
  | 0, guess => guess
  | fuel + 1, guess =>
    if (Ratio.ofPower 1 10 guess).le r then magnitudeFrom r fuel (guess + 1)
    else if r.lt (Ratio.ofPower 1 10 (guess - 1)) then magnitudeFrom r fuel (guess - 1)
    else guess

/-- The place of the first digit of a positive fraction: one more than the exponent of its highest
power of ten. -/
def magnitude (r : Ratio) : Int :=
  let guess := ((r.num.log2 : Int) - (r.den.log2 : Int)) * 30103 / 100000
  magnitudeFrom r 4 guess

/-- The candidate with `n` digits, if one of the two is rounded to `x`. -/
def candidate? (x : Binary) (place : Int) (n : Nat) : Option Scaled :=
  let v := x.value
  let k := place - n
  let unit := Ratio.ofPower 1 10 k
  let below := v.num * unit.den / (v.den * unit.num)
  let low : Scaled := ⟨below, k⟩
  let high : Scaled := ⟨below + 1, k⟩
  let lowGap := v.distance (.ofPower low.digits 10 k)
  let highGap := v.distance (.ofPower high.digits 10 k)
  match x.covers low, x.covers high with
  | true, true =>
    if lowGap.lt highGap then some low
    else if highGap.lt lowGap then some high
    else some (if below % 2 = 0 then low else high)
  | true, false => some low
  | false, true => some high
  | false, false => none

/-- A decimal without zeros at its end; `fuel` bounds their number. -/
def dropZeros : (fuel : Nat) → Scaled → Scaled
  | 0, d => d
  | fuel + 1, d =>
    if d.digits % 10 = 0 then dropZeros fuel ⟨d.digits / 10, d.exponent + 1⟩ else d

/-- The most digits that a double needs to be read back. -/
def digitLimit : Nat := 17

/-- The shortest decimal that reads back as `x`. -/
def shortest (x : Binary) : Scaled :=
  let place := magnitude x.value
  let found := (List.range digitLimit).findSome? fun n => candidate? x place (n + 1)
  dropZeros digitLimit (found.getD ⟨x.mantissa, 0⟩)

/-- The sign, the exponent field and the fraction field of a double. -/
def fields (x : Float) : Bool × Nat × Nat :=
  let bits := x.toBits.toNat
  (Word.signedBound ≤ bits, bits / Nat.pow 2 52 % Nat.pow 2 11, bits % Nat.pow 2 52)

/-- The magnitude of a double that is neither zero nor infinite nor no number. -/
def binaryOf (x : Float) : Binary :=
  let (_, exponent, fraction) := fields x
  if exponent = 0 then ⟨fraction, -1074, false⟩
  else ⟨fraction + Nat.pow 2 52, (exponent : Int) - 1075, fraction == 0 && 1 < exponent⟩

/-! ### Layouts -/

/-- The spelling of decimal numbers. -/
structure Layout where
  /-- The least exponent of the first digit that is written positionally. -/
  leastPositional : Int
  /-- The least exponent of the first digit that is too large for that. -/
  firstScientific : Int
  /-- What follows a whole number in positional digits. -/
  wholeEnd : String
  /-- What stands before an exponent. -/
  mark : String
  /-- The sign of an exponent that is not negative. -/
  plus : String

/-- The digits of a number. -/
def digitText (n : Nat) : String := String.ofList (Nat.toDigits 10 n)

/-- A row of zeros. -/
def zeros (n : Nat) : String := String.ofList (List.replicate n '0')

/-- Write a positive decimal. -/
def Layout.write (layout : Layout) (d : Scaled) : String :=
  let digits := Nat.toDigits 10 d.digits
  let first : Int := d.exponent + digits.length - 1
  if layout.leastPositional ≤ first ∧ first < layout.firstScientific then
    if 0 ≤ d.exponent then
      String.ofList digits ++ zeros d.exponent.toNat ++ layout.wholeEnd
    else if 0 ≤ first then
      let whole := first.toNat + 1
      String.ofList (digits.take whole) ++ "." ++ String.ofList (digits.drop whole)
    else "0." ++ zeros (-first - 1).toNat ++ String.ofList digits
  else
    let rest := digits.drop 1
    let fraction := if rest.isEmpty then "" else "." ++ String.ofList rest
    let sign := if first < 0 then "-" else layout.plus
    String.ofList (digits.take 1) ++ fraction ++ layout.mark ++ sign ++ digitText first.natAbs

/-- Write a finite double. -/
def Layout.render (layout : Layout) (x : Float) : String :=
  let (negative, exponent, fraction) := fields x
  let sign := if negative then "-" else ""
  if exponent = 0 ∧ fraction = 0 then sign ++ "0" ++ layout.wholeEnd
  else sign ++ layout.write (shortest (binaryOf x))

end ArtifactPipeline.Decimal
