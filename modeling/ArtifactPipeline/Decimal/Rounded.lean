import ArtifactPipeline.Decimal.Shortest

/-!
# Decimals of a given length

A number is written with a given number of decimal places, or with a given number of digits and an
exponent. What does not fit is rounded to the nearest decimal of that length, and a number in the
middle between two of them goes to the one with the even last digit.

* `nearest` rounds a fraction to a whole number;
* `nearest_mul_self` : a whole number stays as it is;
* `fixed` writes a number with decimal places, `scientific` with an exponent.
-/

namespace ArtifactPipeline.Decimal

/-- The whole number nearest to a fraction. -/
def nearest (num den : Nat) : Nat :=
  let whole := num / den
  let rest := 2 * (num % den)
  if rest < den then whole
  else if den < rest then whole + 1
  else if whole % 2 = 0 then whole
  else whole + 1

theorem nearest_mul_self (n den : Nat) (h : 0 < den) : nearest (n * den) den = n := by
  simp [nearest, Nat.mul_div_cancel _ h, h]

/-- Digits with a number of places behind a point. -/
def pointed (places : Nat) (alternate : Bool) (digits : List Char) : List Char :=
  let digits := List.replicate (places + 1 - digits.length) '0' ++ digits
  let whole := digits.length - places
  let point := if places = 0 ∧ !alternate then [] else ['.']
  digits.take whole ++ point ++ digits.drop whole

/-- A fraction with a number of decimal places; `alternate` keeps the point even without places. -/
def fixed (places : Nat) (alternate : Bool) (r : Ratio) : List Char :=
  pointed places alternate (Nat.toDigits 10 (nearest (r.num * Nat.pow 10 places) r.den))

/-- The digits of a positive fraction, one more than `places`, and the exponent of the first. -/
def leading (places : Nat) (r : Ratio) : Nat × Int :=
  let exponent := magnitude r - 1
  let scale : Int := (places : Int) - exponent
  let n :=
    if 0 ≤ scale then nearest (r.num * Nat.pow 10 scale.toNat) r.den
    else nearest r.num (r.den * Nat.pow 10 (-scale).toNat)
  if n < Nat.pow 10 (places + 1) then (n, exponent) else (n / 10, exponent + 1)

/-- An exponent with its mark and its sign, in two digits at least. -/
def exponentText (mark : Char) (e : Int) : List Char :=
  let digits := Nat.toDigits 10 e.natAbs
  mark :: (if e < 0 then '-' else '+') :: List.replicate (2 - digits.length) '0' ++ digits

/-- A fraction with one digit before the point, and an exponent. -/
def scientific (places : Nat) (alternate : Bool) (mark : Char) (r : Ratio) : List Char :=
  let (n, e) := if r.num = 0 then (0, 0) else leading places r
  pointed places alternate (Nat.toDigits 10 n) ++ exponentText mark e

/-- Digits without the zeros at the end of those behind the point. -/
def withoutZeros (digits : List Char) : List Char :=
  if digits.contains '.' then
    let kept := digits.reverse.dropWhile (· == '0')
    (if kept.head? = some '.' then kept.tail else kept).reverse
  else digits

/-- A fraction with a number of digits that count, with an exponent where that is shorter. -/
def general (digits : Nat) (alternate : Bool) (mark : Char) (r : Ratio) : List Char :=
  let digits := if digits = 0 then 1 else digits
  let e := if r.num = 0 then 0 else (leading (digits - 1) r).2
  let tidy (cs : List Char) : List Char := if alternate then cs else withoutZeros cs
  if -4 ≤ e ∧ e < digits then tidy (fixed ((digits : Int) - 1 - e).toNat alternate r)
  else
    let n := if r.num = 0 then 0 else (leading (digits - 1) r).1
    tidy (pointed (digits - 1) alternate (Nat.toDigits 10 n)) ++ exponentText mark e

end ArtifactPipeline.Decimal
