import ArtifactPipeline.Toml.Number

/-!
# Dates and times

A moment is a date, a time of day, or both, and then with or without an offset from universal
time. Its normal form has a capital `T` between date and time, a capital `Z` for no offset, and at
most nine digits of a second's fraction, without zeros at the end.

A moment stands in a document without quotes; a text can spell one, too.
-/

namespace ArtifactPipeline.Toml

open Text (Reader hexValue?)
open Text.Reader

/-- A number of exactly `n` decimal digits between two bounds. -/
def field (n least greatest : Nat) : Reader Nat := fun cs =>
  let digits := cs.take n
  if digits.length < n ∨ digits.any (fun c => !isDecimalDigit c) then none
  else
    let value := valueIn 10 digits
    if least ≤ value ∧ value ≤ greatest then some (value, cs.drop n) else none

/-- A number in at least `n` digits. -/
def padded (n value : Nat) : String :=
  let digits := Nat.toDigits 10 value
  String.ofList (List.replicate (n - digits.length) '0' ++ digits)

/-- Whether a year has a day more. -/
def isLeapYear (year : Nat) : Bool :=
  (year % 4 == 0 && year % 100 != 0) || year % 400 == 0

/-- The days of a month. -/
def daysIn (year month : Nat) : Nat :=
  if month = 2 then if isLeapYear year then 29 else 28
  else if month = 4 ∨ month = 6 ∨ month = 9 ∨ month = 11 then 30
  else 31

/-- A date in normal form. -/
def date : Reader String := do
  let year ← field 4 0 9999
  char '-'
  let month ← field 2 1 12
  char '-'
  let day ← field 2 1 31
  require (day ≤ daysIn year month)
  pure (padded 4 year ++ "-" ++ padded 2 month ++ "-" ++ padded 2 day)

/-- The fraction of a second in normal form, with its point unless it is zero. -/
def secondFraction : Reader String := do
  char '.'
  let digits ← run1 isDecimalDigit
  let kept := ((digits.take 9).reverse.dropWhile (· == '0')).reverse
  pure (if kept.isEmpty then "" else "." ++ String.ofList kept)

/-- A time of day in normal form. -/
def time : Reader String := do
  let hour ← field 2 0 23
  char ':'
  let minute ← field 2 0 59
  char ':'
  let second ← field 2 0 60
  let part ← optional secondFraction
  pure (padded 2 hour ++ ":" ++ padded 2 minute ++ ":" ++ padded 2 second ++ part.getD "")

/-- An offset in normal form. -/
def offset : Reader String :=
  orElse
    (do
      let _ ← satisfy fun c => c == 'Z' || c == 'z'
      pure "Z")
    (do
      let c ← satisfy fun c => c == '+' || c == '-'
      let hour ← field 2 0 23
      char ':'
      let minute ← field 2 0 59
      let negative := c == '-' && (hour, minute) != (0, 0)
      pure ((if negative then "-" else "+") ++ padded 2 hour ++ ":" ++ padded 2 minute))

/-- What may follow a date. -/
def timeAfterDate : Reader String := do
  let _ ← satisfy fun c => c == 'T' || c == 't' || c == ' '
  let t ← time
  let o ← optional offset
  pure ("T" ++ t ++ o.getD "")

/-- A moment in normal form. -/
def moment : Reader String :=
  orElse
    (do
      let d ← date
      let t ← optional timeAfterDate
      pure (d ++ t.getD ""))
    time

/-- The normal form of the moment that a text spells. -/
def momentOfText? (s : String) : Option String :=
  match moment s.toList with
  | some (t, []) => some t
  | _ => none

end ArtifactPipeline.Toml
