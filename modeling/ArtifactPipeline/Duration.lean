/-!
# Durations

A duration is a number of nanoseconds. Its text uses the largest unit among seconds, milliseconds,
microseconds and nanoseconds that the duration fills at least once, with the rest as a decimal
fraction that does not end in a zero.
-/

namespace ArtifactPipeline

/-- A span of time. -/
structure Duration where
  nanoseconds : Nat
deriving Repr, DecidableEq

namespace Duration

/-- A number of whole seconds. -/
def ofSeconds (seconds : Nat) : Duration := ⟨seconds * 1000000000⟩

/-- The shortest span that a clock tells from none. -/
def instant : Duration := ⟨1⟩

instance : LT Duration := ⟨fun a b => a.nanoseconds < b.nanoseconds⟩

instance (a b : Duration) : Decidable (a < b) :=
  inferInstanceAs (Decidable (a.nanoseconds < b.nanoseconds))

/-- The digits of `part`, a number below the power of ten with `places` zeros, after the point and
without zeros at the end. -/
def fraction (part places : Nat) : String :=
  let digits := Nat.toDigits 10 part
  let padded := List.replicate (places - digits.length) '0' ++ digits
  let kept := (padded.reverse.dropWhile (· == '0')).reverse
  if kept.isEmpty then "" else "." ++ String.ofList kept

/-- A duration in the largest unit that it fills. -/
def text (d : Duration) : String :=
  let n := d.nanoseconds
  if 1000000000 ≤ n then
    toString (n / 1000000000) ++ fraction (n % 1000000000) 9 ++ "s"
  else if 1000000 ≤ n then toString (n / 1000000) ++ fraction (n % 1000000) 6 ++ "ms"
  else if 1000 ≤ n then toString (n / 1000) ++ fraction (n % 1000) 3 ++ "µs"
  else toString n ++ "ns"

end Duration

end ArtifactPipeline
