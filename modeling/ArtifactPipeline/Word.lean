/-!
# Words

Whole numbers of 64 bits. A word without a sign holds the natural numbers below `bound`. A word with
a sign holds the numbers from `-signedBound` up to `signedBound`, the last one left out, and an
arithmetic that leaves them comes back in at the other end:

* `wrap_fits` : what comes back in is held;
* `wrap_eq_self` : what is held stays.
-/

namespace ArtifactPipeline.Word

/-- How many words there are. -/
def bound : Nat := 18446744073709551616

/-- How many words with a sign are not negative. -/
def signedBound : Nat := 9223372036854775808

/-- Whether a word with a sign holds a number. -/
def fits (n : Int) : Bool := -(signedBound : Int) ≤ n && n < signedBound

/-- The number that a word with a sign holds in the place of another. -/
def wrap (n : Int) : Int := Int.bmod n bound

theorem bound_eq : bound = Nat.pow 2 64 := by decide

theorem signedBound_eq : signedBound = Nat.pow 2 63 := by decide

theorem fits_iff {n : Int} : fits n = true ↔ -(signedBound : Int) ≤ n ∧ n < signedBound := by
  simp [fits]

/-- A wrapped number is held. -/
theorem wrap_fits (n : Int) : fits (wrap n) = true := by
  have positive : 0 < bound := by decide
  refine fits_iff.2 ⟨?_, ?_⟩
  · have least := Int.le_bmod (x := n) positive
    rw [show (-((bound : Int) / 2)) = -(signedBound : Int) from by decide] at least
    exact least
  · have most := Int.bmod_lt (x := n) positive
    rw [show ((bound : Int) + 1) / 2 = (signedBound : Int) from by decide] at most
    exact most

/-- A number that is held stays as it is. -/
theorem wrap_eq_self {n : Int} (h : fits n = true) : wrap n = n := by
  obtain ⟨least, most⟩ := fits_iff.1 h
  simp only [signedBound] at least most
  exact Int.bmod_eq_of_le (by simp only [bound]; omega) (by simp only [bound]; omega)

end ArtifactPipeline.Word
