import ArtifactPipeline.Emulation.Settings

/-!
# Ports

A port is a number between 1 and `lastPort`. A configuration may give it as a whole number or as a
text of digits, with blanks around it and a plus sign before it. `SpellsPort` says which port a value
spells, and `portOf?_eq_some_iff` that reading a value finds this port and no other.
-/

namespace ArtifactPipeline.Emulation

open Config

/-- The numbers that ports have. -/
def IsPort (n : Nat) : Prop := 0 < n ∧ n ≤ lastPort

/-- Digits, with a plus sign before them or none. -/
structure Numeral (text digits : List Char) : Prop where
  signed : text = digits ∨ text = '+' :: digits
  ne_nil : digits ≠ []
  isDigit : ∀ d ∈ digits, d.isDigit = true

/-- **The port that a value spells.** -/
inductive SpellsPort : Value → Nat → Prop
  | number {n : Nat} (hport : IsPort n) : SpellsPort (.int n) n
  | text {s : String} {digits : List Char} (hnumeral : Numeral (Text.trim s.toList) digits)
      (hport : IsPort (Nat.ofDigitChars 10 digits 0)) :
      SpellsPort (.string s) (Nat.ofDigitChars 10 digits 0)

theorem smallNumber?_eq_some_iff {text : List Char} {n : Nat} :
    smallNumber? text = some n ↔
      ∃ digits, Numeral text digits ∧ Nat.ofDigitChars 10 digits 0 = n ∧ n ≤ lastPort := by
  constructor
  · intro h
    unfold smallNumber? at h
    extract_lets digits at h
    have hsigned : text = digits ∨ text = '+' :: digits := by
      simp only [digits]
      split
      · exact .inr rfl
      · exact .inl rfl
    split at h
    · cases h
    · next hdigits =>
      simp only [Bool.or_eq_true, Bool.not_eq_true', not_or, Bool.not_eq_true,
        Bool.not_eq_false, List.isEmpty_eq_false_iff, List.all_eq_true] at hdigits
      split at h
      · next hle =>
        obtain rfl := Option.some.inj h
        exact ⟨digits, ⟨hsigned, hdigits.1, hdigits.2⟩, rfl, hle⟩
      · cases h
  · rintro ⟨digits, hnumeral, rfl, hle⟩
    unfold smallNumber?
    extract_lets unsigned
    have hunsigned : unsigned = digits := by
      simp only [unsigned]
      rcases hnumeral.signed with rfl | rfl
      · -- a plus sign is no digit, so none is taken away here
        split
        · exact absurd (hnumeral.isDigit '+' List.mem_cons_self) (by decide)
        · rfl
      · rfl
    clear_value unsigned
    subst hunsigned
    have hempty : unsigned.isEmpty = false := List.isEmpty_eq_false_iff.mpr hnumeral.ne_nil
    have hall : unsigned.all Char.isDigit = true := List.all_eq_true.mpr hnumeral.isDigit
    rw [hempty, hall]
    exact if_pos hle

/-- **Reading a port** finds the port that a value spells. -/
theorem portOf?_eq_some_iff {v : Value} {n : Nat} : portOf? v = some n ↔ SpellsPort v n := by
  unfold portOf?
  rw [Option.filter_eq_some_iff]
  constructor
  · rintro ⟨hnumber, hne⟩
    have hpos : 0 < n := Nat.pos_of_ne_zero (of_decide_eq_true hne)
    cases v with
    | int m =>
      dsimp only at hnumber
      split at hnumber
      · next hbounds =>
        obtain rfl := Option.some.inj hnumber
        have hm : m = (m.toNat : Int) := (Int.toNat_of_nonneg hbounds.1).symm
        rw [hm]
        exact .number ⟨hpos, by omega⟩
      · cases hnumber
    | string s =>
      obtain ⟨digits, hnumeral, rfl, hle⟩ := smallNumber?_eq_some_iff.mp hnumber
      exact .text hnumeral ⟨hpos, hle⟩
    | _ => cases hnumber
  · intro h
    cases h with
    | number hport =>
      obtain ⟨hpos, hle⟩ := hport
      refine ⟨?_, decide_eq_true (Nat.ne_of_gt hpos)⟩
      dsimp only
      rw [if_pos ⟨Int.natCast_nonneg n, Int.ofNat_le.mpr hle⟩, Int.toNat_natCast]
    | text hnumeral hport =>
      exact ⟨smallNumber?_eq_some_iff.mpr ⟨_, hnumeral, rfl, hport.2⟩,
        decide_eq_true (Nat.ne_of_gt hport.1)⟩

end ArtifactPipeline.Emulation
