import ArtifactPipeline.Text.Utf8
import Mathlib.Tactic.SplitIfs

/-!
# Reading and writing UTF-8

Octets are accepted as a text exactly when they are the octets of that text: `decode?_eq_ok_iff`.

* From the octets to the text: a form of two, three or four octets spells a character, and writing
  the character spells the same form, since the bounds on the second octet leave no other
  (`encodeChar_two`, `encodeChar_three`, `encodeChar_four`). The pieces of the octets are then
  written one after another (`encodeChars_of_scan`).
* From the text to the octets: what is written of a character is a form that the scan takes for one
  piece, the character (`scan_encodeChar`).
-/

namespace ArtifactPipeline.Text.Utf8

/-- The number of a character that was made from a number. -/
theorem toNat_ofNat {n : Nat} (h : n < 0xD800 ∨ 0xE000 ≤ n ∧ n < 0x110000) :
    (Char.ofNat n).toNat = n := by
  have valid : n.isValidChar := by
    rw [Nat.isValidChar]
    omega
  rw [Char.ofNat, dif_pos valid]
  rfl

/-- The number of a character is that of no surrogate. -/
theorem toNat_lt (c : Char) : c.toNat < 0xD800 ∨ 0xE000 ≤ c.toNat ∧ c.toNat < 0x110000 := by
  rcases c.valid with h | ⟨h, h'⟩
  · exact .inl h
  · exact .inr ⟨h, h'⟩

/-- The number of an octet that was made from a number. -/
theorem toNat_octet {n : Nat} (h : n < 0x100) : (UInt8.ofNat n).toNat = n := by
  rw [UInt8.toNat_ofNat', Nat.mod_eq_of_lt h]

/-- An octet is known by its number. -/
theorem ofNat_eq {a : UInt8} {n : Nat} (h : n = a.toNat) : UInt8.ofNat n = a := by
  rw [h, UInt8.ofNat_toNat]

/-! ### Forms -/

variable {a : Nat} {lead : Lead}

/-- The first octet of a form of two octets, and the bounds on the second. -/
theorem lead?_two (h : lead? a = some lead) (hmore : lead.more = 1) :
    0xC2 ≤ a ∧ a ≤ 0xDF ∧ lead.high = (a - 0xC0) * 0x40 ∧
      0x80 ≤ lead.least ∧ lead.greatest ≤ 0xBF := by
  unfold lead? at h
  split_ifs at h with h₁
  all_goals obtain rfl := Option.some.inj h
  · exact ⟨h₁.1, h₁.2, rfl, Nat.le_refl _, Nat.le_refl _⟩
  all_goals simp at hmore

/-- The first octet of a form of three octets, and the bounds on the second. -/
theorem lead?_three (h : lead? a = some lead) (hmore : lead.more = 2) :
    0xE0 ≤ a ∧ a ≤ 0xEF ∧ lead.high = (a - 0xE0) * 0x1000 ∧
      0x80 ≤ lead.least ∧ lead.greatest ≤ 0xBF ∧
      (a = 0xE0 → 0xA0 ≤ lead.least) ∧ (a = 0xED → lead.greatest ≤ 0x9F) := by
  unfold lead? at h
  split_ifs at h
  all_goals obtain rfl := Option.some.inj h
  all_goals simp at hmore ⊢
  all_goals omega

/-- The first octet of a form of four octets, and the bounds on the second. -/
theorem lead?_four (h : lead? a = some lead) (hmore : lead.more ≠ 1) (hmore' : lead.more ≠ 2) :
    0xF0 ≤ a ∧ a ≤ 0xF4 ∧ lead.high = (a - 0xF0) * 0x40000 ∧
      0x80 ≤ lead.least ∧ lead.greatest ≤ 0xBF ∧
      (a = 0xF0 → 0x90 ≤ lead.least) ∧ (a = 0xF4 → lead.greatest ≤ 0x8F) := by
  unfold lead? at h
  split_ifs at h
  all_goals obtain rfl := Option.some.inj h
  all_goals simp at hmore hmore' ⊢
  all_goals omega

/-- The form of two octets that a first octet begins. -/
theorem lead?_of_two (h : 0xC2 ≤ a ∧ a ≤ 0xDF) :
    lead? a = some ⟨(a - 0xC0) * 0x40, 0x80, 0xBF, 1⟩ := by
  rw [lead?, if_pos h]

/-- The form of three octets that a first octet begins. -/
theorem lead?_of_three (h : 0xE0 ≤ a ∧ a ≤ 0xEF) :
    lead? a = some ⟨(a - 0xE0) * 0x1000, if a = 0xE0 then 0xA0 else 0x80,
      if a = 0xED then 0x9F else 0xBF, 2⟩ := by
  unfold lead?
  grind

/-- The form of four octets that a first octet begins. -/
theorem lead?_of_four (h : 0xF0 ≤ a ∧ a ≤ 0xF4) :
    lead? a = some ⟨(a - 0xF0) * 0x40000, if a = 0xF0 then 0x90 else 0x80,
      if a = 0xF4 then 0x8F else 0xBF, 3⟩ := by
  unfold lead?
  grind

/-! ### Characters -/

section Character

variable {a b c d : UInt8}

/-- A form of one octet is the form of its character. -/
theorem encodeChar_one (h : a.toNat < 0x80) : encodeChar (Char.ofNat a.toNat) = [a] := by
  have hn : (Char.ofNat a.toNat).toNat = a.toNat := toNat_ofNat (by omega)
  simp [encodeChar, hn, h]

/-- A form of two octets is the form of its character. -/
theorem encodeChar_two (h : lead? a.toNat = some lead) (hmore : lead.more = 1)
    (hb : lead.least ≤ b.toNat ∧ b.toNat ≤ lead.greatest) :
    encodeChar (Char.ofNat (lead.high + (b.toNat - 0x80))) = [a, b] := by
  obtain ⟨hleast, hgreatest, hhigh, _, _⟩ := lead?_two h hmore
  generalize hn : lead.high + (b.toNat - 0x80) = n
  have ha : UInt8.ofNat (0xC0 + n / 0x40) = a := ofNat_eq (by omega)
  have hb : UInt8.ofNat (0x80 + n % 0x40) = b := ofNat_eq (by omega)
  simp only [encodeChar, toNat_ofNat (n := n) (by omega)]
  -- the character is too great for one octet
  rw [if_neg (by omega), if_pos (by omega), ha, hb]

/-- A form of three octets is the form of its character. -/
theorem encodeChar_three (h : lead? a.toNat = some lead) (hmore : lead.more = 2)
    (hb : lead.least ≤ b.toNat ∧ b.toNat ≤ lead.greatest) (hc : isTail c.toNat = true) :
    encodeChar (Char.ofNat (lead.high + (b.toNat - 0x80) * 0x40 + (c.toNat - 0x80))) =
      [a, b, c] := by
  -- the second octet after `0xE0` keeps the form from being too long, the one after `0xED` from
  -- spelling a surrogate
  obtain ⟨hleast, hgreatest, hhigh, _, _, hlong, hsurrogate⟩ := lead?_three h hmore
  obtain ⟨hc₁, hc₂⟩ : 0x80 ≤ c.toNat ∧ c.toNat ≤ 0xBF := by simpa [isTail] using hc
  generalize hn : lead.high + (b.toNat - 0x80) * 0x40 + (c.toNat - 0x80) = n
  have ha : UInt8.ofNat (0xE0 + n / 0x1000) = a := ofNat_eq (by omega)
  have hb : UInt8.ofNat (0x80 + n / 0x40 % 0x40) = b := ofNat_eq (by omega)
  have hc : UInt8.ofNat (0x80 + n % 0x40) = c := ofNat_eq (by omega)
  simp only [encodeChar, toNat_ofNat (n := n) (by omega)]
  rw [if_neg (by omega), if_neg (by omega), if_pos (by omega), ha, hb, hc]

/-- A form of four octets is the form of its character. -/
theorem encodeChar_four (h : lead? a.toNat = some lead) (hmore : lead.more ≠ 1)
    (hmore' : lead.more ≠ 2) (hb : lead.least ≤ b.toNat ∧ b.toNat ≤ lead.greatest)
    (hc : isTail c.toNat = true) (hd : isTail d.toNat = true) :
    encodeChar (Char.ofNat (lead.high + (b.toNat - 0x80) * 0x1000 + (c.toNat - 0x80) * 0x40 +
      (d.toNat - 0x80))) = [a, b, c, d] := by
  -- the second octet after `0xF0` keeps the form from being too long, the one after `0xF4` from
  -- going beyond the last character
  obtain ⟨hleast, hgreatest, hhigh, _, _, hlong, hlast⟩ := lead?_four h hmore hmore'
  obtain ⟨hc₁, hc₂⟩ : 0x80 ≤ c.toNat ∧ c.toNat ≤ 0xBF := by simpa [isTail] using hc
  obtain ⟨hd₁, hd₂⟩ : 0x80 ≤ d.toNat ∧ d.toNat ≤ 0xBF := by simpa [isTail] using hd
  generalize hn : lead.high + (b.toNat - 0x80) * 0x1000 + (c.toNat - 0x80) * 0x40 +
    (d.toNat - 0x80) = n
  have ha : UInt8.ofNat (0xF0 + n / 0x40000) = a := ofNat_eq (by omega)
  have hb : UInt8.ofNat (0x80 + n / 0x1000 % 0x40) = b := ofNat_eq (by omega)
  have hc : UInt8.ofNat (0x80 + n / 0x40 % 0x40) = c := ofNat_eq (by omega)
  have hd : UInt8.ofNat (0x80 + n % 0x40) = d := ofNat_eq (by omega)
  simp only [encodeChar, toNat_ofNat (n := n) (by omega)]
  rw [if_neg (by omega), if_neg (by omega), if_neg (by omega), ha, hb, hc, hd]

/-- The first octet of a longer form is no form of one octet. -/
theorem not_lt_of_lead? (h : lead? a.toNat = some lead) : ¬a.toNat < 0x80 := by
  intro hlt
  rw [lead?] at h
  split_ifs at h <;> omega

variable {n : Nat}

theorem scan_two (h : lead? a.toNat = some lead) (hmore : lead.more = 1)
    (hb : lead.least ≤ b.toNat ∧ b.toNat ≤ lead.greatest)
    (hn : lead.high + (b.toNat - 0x80) = n) (rest : Bytes) :
    scan (a :: b :: rest) = .char (Char.ofNat n) :: scan rest := by
  simp [scan, not_lt_of_lead? h, h, hmore, hb, ← hn]

theorem scan_three (h : lead? a.toNat = some lead) (hmore : lead.more = 2)
    (hb : lead.least ≤ b.toNat ∧ b.toNat ≤ lead.greatest) (hc : isTail c.toNat = true)
    (hn : lead.high + (b.toNat - 0x80) * 0x40 + (c.toNat - 0x80) = n) (rest : Bytes) :
    scan (a :: b :: c :: rest) = .char (Char.ofNat n) :: scan rest := by
  simp [scan, not_lt_of_lead? h, h, hmore, hb, hc, ← hn]

theorem scan_four (h : lead? a.toNat = some lead) (hmore : lead.more = 3)
    (hb : lead.least ≤ b.toNat ∧ b.toNat ≤ lead.greatest) (hc : isTail c.toNat = true)
    (hd : isTail d.toNat = true)
    (hn : lead.high + (b.toNat - 0x80) * 0x1000 + (c.toNat - 0x80) * 0x40 + (d.toNat - 0x80) = n)
    (rest : Bytes) :
    scan (a :: b :: c :: d :: rest) = .char (Char.ofNat n) :: scan rest := by
  simp [scan, not_lt_of_lead? h, h, hmore, hb, hc, hd, ← hn]

end Character

/-- An octet that holds six bits of a character stands after the second one. -/
theorem isTail_octet {n : Nat} : isTail (UInt8.ofNat (0x80 + n % 0x40)).toNat = true := by
  rw [toNat_octet (by omega), isTail, Bool.and_eq_true, decide_eq_true_eq, decide_eq_true_eq]
  omega

/-- **What is written of a character is read as the character**, whatever comes after it. -/
theorem scan_encodeChar (c : Char) (rest : Bytes) :
    scan (encodeChar c ++ rest) = .char c :: scan rest := by
  obtain ⟨n, hn⟩ : ∃ n, n = c.toNat := ⟨_, rfl⟩
  have hvalid := toNat_lt c
  have hc : c = Char.ofNat n := by rw [hn, Char.ofNat_toNat]
  simp only [encodeChar, ← hn] at hvalid ⊢
  rw [hc]
  split_ifs with h₁ h₂ h₃
  · have ha := toNat_octet (n := n) (by omega)
    rw [List.singleton_append, scan, if_pos (by omega), ha]
  · have ha := toNat_octet (n := 0xC0 + n / 0x40) (by omega)
    have hb := toNat_octet (n := 0x80 + n % 0x40) (by omega)
    have hlead := lead?_of_two (a := 0xC0 + n / 0x40) (by omega)
    rw [← ha] at hlead
    exact scan_two hlead rfl (by simp only; omega) (by simp only; omega) rest
  · have ha := toNat_octet (n := 0xE0 + n / 0x1000) (by omega)
    have hb := toNat_octet (n := 0x80 + n / 0x40 % 0x40) (by omega)
    have hc := toNat_octet (n := 0x80 + n % 0x40) (by omega)
    have hlead := lead?_of_three (a := 0xE0 + n / 0x1000) (by omega)
    rw [← ha] at hlead
    exact scan_three hlead rfl (by simp only; split_ifs <;> omega) isTail_octet
      (by simp only; omega) rest
  · have ha := toNat_octet (n := 0xF0 + n / 0x40000) (by omega)
    have hb := toNat_octet (n := 0x80 + n / 0x1000 % 0x40) (by omega)
    have hc := toNat_octet (n := 0x80 + n / 0x40 % 0x40) (by omega)
    have hd := toNat_octet (n := 0x80 + n % 0x40) (by omega)
    have hlead := lead?_of_four (a := 0xF0 + n / 0x40000) (by omega)
    rw [← ha] at hlead
    exact scan_four hlead rfl (by simp only; split_ifs <;> omega) isTail_octet isTail_octet
      (by simp only; omega) rest

/-! ### Texts -/

/-- The octets of a character and of the characters after it. -/
theorem encodeChars_of_char {c : Char} {pieces : List Piece} {cs : List Char} {rest : Bytes}
    (h : .char c :: pieces = cs.map .char)
    (ih : ∀ {cs : List Char}, pieces = cs.map .char → encodeChars cs = rest) :
    encodeChars cs = encodeChar c ++ rest := by
  obtain ⟨first, others, rfl, hfirst, hothers⟩ := List.map_eq_cons_iff.1 h.symm
  obtain rfl := Piece.char.inj hfirst
  rw [encodeChars, List.flatMap_cons, ← ih hothers.symm, encodeChars]

/-- Octets all of whose pieces are characters are the octets of these characters. -/
theorem encodeChars_of_scan {bytes : Bytes} {cs : List Char} (h : scan bytes = cs.map .char) :
    encodeChars cs = bytes := by
  fun_induction scan bytes generalizing cs with
  | case1 =>
    obtain rfl := List.map_eq_nil_iff.1 h.symm
    rfl
  | case2 a rest one ih =>
    rw [encodeChars_of_char h ih, encodeChar_one one]
    rfl
  | case5 a _ lead hlead b rest hb hmore ih =>
    rw [encodeChars_of_char h ih, encodeChar_two hlead hmore hb]
    rfl
  | case7 a _ lead hlead b hb _ c rest hc hmore ih =>
    rw [encodeChars_of_char h ih, encodeChar_three hlead hmore hb hc]
    rfl
  | case9 a _ lead hlead b hb hmore c hc hmore' d rest hd ih =>
    rw [encodeChars_of_char h ih, encodeChar_four hlead hmore hmore' hb hc hd]
    rfl
  -- all other pieces hold octets that no text can contain
  | _ => cases cs <;> simp at h

/-- The pieces of the octets of characters are the characters. -/
theorem scan_encodeChars (cs : List Char) : scan (encodeChars cs) = cs.map .char := by
  induction cs with
  | nil => rfl
  | cons c cs ih =>
    rw [encodeChars, List.flatMap_cons, scan_encodeChar, ← encodeChars, ih, List.map_cons]

/-- Pieces are accepted exactly when all are characters. -/
theorem chars?_eq_ok_iff {upTo : Nat} {pieces : List Piece} {cs : List Char} :
    chars? upTo pieces = .ok cs ↔ pieces = cs.map .char := by
  constructor
  · intro h
    induction pieces generalizing upTo cs with
    | nil =>
      obtain rfl := Except.ok.inj h
      rfl
    | cons piece pieces ih =>
      cases piece with
      | char c =>
        rw [chars?] at h
        cases hrest : chars? (upTo + (encodeChar c).length) pieces with
        | error fault => simp [hrest, Except.map] at h
        | ok rest =>
          rw [hrest] at h
          obtain rfl := Except.ok.inj h
          rw [List.map_cons, ih hrest]
      | malformed length => cases h
      | truncated length => cases h
  · rintro rfl
    induction cs generalizing upTo with
    | nil => rfl
    | cons c cs ih =>
      rw [List.map_cons, chars?, ih]
      rfl

/-- **Octets are accepted exactly when they are those of the text.** -/
theorem decode?_eq_ok_iff {bytes : Bytes} {text : String} :
    decode? bytes = .ok text ↔ encode text = bytes := by
  constructor
  · intro h
    cases hchars : chars? 0 (scan bytes) with
    | error fault => simp [decode?, hchars, Except.map] at h
    | ok cs =>
      obtain rfl : String.ofList cs = text := by
        rw [decode?, hchars] at h
        exact Except.ok.inj h
      rw [encode, String.toList_ofList]
      exact encodeChars_of_scan (chars?_eq_ok_iff.1 hchars)
  · rintro rfl
    rw [decode?, encode, chars?_eq_ok_iff.2 (scan_encodeChars text.toList)]
    exact congrArg Except.ok String.ofList_toList

end ArtifactPipeline.Text.Utf8
