import ArtifactPipeline.Proofs.Text.Words
import ArtifactPipeline.Text.Reader

/-!
# What a reader leaves

A reader takes its value off the front of a text, so what it leaves is the end of that text
(`Reader.Takes`). Nothing in the type of readers says so. It is a class, with an instance for each way
of making a reader from others, so that it is found for a reader by its parts.
-/

namespace ArtifactPipeline.Text

namespace Reader

variable {α β : Type} {r s : Reader α} {separator : Reader Unit} {p : Char → Bool}

/-- **A reader takes its value off the front of a text.** -/
class Takes (r : Reader α) : Prop where
  suffix : ∀ {cs a rest}, r cs = some (a, rest) → rest <:+ cs

/-! ### Simple readers -/

instance Takes.pure (a : α) : Takes (pure a : Reader α) where
  suffix h := by
    obtain ⟨-, rfl⟩ := Prod.mk.inj (Option.some.inj h)
    exact List.suffix_rfl

instance Takes.refuse : Takes (refuse : Reader α) where
  suffix h := by cases h

instance Takes.require (test : Bool) : Takes (require test) := by
  cases test with
  | false => exact Takes.refuse
  | true => exact Takes.pure ()

instance Takes.ofOption (a : Option α) : Takes (ofOption a) := by
  cases a with
  | none => exact Takes.refuse
  | some a => exact Takes.pure a

instance Takes.satisfy : Takes (satisfy p) where
  suffix {cs a rest} h := by
    cases cs with
    | nil => cases h
    | cons c cs =>
      rw [Reader.satisfy] at h
      split at h
      · obtain ⟨-, rfl⟩ := Prod.mk.inj (Option.some.inj h)
        exact List.suffix_cons c cs
      · cases h

instance Takes.run : Takes (run p) where
  suffix h := by
    obtain ⟨-, rfl⟩ := Prod.mk.inj (Option.some.inj h)
    exact List.dropWhile_suffix p

instance Takes.peek : Takes peek where
  suffix h := by
    obtain ⟨-, rfl⟩ := Prod.mk.inj (Option.some.inj h)
    exact List.suffix_rfl

instance Takes.atEnd : Takes atEnd where
  suffix {cs a rest} h := by
    cases cs with
    | nil =>
      obtain ⟨-, rfl⟩ := Prod.mk.inj (Option.some.inj h)
      exact List.suffix_rfl
    | cons c cs => cases h

/-! ### Readers made of others -/

theorem bind_eq (r : Reader α) (f : α → Reader β) (cs : List Char) :
    (r >>= f) cs = match r cs with
      | none => none
      | some (a, rest) => f a rest := rfl

theorem bind_of_eq_some {f : α → Reader β} {cs rest : List Char} {a : α}
    (h : r cs = some (a, rest)) : (r >>= f) cs = f a rest := by
  rw [bind_eq, h]

theorem map_eq (f : α → β) (r : Reader α) (cs : List Char) :
    (f <$> r) cs = (r cs).map fun found => (f found.1, found.2) := by
  have hbind : (f <$> r) cs = (r >>= fun a => Pure.pure (f a)) cs := rfl
  rw [hbind, bind_eq]
  cases r cs <;> rfl

/-- What two readers read one after the other. -/
theorem bind_eq_some_iff {f : α → Reader β} {cs rest : List Char} {b : β} :
    (r >>= f) cs = some (b, rest) ↔
      ∃ a middle, r cs = some (a, middle) ∧ f a middle = some (b, rest) := by
  rw [bind_eq]
  cases r cs with
  | none => simp
  | some found =>
    obtain ⟨a, middle⟩ := found
    constructor
    · exact fun h => ⟨a, middle, rfl, h⟩
    · rintro ⟨a', middle', hfound, h⟩
      obtain ⟨rfl, rfl⟩ := Prod.mk.inj (Option.some.inj hfound)
      exact h

instance Takes.bind {f : α → Reader β} [hr : Takes r] [hf : ∀ a, Takes (f a)] :
    Takes (r >>= f) where
  suffix h := by
    obtain ⟨a, middle, hfirst, hsecond⟩ := bind_eq_some_iff.mp h
    exact ((hf a).suffix hsecond).trans (hr.suffix hfirst)

instance Takes.map {f : α → β} [Takes r] : Takes (f <$> r) :=
  inferInstanceAs (Takes (r >>= fun a => Pure.pure (f a)))

instance Takes.ite {test : Prop} [Decidable test] [hr : Takes r] [hs : Takes s] :
    Takes (if test then r else s) := by
  split
  · exact hr
  · exact hs

instance Takes.orElse [hr : Takes r] [hs : Takes s] : Takes (orElse r s) where
  suffix h := by
    rw [Reader.orElse] at h
    split at h
    · next found hfound =>
      obtain rfl := Option.some.inj h
      exact hr.suffix hfound
    · exact hs.suffix h

instance Takes.firstOf_nil : Takes (firstOf ([] : List (Reader α))) := Takes.refuse

instance Takes.firstOf_cons {readers : List (Reader α)} [Takes r] [Takes (firstOf readers)] :
    Takes (firstOf (r :: readers)) :=
  inferInstanceAs (Takes (Reader.orElse r (firstOf readers)))

instance Takes.optional [Takes r] : Takes (optional r) := by
  unfold Reader.optional
  infer_instance

instance Takes.char (c : Char) : Takes (char c) := by
  unfold Reader.char
  infer_instance

instance Takes.text (cs : List Char) : Takes (text cs) := by
  induction cs with
  | nil => exact Takes.pure ()
  | cons c cs ih =>
    unfold Reader.text
    infer_instance

instance Takes.run1 : Takes (run1 p) := by
  unfold Reader.run1
  infer_instance

instance Takes.manyWithin [hr : Takes r] (fuel : Nat) : Takes (manyWithin r fuel) := by
  induction fuel with
  | zero => exact Takes.pure []
  | succ fuel ih =>
    refine ⟨fun {cs as rest} h => ?_⟩
    unfold Reader.manyWithin at h
    split at h
    · obtain ⟨-, rfl⟩ := Prod.mk.inj (Option.some.inj h)
      exact List.suffix_rfl
    · next a middle hfirst =>
      split at h
      · cases h
      · next more rest' hmore =>
        obtain ⟨-, rfl⟩ := Prod.mk.inj (Option.some.inj h)
        exact (ih.suffix hmore).trans (hr.suffix hfirst)

instance Takes.many [Takes r] : Takes (many r) where
  suffix {cs _ _} h := (Takes.manyWithin cs.length).suffix h

instance Takes.separated [Takes r] [Takes separator] : Takes (separated r separator) := by
  unfold Reader.separated
  infer_instance

instance Takes.separated1 [Takes r] [Takes separator] : Takes (separated1 r separator) := by
  unfold Reader.separated1
  infer_instance

/-! ### What readers take -/

theorem char_eq_some_iff {c : Char} {cs rest : List Char} :
    char c cs = some ((), rest) ↔ cs = c :: rest := by
  cases cs with
  | nil => simp [char, bind_eq, satisfy]
  | cons d cs =>
    rw [char, bind_eq, satisfy]
    by_cases hd : d = c
    · subst hd
      rw [beq_self_eq_true, if_pos rfl]
      constructor
      · intro h
        obtain ⟨-, rfl⟩ := Prod.mk.inj (Option.some.inj h)
        rfl
      · intro h
        rw [(List.cons.inj h).2]
        rfl
    · rw [if_neg (by simpa using hd)]
      constructor
      · intro h
        cases h
      · intro h
        exact absurd (List.cons.inj h).1 hd

theorem text_eq_some_iff {first cs rest : List Char} :
    text first cs = some ((), rest) ↔ cs = first ++ rest := by
  induction first generalizing cs with
  | nil =>
    constructor
    · intro h
      obtain ⟨-, rfl⟩ := Prod.mk.inj (Option.some.inj h)
      rfl
    · rintro rfl
      rfl
  | cons c first ih =>
    rw [text, bind_eq_some_iff]
    constructor
    · rintro ⟨_, middle, hc, hfirst⟩
      rw [char_eq_some_iff.mp hc, ih.mp hfirst, List.cons_append]
    · rintro rfl
      exact ⟨(), first ++ rest, char_eq_some_iff.mpr rfl, ih.mpr rfl⟩

theorem atEnd_eq_some_iff {cs rest : List Char} :
    atEnd cs = some ((), rest) ↔ cs = [] ∧ rest = [] := by
  cases cs with
  | nil => simp [atEnd, eq_comm]
  | cons c cs => simp [atEnd]

theorem orElse_eq_some_iff {cs : List Char} {found : α × List Char} :
    orElse r s cs = some found ↔ r cs = some found ∨ r cs = none ∧ s cs = some found := by
  rw [orElse]
  cases r cs <;> simp

theorem optional_eq_some_iff {cs rest : List Char} {a : Option α} :
    optional r cs = some (a, rest) ↔
      (∃ a', a = some a' ∧ r cs = some (a', rest)) ∨ a = none ∧ r cs = none ∧ rest = cs := by
  rw [optional, orElse_eq_some_iff, map_eq]
  cases h : r cs with
  | none =>
    constructor
    · rintro (h | ⟨-, h⟩)
      · cases h
      · obtain ⟨rfl, rfl⟩ := Prod.mk.inj (Option.some.inj h)
        exact .inr ⟨rfl, rfl, rfl⟩
    · rintro (⟨a', -, h⟩ | ⟨rfl, -, rfl⟩)
      · cases h
      · exact .inr ⟨rfl, rfl⟩
  | some found =>
    obtain ⟨a', rest'⟩ := found
    constructor
    · rintro (h | ⟨h, -⟩)
      · obtain ⟨rfl, rfl⟩ := Prod.mk.inj (Option.some.inj h)
        exact .inl ⟨a', rfl, rfl⟩
      · cases h
    · rintro (⟨a', rfl, h⟩ | ⟨-, h, -⟩)
      · obtain ⟨rfl, rfl⟩ := Prod.mk.inj (Option.some.inj h)
        exact .inl rfl
      · cases h

/-- A run ends where the property does. -/
theorem run_eq_some_iff {cs as rest : List Char} :
    run p cs = some (as, rest) ↔
      cs = as ++ rest ∧ (∀ c ∈ as, p c = true) ∧ ∀ c ∈ rest.head?, p c = false := by
  constructor
  · intro h
    obtain ⟨rfl, rfl⟩ := Prod.mk.inj (Option.some.inj h)
    exact ⟨List.takeWhile_append_dropWhile.symm, fun c hc => List.mem_takeWhile_imp hc,
      fun c hc => head_dropWhile hc⟩
  · rintro ⟨rfl, hall, hrest⟩
    obtain ⟨htake, hdrop⟩ := span_append_of_head hall hrest
    rw [run, htake, hdrop]

end Reader

end ArtifactPipeline.Text
