import ArtifactPipeline.Config.Context
import Mathlib.Logic.Basic

/-!
# What a shown configuration depends on

Two configurations are *alike up to secrets* when they have the same shape and differ only below
keys that name a secret. How far they may differ there is a parameter (`AlikeUpTo`). The redaction
of a configuration forgets the scalars under such keys, and it keeps everything else: tables and
lists under a secret key are walked through, and what is in them is shown unless it has a secret
key of its own.

* `redact_eq_iff` says exactly when two configurations become the same under redaction;
* `redacted_eq_of_alike` takes this to the texts that are shown, and `redacted_ne_of_list` has two
  texts that a list under a secret key tells apart.
-/

namespace ArtifactPipeline.Config

open Value

mutual

/-- **Two values are alike up to secrets** that stand in a relation: they have the same shape and
the same scalars, except that the values under a key that names a secret are only related. -/
inductive AlikeUpTo (R : Value → Value → Prop) : Value → Value → Prop where
  | same (v : Value) : AlikeUpTo R v v
  | array {vs ws : List Value} (items : AlikeItems R vs ws) : AlikeUpTo R (.array vs) (.array ws)
  | object {es fs : List (String × Value)} (entries : AlikeEntries R es fs) :
    AlikeUpTo R (.object es) (.object fs)

/-- Two lists are alike up to secrets, item by item. -/
inductive AlikeItems (R : Value → Value → Prop) : List Value → List Value → Prop where
  | nil : AlikeItems R [] []
  | cons {v w : Value} {vs ws : List Value} (first : AlikeUpTo R v w) (rest : AlikeItems R vs ws) :
    AlikeItems R (v :: vs) (w :: ws)

/-- Two tables are alike up to secrets: they have the same keys. -/
inductive AlikeEntries (R : Value → Value → Prop) :
    List (String × Value) → List (String × Value) → Prop where
  | nil : AlikeEntries R [] []
  | alike {key : String} {v w : Value} {es fs : List (String × Value)} (first : AlikeUpTo R v w)
    (rest : AlikeEntries R es fs) : AlikeEntries R ((key, v) :: es) ((key, w) :: fs)
  | secret {key : String} {v w : Value} {es fs : List (String × Value)}
    (named : isSecretKey key = true) (related : R v w) (rest : AlikeEntries R es fs) :
    AlikeEntries R ((key, v) :: es) ((key, w) :: fs)

end

/-- A value that holds no others. -/
structure IsScalar (v : Value) : Prop where
  not_object : v.isObject = false
  not_array : v.isArray = false

/-- Two values of which the redaction shows neither under a secret key. -/
structure Concealed (v w : Value) : Prop where
  left : IsScalar v
  right : IsScalar w

/-- What the redaction shows under a key. -/
def shown (key : String) (v : Value) : Value :=
  if isSecretKey key && !v.isObject && !v.isArray then redactionMark else v.redact

section Shown

variable {key : String} {v w : Value}

theorem redactEntries_cons (key : String) (v : Value) (rest : List (String × Value)) :
    redactEntries ((key, v) :: rest) = (key, shown key v) :: redactEntries rest := rfl

theorem shown_of_concealed (hkey : isSecretKey key = true) (hv : IsScalar v) :
    shown key v = redactionMark := by
  rw [shown, hkey, hv.not_object, hv.not_array]
  rfl

theorem shown_of_kept (h : ¬(isSecretKey key = true ∧ IsScalar v)) :
    shown key v = v.redact := by
  rw [shown, if_neg]
  intro hconcealed
  simp only [Bool.and_eq_true, Bool.not_eq_true'] at hconcealed
  exact h ⟨hconcealed.1.1, hconcealed.1.2, hconcealed.2⟩

/-- Redaction does not turn tables and lists into scalars, nor the other way round. -/
theorem isScalar_redact : IsScalar v.redact ↔ IsScalar v := by
  cases v <;> exact ⟨fun h => ⟨h.1, h.2⟩, fun h => ⟨h.1, h.2⟩⟩

theorem redact_of_isScalar (h : IsScalar v) : v.redact = v := by
  cases v with
  | array => exact nomatch h.not_array
  | object => exact nomatch h.not_object
  | _ => rfl

/-- A scalar becomes the same only as the same scalar. -/
theorem alike_of_isScalar {R : Value → Value → Prop} (hv : IsScalar v)
    (h : v.redact = w.redact) : AlikeUpTo R v w := by
  have hw : IsScalar w := isScalar_redact.mp (h ▸ isScalar_redact.mpr hv)
  rw [redact_of_isScalar hv, redact_of_isScalar hw] at h
  exact h ▸ .same v

theorem isScalar_redactionMark : IsScalar redactionMark := ⟨rfl, rfl⟩

/-- Under the same key, values are shown alike when they are redacted alike or concealed both. -/
theorem shown_eq_iff :
    shown key v = shown key w ↔ v.redact = w.redact ∨ isSecretKey key = true ∧ Concealed v w := by
  have hsame : v.redact = w.redact → (IsScalar v ↔ IsScalar w) := fun heq => by
    rw [← isScalar_redact, heq, isScalar_redact]
  by_cases hv : isSecretKey key = true ∧ IsScalar v
  · by_cases hw : IsScalar w
    · exact iff_of_true (by rw [shown_of_concealed hv.1 hv.2, shown_of_concealed hv.1 hw])
        (.inr ⟨hv.1, hv.2, hw⟩)
    · -- the mark is a scalar, and what is shown of the other value is not
      rw [shown_of_concealed hv.1 hv.2, shown_of_kept (fun h => hw h.2)]
      refine iff_of_false (fun heq => hw ?_) ?_
      · exact isScalar_redact.mp (heq ▸ isScalar_redactionMark)
      · rintro (heq | ⟨-, hconcealed⟩)
        · exact hw ((hsame heq).mp hv.2)
        · exact hw hconcealed.right
  · rw [shown_of_kept hv]
    have hright : ¬(isSecretKey key = true ∧ Concealed v w) := fun h => hv ⟨h.1, h.2.left⟩
    rw [or_iff_left hright]
    by_cases hw : isSecretKey key = true ∧ IsScalar w
    · rw [shown_of_concealed hw.1 hw.2]
      refine iff_of_false (fun heq => hv ⟨hw.1, ?_⟩) (fun heq => hv ⟨hw.1, (hsame heq).mpr hw.2⟩)
      exact isScalar_redact.mp (heq.symm ▸ isScalar_redactionMark)
    · rw [shown_of_kept hw]

end Shown

/-! ### Redaction forgets what is concealed -/

mutual

theorem redact_eq_of_alike {v w : Value} : AlikeUpTo Concealed v w → v.redact = w.redact
  | .same _ => rfl
  | .array items => congrArg Value.array (redactItems_eq_of_alike items)
  | .object entries => congrArg Value.object (redactEntries_eq_of_alike entries)

theorem redactItems_eq_of_alike {vs ws : List Value} :
    AlikeItems Concealed vs ws → redactItems vs = redactItems ws
  | .nil => rfl
  | .cons first rest =>
    congrArg₂ List.cons (redact_eq_of_alike first) (redactItems_eq_of_alike rest)

theorem redactEntries_eq_of_alike {es fs : List (String × Value)} :
    AlikeEntries Concealed es fs → redactEntries es = redactEntries fs
  | .nil => rfl
  | .alike first rest => by
    rw [redactEntries_cons, redactEntries_cons, redactEntries_eq_of_alike rest,
      shown_eq_iff.mpr (.inl (redact_eq_of_alike first))]
  | .secret named concealed rest => by
    rw [redactEntries_cons, redactEntries_cons, redactEntries_eq_of_alike rest,
      shown_eq_iff.mpr (.inr ⟨named, concealed⟩)]

end

/-! ### Redaction keeps everything else -/

mutual

theorem alike_of_redact_eq : (v w : Value) → v.redact = w.redact → AlikeUpTo Concealed v w
  | .object es, w, h => by
    cases w with
    | object fs => exact .object (alikeEntries_of_redact_eq es fs (Value.object.inj h))
    | _ => exact nomatch h
  | .array vs, w, h => by
    cases w with
    | array ws => exact .array (alikeItems_of_redact_eq vs ws (Value.array.inj h))
    | _ => exact nomatch h
  | .null, w, h => alike_of_isScalar ⟨rfl, rfl⟩ h
  | .bool _, w, h => alike_of_isScalar ⟨rfl, rfl⟩ h
  | .int _, w, h => alike_of_isScalar ⟨rfl, rfl⟩ h
  | .float _, w, h => alike_of_isScalar ⟨rfl, rfl⟩ h
  | .string _, w, h => alike_of_isScalar ⟨rfl, rfl⟩ h

theorem alikeItems_of_redact_eq : (vs ws : List Value) → redactItems vs = redactItems ws →
    AlikeItems Concealed vs ws
  | [], [], _ => .nil
  | v :: vs, w :: ws, h =>
    .cons (alike_of_redact_eq v w (List.cons.inj h).1)
      (alikeItems_of_redact_eq vs ws (List.cons.inj h).2)

theorem alikeEntries_of_redact_eq : (es fs : List (String × Value)) →
    redactEntries es = redactEntries fs → AlikeEntries Concealed es fs
  | [], [], _ => .nil
  | (key, v) :: es, (other, w) :: fs, h => by
    obtain ⟨hentry, hrest⟩ := List.cons.inj h
    obtain ⟨rfl, hshown⟩ := Prod.mk.inj hentry
    have hrest := alikeEntries_of_redact_eq es fs hrest
    rcases shown_eq_iff.mp hshown with hsame | ⟨hkey, hconcealed⟩
    · exact .alike (alike_of_redact_eq v w hsame) hrest
    · exact .secret hkey hconcealed hrest

end

/-- **What redaction forgets, exactly**: the scalars under keys that name a secret. -/
theorem redact_eq_iff {v w : Value} : v.redact = w.redact ↔ AlikeUpTo Concealed v w :=
  ⟨alike_of_redact_eq v w, redact_eq_of_alike⟩

/-! ### Shown configurations -/

/-- **Scalars under secret keys are not shown.** Of two configurations with the same provenance, the
redacted values are the same exactly when they are alike up to such scalars, and then so are the
texts that are shown. -/
theorem redacted_eq_of_alike {c d : Context} (hlayers : c.layers = d.layers) :
    (c.config.redact = d.config.redact ↔ AlikeUpTo Concealed c.config d.config) ∧
      (AlikeUpTo Concealed c.config d.config → c.redacted = d.redacted) := by
  refine ⟨redact_eq_iff, fun halike => ?_⟩
  rw [Context.redacted, Context.redacted, redact_eq_of_alike halike, hlayers]

/-- The built-in settings together with tokens for the emulation stage. -/
def withTokens (tokens : Value) : Context :=
  .ofValue (.table [("stages", .table [("wdb", .table [("tokens", tokens)])])])

theorem alike_withTokens {R : Value → Value → Prop} {v w : Value} (h : R v w) :
    AlikeUpTo R (withTokens v).config (withTokens w).config := by
  refine .object (.alike (.same _) (.alike (.object (.alike (.object ?_) .nil)) .nil))
  -- the keys of the stage are in ascending order, and five of them come before the tokens
  iterate 5 refine .alike (.same _) ?_
  exact .secret rfl h (.alike (.same _) .nil)

/-- A token that is a text is not shown. -/
theorem redacted_eq_of_alike_tokens :
    (withTokens (.string "hunter2")).redacted = (withTokens (.string "swordfish")).redacted :=
  (redacted_eq_of_alike rfl).2 (alike_withTokens ⟨⟨rfl, rfl⟩, rfl, rfl⟩)

/-- **Tokens in a list are shown**, although the key of the list names a secret. -/
theorem redacted_ne_of_list :
    ¬∀ c d : Context, c.layers = d.layers → AlikeUpTo (fun _ _ => True) c.config d.config →
      c.redacted = d.redacted := by
  intro hall
  have hlists : (withTokens (.array [.string "hunter2"])).redacted
      = (withTokens (.array [.string "swordfish"])).redacted :=
    hall _ _ rfl (alike_withTokens trivial)
  exact absurd hlists (by decide +kernel)

end ArtifactPipeline.Config
