import ArtifactPipeline.Proofs.Step.Call
import ArtifactPipeline.Script

/-!
# Applying a step in a script

A step is applied to references into the table, and its body runs only when the values can be lent
and fit what the step declares. `BodyRuns` is that event as it shows from outside: were the body to
crash, so would the application. `bodyRuns_iff` says when it happens, in terms of the table alone
(`Fits`).

The rest is what every application leaves as it is: the name of the stage and the registered
releases. A step whose body does not crash does not crash when it is applied (`Step.Safe`).
-/

namespace ArtifactPipeline

variable {ε : Type}

/-- A step whose body never crashes. -/
def Step.Safe (step : Step ε) : Prop := ∀ frame, (step.body.run frame).1 ≠ .crashed

namespace Script

/-- The value that a slot holds, unless it has been used up. -/
def valueAt (slots : List Slot) (r : Ref) : Option Source := slots[r]?.bind Slot.value

theorem valueAt_eq_some_iff {slots : List Slot} {r : Ref} {source : Source} :
    valueAt slots r = some source ↔ ∃ name, slots[r]? = some ⟨name, some source⟩ := by
  rw [valueAt, Option.bind_eq_some_iff]
  constructor
  · rintro ⟨⟨name, value⟩, hslot, rfl⟩
    exact ⟨name, hslot⟩
  · rintro ⟨name, hslot⟩
    exact ⟨_, hslot, rfl⟩

theorem valueAt_assign_of_ne {r i : Ref} (hne : r ≠ i) (slots : List Slot)
    (value : Option Source) : valueAt (assign slots r value) i = valueAt slots i := by
  rw [valueAt, getElem?_assign, if_neg hne, valueAt]

/-- Taking one value away does not show at references that differ from it. -/
theorem map_valueAt_assign {slots : List Slot} {r : Ref} {refs : List Ref} (hfresh : r ∉ refs) :
    refs.map (valueAt (assign slots r none)) = refs.map (valueAt slots) := by
  refine List.map_congr_left fun i hi => valueAt_assign_of_ne ?_ slots none
  rintro rfl
  exact hfresh hi

/-- Taking the value of a slot and then those of others. -/
theorem lend_cons_eq_ok_iff {step : String} {slots rest : List Slot} {r : Ref} {refs : List Ref}
    {sources : List Source} :
    lend step slots (r :: refs) = .ok (sources, rest) ↔
      ∃ source others, sources = source :: others ∧ valueAt slots r = some source ∧
        lend step (assign slots r none) refs = .ok (others, rest) := by
  rw [lend]
  constructor
  · intro h
    split at h
    · cases h
    · next source slots' htaken =>
      split at h
      · cases h
      · next others rest' hlent =>
        obtain ⟨hname, rfl⟩ := takeSlot_eq_ok_iff.mp htaken
        rw [Except.ok.injEq, Prod.mk.injEq] at h
        obtain ⟨rfl, rfl⟩ := h
        exact ⟨source, others, rfl, valueAt_eq_some_iff.mpr hname, hlent⟩
  · rintro ⟨source, others, rfl, hvalue, hlent⟩
    have htaken : takeSlot step slots r = .ok (source, assign slots r none) :=
      takeSlot_eq_ok_iff.mpr ⟨valueAt_eq_some_iff.mp hvalue, rfl⟩
    rw [htaken]
    simp only [hlent]

/-- **Values can be lent together** exactly when the references differ and the values are there. -/
theorem lend_eq_ok_iff {step : String} {slots : List Slot} {refs : List Ref}
    {sources : List Source} :
    (∃ rest, lend step slots refs = .ok (sources, rest)) ↔
      refs.Nodup ∧ refs.map (valueAt slots) = sources.map some := by
  induction refs generalizing slots sources with
  | nil =>
    constructor
    · rintro ⟨rest, h⟩
      rw [lend, Except.ok.injEq, Prod.mk.injEq] at h
      rw [← h.1]
      exact ⟨List.nodup_nil, rfl⟩
    · rintro ⟨-, h⟩
      obtain rfl := List.map_eq_nil_iff.mp h.symm
      exact ⟨slots, rfl⟩
  | cons r rs ih =>
    constructor
    · rintro ⟨rest, h⟩
      obtain ⟨source, others, rfl, hvalue, hlent⟩ := lend_cons_eq_ok_iff.mp h
      -- the first value is gone when the others are lent, so `r` is not among them
      have hfresh : r ∉ rs := not_mem_of_lend hlent
      obtain ⟨hnodup, hvalues⟩ := ih.mp ⟨rest, hlent⟩
      rw [map_valueAt_assign hfresh] at hvalues
      exact ⟨List.nodup_cons.mpr ⟨hfresh, hnodup⟩, by rw [List.map_cons, hvalue, hvalues]; rfl⟩
    · rintro ⟨hnodup, hvalues⟩
      obtain ⟨hfresh, hnodup⟩ := List.nodup_cons.mp hnodup
      cases sources with
      | nil => cases hvalues
      | cons source others =>
        obtain ⟨hvalue, hothers⟩ := List.cons.inj hvalues
        -- taking the first value leaves the others where they are
        rw [← map_valueAt_assign hfresh] at hothers
        obtain ⟨rest, hlent⟩ := ih.mpr ⟨hnodup, hothers⟩
        exact ⟨rest, lend_cons_eq_ok_iff.mpr ⟨source, others, rfl, hvalue, hlent⟩⟩

/-- **A step whose values cannot all be lent is not applied.** What was taken from the table is back
in it. -/
theorem run_apply_of_shortfall {step : Step ε} {refs : List Ref} {script : Script ε}
    {short : Shortfall} (hshort : lend step.name script.slots refs = .error short)
    (host : Host ε) : (apply step refs).run (script, host) =
      (.failed short.failure, (script, host)) := by
  rw [Action.run, apply, hshort]
  simp only [restore_shortfall hshort]

/-- **A step that refuses its arguments is not applied.** What was lent to it comes back whole. -/
theorem run_apply_of_refused {step : Step ε} {refs : List Ref} {script : Script ε} {host : Host ε}
    {sources : List Source} {rest : List Slot} {f : Failure}
    (hlent : lend step.name script.slots refs = .ok (sources, rest))
    (hcall : step.call.run (sources.map some, host) = (.failed f, (sources.map some, host))) :
    (apply step refs).run (script, host) = (.failed f, (script, host)) := by
  rw [Action.run, apply, hlent]
  simp only [hcall, restore_lend hlent]

/-! ### When the body runs -/

/-- **The body of a step runs** when it is applied to some references: were it to crash, the
application would. -/
def BodyRuns (step : Step ε) (refs : List Ref) (state : Script ε × Host ε) : Prop :=
  ((apply { step with body := Action.crash } refs).run state).1 = .crashed

/-- **References fit a step**: they differ, they lead to values that are still there, and there are
as many as the step declares, of kinds that it accepts. -/
structure Fits (step : Step ε) (refs : List Ref) (script : Script ε) : Prop where
  distinct : refs.Nodup
  live : ∀ r ∈ refs, (script.kindOf r).isSome
  arity : refs.length = step.parameters.length
  kinds : ∀ (i : Nat) (r : Ref) (p : Parameter) (k : Kind), refs[i]? = some r →
    step.parameters[i]? = some p → script.kindOf r = some k → p.accepts k = true

/-- A call of a step with a crashing body crashes exactly when the arguments fit. -/
theorem call_crashing_iff {signature : Signature} {values : List (Option Source)} {host : Host ε} :
    ((⟨signature, Action.crash⟩ : Step ε).call.run (values, host)).1 = .crashed ↔
      List.Forall₂ Parameter.Fits signature.parameters values := by
  by_cases hlength : values.length = signature.parameters.length
  · rw [← Signature.checkEach_eq_ok_iff signature.name hlength]
    cases hfits : Signature.checkEach signature.name signature.parameters values with
    | error f =>
      -- the check fails before the body has its turn
      rw [Action.run, Step.call]
      simp [hfits, hlength]
    | ok _ =>
      rw [Step.run_call hlength hfits]
      simp [Step.checkOutcome]
  · -- arguments of another number neither fit nor get past the check
    rw [Action.run, Step.call]
    simp only [dif_neg hlength]
    constructor
    · intro h
      cases h
    · exact fun h => absurd h.length_eq.symm hlength

/-- The body runs exactly when the references differ and their values fit one by one. -/
theorem bodyRuns_iff_forall₂ {step : Step ε} {refs : List Ref} {script : Script ε}
    {host : Host ε} :
    BodyRuns step refs (script, host) ↔
      refs.Nodup ∧
        List.Forall₂ Parameter.Fits step.parameters (refs.map (valueAt script.slots)) := by
  rw [BodyRuns, Action.run, apply]
  cases hlent : lend step.name script.slots refs with
  | error short =>
    constructor
    · intro h
      cases h
    · rintro ⟨hnodup, hfits⟩
      -- values that fit are there, so they could have been lent
      obtain ⟨sources, hsources⟩ := Parameter.exists_sources_of_fits hfits
      obtain ⟨rest, h⟩ := lend_eq_ok_iff.mpr ⟨hnodup, hsources⟩
      rw [hlent] at h
      cases h
  | ok lent =>
    -- what is lent is what the references lead to, so it is for the call to decide
    obtain ⟨sources, rest⟩ := lent
    obtain ⟨hnodup, hvalues⟩ := lend_eq_ok_iff.mp ⟨rest, hlent⟩
    rw [hvalues]
    exact call_crashing_iff.trans ⟨fun h => ⟨hnodup, h⟩, And.right⟩

/-- **When the body of a step runs**: exactly when the references fit the step. -/
theorem bodyRuns_iff {step : Step ε} {refs : List Ref} {script : Script ε} {host : Host ε} :
    BodyRuns step refs (script, host) ↔ Fits step refs script := by
  rw [bodyRuns_iff_forall₂, List.forall₂_map_right_iff, List.forall₂_iff_get]
  constructor
  · rintro ⟨hnodup, hlength, hfits⟩
    refine ⟨hnodup, ?_, hlength.symm, ?_⟩
    · -- a reference stands at the place of some parameter, whose value is there
      intro r hr
      obtain ⟨i, hi, rfl⟩ := List.mem_iff_getElem.mp hr
      obtain ⟨source, hvalue, -⟩ := hfits i (hlength ▸ hi) hi
      exact Option.isSome_map.trans (Option.isSome_iff_exists.mpr ⟨source, hvalue⟩)
    · intro i r p k hr hp hk
      obtain ⟨hi, rfl⟩ := List.getElem?_eq_some_iff.mp hr
      obtain ⟨hi', rfl⟩ := List.getElem?_eq_some_iff.mp hp
      obtain ⟨source, hvalue, haccepts⟩ := hfits i hi' hi
      obtain ⟨source', hvalue', rfl⟩ := Option.map_eq_some_iff.mp hk
      obtain rfl := Option.some.inj (hvalue.symm.trans hvalue')
      exact haccepts
  · rintro ⟨hnodup, hlive, hlength, hkinds⟩
    refine ⟨hnodup, hlength.symm, fun i hi hi' => ?_⟩
    have hsome := hlive refs[i] (List.getElem_mem hi')
    obtain ⟨source, hvalue⟩ := Option.isSome_iff_exists.mp (Option.isSome_map.symm.trans hsome)
    refine ⟨source, hvalue, hkinds i refs[i] step.parameters[i] source.kind ?_ ?_ ?_⟩
    · exact List.getElem?_eq_getElem hi'
    · exact List.getElem?_eq_getElem hi
    · exact Option.map_eq_some_iff.mpr ⟨source, hvalue, rfl⟩

/-! ### What an application leaves as it is -/

/-- Neither the stage nor the registered releases change. -/
theorem apply_keeps (step : Step ε) (refs : List Ref) (state : Script ε × Host ε) :
    ((apply step refs).run state).2.1.stage = state.1.stage ∧
      ((apply step refs).run state).2.1.pending = state.1.pending := by
  obtain ⟨script, host⟩ := state
  rw [Action.run, apply]
  cases lend step.name script.slots refs <;> exact ⟨rfl, rfl⟩

/-- A step whose body does not crash does not crash when it is called. -/
theorem call_ne_crashed {step : Step ε} (hsafe : step.Safe) (values : List (Option Source))
    (host : Host ε) : (step.call.run (values, host)).1 ≠ .crashed := by
  by_cases hlength : values.length = step.parameters.length
  · cases hfits : Signature.checkEach step.name step.parameters values with
    | error f =>
      rw [Action.run, Step.call]
      simp [hfits, hlength]
    | ok _ =>
      rw [Step.run_call hlength hfits]
      have hbody := hsafe
        ⟨⟨values.toArray, by simpa using hlength⟩, host.note (Step.startEvent step.name)⟩
      generalize step.body.run _ = ended at hbody ⊢
      rcases ended with ⟨result | f | _, frame⟩
      · -- the check of the result may fail, but it does not crash
        change Outcome.ofExcept (step.checkResult result) ≠ .crashed
        cases step.checkResult result <;> simp
      · simp [Step.checkOutcome]
      · exact absurd rfl hbody
  · rw [Action.run, Step.call]
    simp [hlength]

/-- The same for an application. -/
theorem apply_ne_crashed {step : Step ε} (hsafe : step.Safe) (refs : List Ref)
    (state : Script ε × Host ε) : ((apply step refs).run state).1 ≠ .crashed := by
  obtain ⟨script, host⟩ := state
  rw [Action.run, apply]
  cases lend step.name script.slots refs with
  | error short =>
    -- values that are gone are a failure
    simp
  | ok lent => exact call_ne_crashed hsafe _ _

end Script

end ArtifactPipeline
