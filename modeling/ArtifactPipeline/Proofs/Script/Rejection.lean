import ArtifactPipeline.Proofs.Script.Table

/-!
# Rejected applications

A step that is applied to references may be rejected before its body has its turn: a value is not
there, there are too many values or too few, or one is of a kind that the step does not accept
(`Rejects`). By the time the reason is found, values have been moved out of the table, some of them
or all, so the engine has to put them back on every one of these ways out.

* `exists_rejects` says that these reasons are the only ones, and `run_apply_of_rejects` that each of
  them leaves the script and the host as they were;
* `table_intact_of_rejected` draws the conclusion for `eval` and `perform`: the releases that follow
  the failure start with the table of the call, and where there are none nothing has happened.

A reference that comes twice is the case in point. Its value is there before the call and it is there
afterwards, but in between it has gone out with the first of the two.
-/

namespace ArtifactPipeline

variable {ε : Type}

/-- **The check of arguments that are all there fails** at the first one that is of another kind than
its parameter. -/
theorem Signature.checkEach_eq_error_iff {step : String} {parameters : List Parameter}
    {sources : List Source} {f : Failure} :
    checkEach step parameters (sources.map some) = .error f ↔
      ∃ ps p ps' earlier source later, parameters = ps ++ p :: ps' ∧
        sources = earlier ++ source :: later ∧
        List.Forall₂ (fun p source => p.accepts source.kind = true) ps earlier ∧
        p.accepts source.kind = false ∧
        f = .parameterKind step p.name p.kind source.kind := by
  constructor
  · intro h
    induction parameters generalizing sources with
    | nil => cases h
    | cons p ps ih =>
      cases sources with
      | nil => cases h
      | cons source sources =>
        rw [List.map_cons, checkEach] at h
        cases haccepts : p.accepts source.kind with
        | false =>
          rw [if_neg (by rw [haccepts]; exact Bool.false_ne_true)] at h
          exact ⟨[], p, ps, [], source, sources, rfl, rfl, .nil, haccepts,
            (Except.error.inj h).symm⟩
        | true =>
          rw [if_pos haccepts] at h
          obtain ⟨qs, q, qs', earlier, other, later, rfl, rfl, hfits, hrefuses, rfl⟩ := ih h
          exact ⟨p :: qs, q, qs', source :: earlier, other, later, rfl, rfl,
            .cons haccepts hfits, hrefuses, rfl⟩
  · rintro ⟨ps, p, ps', earlier, source, later, rfl, rfl, hfits, hrefuses, rfl⟩
    -- the induction is along the arguments that are accepted, which the check leaves behind
    induction hfits with
    | nil =>
      rw [List.nil_append, List.nil_append, List.map_cons, checkEach,
        if_neg (by rw [hrefuses]; exact Bool.false_ne_true)]
    | cons haccepts _ ih =>
      rw [List.cons_append, List.cons_append, List.map_cons, checkEach, if_pos haccepts]
      exact ih

namespace Script

/-! ### Reasons -/

/-- What a failure calls a value of the table: the name of its slot, or its number if there is no
such slot. -/
def label (slots : List Slot) (r : Ref) : String :=
  (slots.map Slot.name)[r]?.getD ("#" ++ toString r)

/-- **Why an application is rejected**, and the failure that says so. The reasons come in this order:
the table comes first, then the number of the values, and then their kinds.

* `consumed`: the values before it could be lent, but this one is one of them, or it was used up
  before, or there is no such slot;
* `arity`: all values could be lent, but they are not as many as the parameters;
* `kind`: they are, but one is not of the kind of its parameter, and it is the first. -/
inductive Rejects (s : Signature) (refs : List Ref) (slots : List Slot) : Failure → Prop where
  | consumed {earlier later : List Ref} {r : Ref} {sources : List Source} {rest : List Slot}
      (hrefs : refs = earlier ++ r :: later)
      (hlent : lend s.name slots earlier = .ok (sources, rest))
      (hgone : r ∈ earlier ∨ valueAt slots r = none) :
      Rejects s refs slots (.valueConsumed s.name (label slots r))
  | arity {sources : List Source} {rest : List Slot}
      (hlent : lend s.name slots refs = .ok (sources, rest))
      (hlength : refs.length ≠ s.parameters.length) :
      Rejects s refs slots (.arity s.name s.parameters.length refs.length)
  | kind {sources earlier later : List Source} {rest : List Slot} {source : Source}
      {ps ps' : List Parameter} {p : Parameter}
      (hlent : lend s.name slots refs = .ok (sources, rest))
      (hlength : refs.length = s.parameters.length)
      (hparameters : s.parameters = ps ++ p :: ps')
      (hsources : sources = earlier ++ source :: later)
      (hfits : List.Forall₂ (fun p source => p.accepts source.kind = true) ps earlier)
      (hrefuses : p.accepts source.kind = false) :
      Rejects s refs slots (.parameterKind s.name p.name p.kind source.kind)

section Lending

variable {step : String} {slots rest : List Slot} {refs earlier : List Ref} {r : Ref}
  {sources : List Source} {f : Failure}

/-- A value cannot be taken exactly when it is not there. -/
theorem takeSlot_eq_error_iff :
    takeSlot step slots r = .error f ↔
      valueAt slots r = none ∧ f = .valueConsumed step (label slots r) := by
  rw [takeSlot, valueAt, label, List.getElem?_map]
  rcases slots[r]? with _ | ⟨name, _ | source⟩ <;> simp [eq_comm]

/-- Lending gives no slot another name. -/
theorem map_name_of_lend (hlent : lend step slots refs = .ok (sources, rest)) :
    rest.map Slot.name = slots.map Slot.name := by
  rw [← restore_lend hlent, map_name_restore]

/-- What cannot be had once others are lent is one of them or was not there to begin with. -/
theorem valueAt_eq_none_of_lend (hlent : lend step slots refs = .ok (sources, rest)) :
    valueAt rest r = none ↔ r ∈ refs ∨ valueAt slots r = none := by
  by_cases hr : r ∈ refs
  · exact iff_of_true (valueAt_of_lend hlent hr) (.inl hr)
  · rw [valueAt, getElem?_of_lend hlent hr, or_iff_right hr, valueAt]

/-- **Lending stops at a value that is not there**, with those before it in hand. -/
theorem lend_append_of_gone (hlent : lend step slots earlier = .ok (sources, rest))
    (htake : takeSlot step rest r = .error f) (later : List Ref) :
    lend step slots (earlier ++ r :: later) = .error ⟨f, sources, rest⟩ := by
  induction earlier generalizing slots sources with
  | nil =>
    rw [lend, Except.ok.injEq, Prod.mk.injEq] at hlent
    obtain ⟨rfl, rfl⟩ := hlent
    rw [List.nil_append, lend, htake]
  | cons first earlier ih =>
    obtain ⟨source, others, rfl, hvalue, hothers⟩ := lend_cons_eq_ok_iff.mp hlent
    have htaken : takeSlot step slots first = .ok (source, assign slots first none) :=
      takeSlot_eq_ok_iff.mpr ⟨valueAt_eq_some_iff.mp hvalue, rfl⟩
    rw [List.cons_append, lend, htaken]
    simp only [ih hothers]

end Lending

variable {step : Step ε} {refs : List Ref} {state : Script ε × Host ε} {f : Failure}

/-- **A rejected application changes nothing.** Whatever has been taken from the table by the time
the reason is found is back in it, and nothing was noted on the host. -/
theorem run_apply_of_rejects (hrejects : Rejects step.toSignature refs state.1.slots f) :
    (apply step refs).run state = (.failed f, state) := by
  obtain ⟨script, host⟩ := state
  cases hrejects with
  | @consumed earlier later r sources rest hrefs hlent hgone =>
    have hlabel : label rest r = label script.slots r := by
      rw [label, label, map_name_of_lend hlent]
    have htake : takeSlot step.name rest r = .error (.valueConsumed step.name (label rest r)) :=
      takeSlot_eq_error_iff.mpr ⟨(valueAt_eq_none_of_lend hlent).mpr hgone, rfl⟩
    rw [hlabel] at htake
    subst hrefs
    exact run_apply_of_shortfall (lend_append_of_gone hlent htake later) host
  | @arity sources rest hlent hlength =>
    have hsources : (sources.map some).length = refs.length :=
      (List.length_map _).trans (length_of_lend hlent)
    refine run_apply_of_refused hlent ?_
    rw [Action.run, Step.call]
    simp only [hsources, dif_neg hlength]
  | @kind sources earlier later rest source ps ps' p hlent hlength hparameters hsources hfits
      hrefuses =>
    have hcheck : Signature.checkEach step.name step.parameters (sources.map some) =
        .error (.parameterKind step.name p.name p.kind source.kind) :=
      Signature.checkEach_eq_error_iff.mpr
        ⟨ps, p, ps', earlier, source, later, hparameters, hsources, hfits, hrefuses, rfl⟩
    have hcount : (sources.map some).length = step.parameters.length :=
      ((List.length_map _).trans (length_of_lend hlent)).trans hlength
    refine run_apply_of_refused hlent ?_
    rw [Action.run, Step.call]
    simp only [hcheck, dif_pos hcount]

/-- **There is always a reason** when the body does not run. -/
theorem exists_rejects (hrejected : ¬BodyRuns step refs state) :
    ∃ f, Rejects step.toSignature refs state.1.slots f := by
  obtain ⟨script, host⟩ := state
  rw [bodyRuns_iff_forall₂] at hrejected
  cases hlent : lend step.name script.slots refs with
  | error short =>
    obtain ⟨earlier, r, later, hrefs, hearlier, htake⟩ := exists_of_shortfall hlent
    have hgone := (takeSlot_eq_error_iff.mp htake).1
    exact ⟨_, .consumed hrefs hearlier ((valueAt_eq_none_of_lend hearlier).mp hgone)⟩
  | ok lent =>
    obtain ⟨sources, rest⟩ := lent
    obtain ⟨hnodup, hvalues⟩ := lend_eq_ok_iff.mp ⟨rest, hlent⟩
    rw [hvalues] at hrejected
    by_cases hlength : refs.length = step.parameters.length
    · -- as many as the parameters and all there, so it is the check of the kinds that fails
      have hcount : (sources.map some).length = step.parameters.length :=
        ((List.length_map _).trans (length_of_lend hlent)).trans hlength
      cases hcheck : Signature.checkEach step.name step.parameters (sources.map some) with
      | ok _ =>
        exact absurd ⟨hnodup, (Signature.checkEach_eq_ok_iff _ hcount).mp hcheck⟩ hrejected
      | error f =>
        obtain ⟨ps, p, ps', earlier, source, later, hparameters, hsources, hfits, hrefuses, -⟩ :=
          Signature.checkEach_eq_error_iff.mp hcheck
        exact ⟨_, .kind hlent hlength hparameters hsources hfits hrefuses⟩
    · exact ⟨_, .arity hlent hlength⟩

/-- The reasons are exactly what keeps the body from running. -/
theorem exists_rejects_iff :
    (∃ f, Rejects step.toSignature refs state.1.slots f) ↔ ¬BodyRuns step refs state := by
  refine ⟨?_, exists_rejects⟩
  rintro ⟨f, hrejects⟩ hruns
  -- the step with a crashing body has the same signature, so it is rejected as well
  have hcrashing : (apply { step with body := Action.crash } refs).run state = (.failed f, state) :=
    run_apply_of_rejects hrejects
  rw [BodyRuns, hcrashing] at hruns
  cases hruns

/-! ### The operations -/

/-- What follows a failure in some state: the releases that are pending there, the last registered
first, and then the failure. -/
def failingFrom {α : Type} (f : Failure) (state : Script ε × Host ε) :
    Outcome α × (Script ε × Host ε) :=
  match (release state.1.pending.reverse).run (cleared state) with
  | (.crashed, after) => (.crashed, after)
  | (_, after) => (.failed f, after)

/-- Where nothing is pending, a failure leaves the script and the host as they are. -/
theorem failingFrom_of_pending_nil {α : Type} (hpending : state.1.pending = []) :
    (failingFrom f state : Outcome α × (Script ε × Host ε)) = (.failed f, state) := by
  obtain ⟨⟨stage, slots, pending⟩, host⟩ := state
  obtain rfl : pending = [] := hpending
  rfl

/-- An action that fails without a change is followed by the releases from there. -/
theorem run_releasingOnFailure_of_failed {α : Type} {x : Action (Script ε × Host ε) α}
    (hfailed : x.run state = (.failed f, state)) :
    (releasingOnFailure x).run state = failingFrom f state := by
  have hrun := run_releasingOnFailure x state
  simp only [hfailed, run_releaseAll] at hrun
  exact hrun

/-- **The values are left intact** by an application that is rejected with a failure.

* `unchanged`: the application changes neither the script nor the host;
* `begins`: nor does either operation before the releases begin, so they begin with the values and
  the registrations that the call has found;
* `evaluated`, `performed`: the releases are all that happens besides;
* `idle`: without releases nothing happens. -/
structure LeavesIntact (step : Step ε) (refs : List Ref) (state : Script ε × Host ε)
    (f : Failure) : Prop where
  unchanged : (apply step refs).run state = (.failed f, state)
  begins : ∀ op ∈ [Operation.eval step refs, .perform step refs],
    op.own.run state = (.failed f, state)
  evaluated : (eval step refs).run state = failingFrom f state
  performed : (perform step refs).run state = failingFrom f state
  idle : state.1.pending = [] → (eval step refs).run state = (.failed f, state) ∧
    (perform step refs).run state = (.failed f, state)

theorem leavesIntact_of_rejects (hrejects : Rejects step.toSignature refs state.1.slots f) :
    LeavesIntact step refs state f := by
  have hrun := run_apply_of_rejects hrejects
  have hevaluated : (eval step refs).run state = failingFrom f state := by
    refine run_releasingOnFailure_of_failed ?_
    rw [Action.run_bind, hrun]
  have hperformed : (perform step refs).run state = failingFrom f state := by
    refine run_releasingOnFailure_of_failed ?_
    rw [Action.run_bind, hrun]
  refine ⟨hrun, fun op hop => ?_, hevaluated, hperformed, fun hpending => ?_⟩
  · rcases List.mem_pair.mp hop with rfl | rfl <;> rw [Operation.own, Action.run_bind, hrun]
  · rw [hevaluated, hperformed, failingFrom_of_pending_nil hpending,
      failingFrom_of_pending_nil hpending]
    exact ⟨rfl, rfl⟩

/-- **A rejected invocation leaves the values of a script intact**, whatever the state, the step and
the references are. There is one failure that says why, it does not depend on the body, and the
releases that it sets off begin in the state of the call. -/
theorem table_intact_of_rejected (step : Step ε) (refs : List Ref) (state : Script ε × Host ε)
    (hrejected : ¬BodyRuns step refs state) :
    ∃ f, Rejects step.toSignature refs state.1.slots f ∧
      ∀ body, LeavesIntact { step with body } refs state f := by
  obtain ⟨f, hrejects⟩ := exists_rejects hrejected
  exact ⟨f, hrejects, fun body => leavesIntact_of_rejects hrejects⟩

/-- A step that puts two texts together. -/
def joinTexts : Step Unit where
  name := "join"
  parameters := [⟨"first", .string⟩, ⟨"second", .string⟩]
  result := some .string
  body := pure (some (.string "joined"))

/-- A script with one value that is there and one that is used up, and with one release. -/
def halfUsed : Script Unit × Host Unit :=
  (⟨"sample", [⟨"input", some (.string "text")⟩, ⟨"spent", none⟩], [⟨letGo, [0]⟩]⟩,
    ⟨.empty, [], [], [], false, ()⟩)

/-- A reference that comes twice: its value is out when the second one fails, and it is back when the
release needs it. -/
theorem table_intact_of_repeated_reference :
    (∃ f, Rejects joinTexts.toSignature [0, 0] halfUsed.1.slots f ∧
        ∀ body, LeavesIntact { joinTexts with body } [0, 0] halfUsed f) ∧
      ((eval joinTexts [0, 0]).run halfUsed).1 = .failed (.valueConsumed "join" "input") ∧
      ((eval joinTexts [0, 0]).run halfUsed).2.1.slots = halfUsed.1.slots := by
  refine ⟨table_intact_of_rejected joinTexts [0, 0] halfUsed fun hruns => ?_, ?_, ?_⟩
  · exact absurd (bodyRuns_iff.mp hruns).distinct (by decide)
  · rfl
  · decide

end Script

end ArtifactPipeline
