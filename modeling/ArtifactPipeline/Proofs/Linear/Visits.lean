import ArtifactPipeline.Proofs.Step.Visits
import ArtifactPipeline.Stage
import Mathlib.Data.List.Basic

/-!
# The visits of a pipe

A pipe converts its value before every step and calls the step with the converted value alone. So
the checks of the engine have nothing to find: the argument fits the one parameter that there is,
a result that has passed its own check is there, and what comes out at the end is of the kind that
the stage declares. What can go wrong are the conversions and the bodies.

The pipe is watched (`Linear.watched`), and its visits are described twice.

* `Course` follows the pipe and the value in its hands, step by step; `watches_passAll` is the run
  of a pipe by induction, with `watches_pass` for one step;
* `Accounted` says what this means for the visits as a whole, with `valueAfter?` for the value in
  hand and `Ends` for an end that no visit made; `Course.accounted` derives it;
* `Linear.run_accounted` is the result, for every run of every pipe that is accepted.
-/

namespace ArtifactPipeline

variable {ε : Type}

namespace Linear

/-! ### Pipes that are watched -/

/-- Steps of a pipe, watched from a position on. -/
def watchedFrom : Nat → List { step : Step ε // step.Pipes } →
    List { step : Step (ε × List Visit) // step.Pipes }
  | _, [] => []
  | i, step :: steps => ⟨step.val.watched i, step.property⟩ :: watchedFrom (i + 1) steps

/-- **A pipe that is watched.** -/
def watched (l : Linear ε) : Linear (ε × List Visit) := ⟨l.info, watchedFrom 0 l.steps⟩

/-- Steps that are accepted are the steps that were given. -/
theorem map_val_of_checkSteps {output : Kind} {steps : List (Step ε)}
    {checked : List { step : Step ε // step.Pipes }}
    (hchecked : checkSteps output steps = .ok checked) : checked.map Subtype.val = steps := by
  induction steps generalizing checked with
  | nil =>
    obtain rfl := Except.ok.inj hchecked
    rfl
  | cons step steps ih =>
    rw [checkSteps] at hchecked
    split at hchecked
    · cases hrest : checkSteps output steps with
      | error f =>
        rw [hrest] at hchecked
        cases hchecked
      | ok rest =>
        rw [hrest] at hchecked
        obtain rfl := Except.ok.inj hchecked
        rw [List.map_cons, ih hrest]
    · split at hchecked <;> cases hchecked

/-- A pipe that is accepted declares what was given, and has the steps that were given. -/
theorem ofSteps_eq_ok {info : StageInfo} {steps : List (Step ε)} {l : Linear ε}
    (hl : ofSteps info steps = .ok l) : l.info = info ∧ l.steps.map Subtype.val = steps := by
  rw [ofSteps] at hl
  cases hchecked : checkSteps info.output steps with
  | error f =>
    rw [hchecked] at hl
    cases hl
  | ok checked =>
    rw [hchecked] at hl
    obtain rfl := Except.ok.inj hl
    exact ⟨rfl, map_val_of_checkSteps hchecked⟩

/-! ### One step -/

/-- A value becomes another on its way to a kind, with some files around it. -/
def Becomes (value : Source) (target : Kind) (converted : Source) : Prop :=
  ∃ files, (Conversion.convert value target files).1 = .ok converted

/-- A value does not become one of a kind, with some files around it. -/
def Refuses (value : Source) (target : Kind) (cause : ConversionFailure) : Prop :=
  ∃ files, (Conversion.convert value target files).1 = .error cause

/-- What a value becomes may stand where the kind is asked for. -/
theorem Becomes.accepts {value converted : Source} {target : Kind}
    (h : Becomes value target converted) : target.accepts converted.kind = true := by
  obtain ⟨files, hconvert⟩ := h
  exact Conversion.kind_of_convert (Prod.ext hconvert rfl)

/-- A conversion fails, or it yields what the value becomes. -/
def Converts (value : Source) (target : Kind) (outcome : Outcome Source) : Prop :=
  (∃ cause, outcome = .failed (.conversion cause) ∧ Refuses value target cause) ∨
    ∃ converted, outcome = .done converted ∧ Becomes value target converted

theorem watches_convertAction {κ : Type} (value : Source) (target : Kind) :
    Watches (Conversion.convertAction value target : Action (Host (ε × List κ)) Source)
      (Conversion.convertAction value target)
      fun visits outcome => visits = [] ∧ Converts value target outcome := by
  -- a conversion reads and changes the files, and the record is not among them
  refine .of_unvisited (fun host record => ?_) fun host => ?_
  · have hfiles : (host.withRecord record).files = host.files := rfl
    rw [Action.run, Action.run, Conversion.convertAction, Conversion.convertAction, hfiles]
    rcases Conversion.convert value target host.files with ⟨cause | converted, files⟩ <;> rfl
  · rw [Action.run, Conversion.convertAction]
    rcases hconvert : Conversion.convert value target host.files with ⟨cause | converted, files⟩
    · exact .inl ⟨cause, rfl, host.files, by rw [hconvert]⟩
    · exact .inr ⟨converted, rfl, host.files, by rw [hconvert]⟩

/-- The note before a conversion that has something to do. -/
def announce (step : Step ε) (parameter : Parameter) (value : Source) : Action (Host ε) Unit :=
  if value.kind ≠ parameter.kind then
    Host.record (convertingEvent step.name value.kind parameter.kind)
  else return ()

/-- What a pipe makes of the result of a step. -/
def receive (step : Step ε) (parameter : Parameter) : Option Source → Action (Host ε) Source
  | some result => return result
  | none => .fail (.missingResult step.name parameter.kind)

/-- **Handing a value to a step**, part by part, with the one parameter by its name. -/
theorem pass_eq (step : { step : Step ε // step.Pipes }) {parameter : Parameter}
    (hone : step.val.parameters = [parameter]) (value : Source) :
    pass step value = announce step.val parameter value >>= fun _ =>
      Conversion.convertAction value parameter.kind >>= fun value =>
        step.val.invoke [value] >>= receive step.val parameter := by
  have hpos := step.property.parameters_pos
  have hfirst : step.val.parameters[0] = parameter := by
    simp only [hone, List.getElem_cons_zero]
  have hreceive : ∀ result, receive step.val parameter result = match result with
      | some result => return result
      | none => .fail (.missingResult step.val.name parameter.kind) := by
    intro result
    cases result <;> rfl
  rw [pass, announce]
  simp only [hfirst, funext hreceive]
  split <;> rfl

/-- The one parameter of a step in a pipe. -/
theorem exists_parameter {step : Step ε} (hpipes : step.Pipes) :
    ∃ parameter, step.parameters = [parameter] := List.length_eq_one_iff.mp hpipes.1

/-- A step that declares a result never comes to nothing. -/
theorem result_ne_none {v : Visit} (hresult : v.signature.result.isSome = true) :
    v.result ≠ .done none := by
  obtain ⟨expected, hexpected⟩ := Option.isSome_iff_exists.mp hresult
  rw [Visit.result]
  rcases v.ended with (_ | value) | f | _
  · simp [Step.checkOutcome, Signature.checkResult, hexpected]
  · simp only [Step.checkOutcome, Signature.checkResult, hexpected]
    split <;> simp
  · simp [Step.checkOutcome]
  · simp [Step.checkOutcome]

/-- **A visit to a step of a pipe**, with a value. The body was given exactly one argument, which
the value has become on its way to the one parameter, and which that accepts. -/
structure VisitsTo (step : Step ε) (position : Nat) (value : Source) (v : Visit) : Prop where
  position_eq : v.position = position
  signature_eq : v.signature = step.toSignature
  fits : ∃ parameter converted, step.parameters = [parameter] ∧ v.arguments = [some converted] ∧
    Becomes value parameter.kind converted ∧ parameter.accepts converted.kind = true

/-- **A value is handed to a step**: it does not convert, or the step is visited, and the visit
decides. -/
def Passes (step : Step ε) (position : Nat) (value : Source) (visits : List Visit)
    (outcome : Outcome Source) : Prop :=
  (visits = [] ∧ ∃ parameter cause, step.parameters = [parameter] ∧
      outcome = .failed (.conversion cause) ∧ Refuses value parameter.kind cause) ∨
    ∃ v, visits = [v] ∧ VisitsTo step position value v ∧ v.result = outcome.map some

/-- Calling a step with what a value has become, and receiving what it makes. -/
theorem watches_invoke_receive (step : { step : Step ε // step.Pipes }) (position : Nat)
    {parameter : Parameter} (hone : step.val.parameters = [parameter]) {value converted : Source}
    (hbecomes : Becomes value parameter.kind converted) :
    Watches ((step.val.watched position).invoke [converted] >>=
        receive (step.val.watched position) parameter)
      (step.val.invoke [converted] >>= receive step.val parameter)
      (Passes step.val position value) := by
  have haccepts : parameter.accepts converted.kind = true := hbecomes.accepts
  have hlength : ([converted].map some).length = step.val.parameters.length := by rw [hone]; rfl
  have hfits : Signature.checkEach step.val.name step.val.parameters ([converted].map some) =
      .ok () := by
    rw [hone]
    simp [Signature.checkEach, haccepts]
  have hvisits : ∀ v : Visit, v.position = position → v.signature = step.val.toSignature →
      v.arguments = [converted].map some → VisitsTo step.val position value v :=
    fun v hposition hsignature harguments =>
      ⟨hposition, hsignature, parameter, converted, hone, harguments, hbecomes, haccepts⟩
  refine (Step.watches_invoke hlength hfits position).bind
    (Q := fun result visits outcome => visits = [] ∧ ∀ made, result = some made →
      outcome = .done made) ?_ ?_ ?_ ?_
  · rintro - (_ | made) -
    · exact .of_unvisited (fun _ _ => rfl) fun _ _ h => by cases h
    · exact .of_unvisited (fun _ _ => rfl) fun _ _ h => by rw [Option.some.inj h]; rfl
  · rintro visits result later outcome ⟨v, rfl, hposition, hsignature, harguments, hresult⟩
      ⟨rfl, hmade⟩
    -- the check of the result has made sure that there is one
    cases result with
    | none => exact absurd hresult (result_ne_none (hsignature ▸ step.property.2))
    | some made =>
      rw [hmade made rfl]
      exact .inr ⟨v, rfl, hvisits v hposition hsignature harguments, hresult⟩
  · rintro visits f ⟨v, rfl, hposition, hsignature, harguments, hresult⟩
    exact .inr ⟨v, rfl, hvisits v hposition hsignature harguments, hresult⟩
  · rintro visits ⟨v, rfl, hposition, hsignature, harguments, hresult⟩
    exact .inr ⟨v, rfl, hvisits v hposition hsignature harguments, hresult⟩

theorem watches_pass (step : { step : Step ε // step.Pipes }) (position : Nat) (value : Source) :
    Watches (pass ⟨step.val.watched position, step.property⟩ value) (pass step value)
      (Passes step.val position value) := by
  obtain ⟨parameter, hone⟩ := exists_parameter step.property
  rw [pass_eq ⟨step.val.watched position, step.property⟩ hone, pass_eq step hone]
  -- the note and the conversion run no body
  have hannounce : Watches (announce (step.val.watched position) parameter value)
      (announce step.val parameter value)
      fun visits outcome => visits = [] ∧ outcome = .done () := by
    rw [announce, announce]
    split
    · exact watches_record _
    · exact .of_unvisited (fun _ _ => rfl) fun _ => rfl
  refine hannounce.bind (Q := fun _ => Passes step.val position value) (fun _ _ _ => ?_) ?_
    (fun _ _ h => nomatch h.2) (fun _ h => nomatch h.2)
  · refine (watches_convertAction value parameter.kind).bind
      (Q := fun _ => Passes step.val position value) ?_ ?_ ?_ ?_
    · rintro - converted ⟨-, ⟨cause, h, -⟩ | ⟨made, h, hbecomes⟩⟩
      · cases h
      · obtain rfl := Outcome.done.inj h
        exact watches_invoke_receive step position hone hbecomes
    · rintro visits converted later outcome ⟨rfl, -⟩ hpasses
      exact hpasses
    · rintro visits f ⟨rfl, ⟨cause, h, hrefuses⟩ | ⟨made, h, -⟩⟩
      · exact .inl ⟨rfl, parameter, cause, hone, h, hrefuses⟩
      · cases h
    · rintro visits ⟨-, ⟨cause, h, -⟩ | ⟨made, h, -⟩⟩ <;> cases h
  · rintro visits a later outcome ⟨rfl, -⟩ hpasses
    exact hpasses

/-! ### The whole pipe -/

/-- The kind to which a pipe converts its value next, with these steps ahead. -/
def nextKind? (output : Kind) : List (Step ε) → Option Kind
  | [] => some output
  | step :: _ => step.parameters.head?.map Parameter.kind

/-- **The course of a pipe** from a position on, with a value in its hands, and with the outcome of
the whole. -/
inductive Course (output : Kind) :
    Nat → Source → List (Step ε) → List Visit → Outcome Source → Prop
  /-- The value does not convert, and nothing runs any more. -/
  | unconverted {i : Nat} {value : Source} {steps : List (Step ε)} {target : Kind}
      {cause : ConversionFailure} (htarget : nextKind? output steps = some target)
      (hrefuses : Refuses value target cause) :
      Course output i value steps [] (.failed (.conversion cause))
  /-- No step is left, and the value has been converted for the last time. -/
  | finished {i : Nat} {value converted : Source} (hbecomes : Becomes value output converted) :
      Course output i value [] [] (.done converted)
  /-- The next visit ends the run. -/
  | ended {i : Nat} {value : Source} {step : Step ε} {steps : List (Step ε)} {v : Visit}
      {outcome : Outcome Source} (hvisit : VisitsTo step i value v)
      (hresult : v.result = outcome.map some) (hnot : ∀ made, outcome ≠ .done made) :
      Course output i value (step :: steps) [v] outcome
  /-- The next visit makes a value, and the pipe goes on with it. -/
  | passed {i : Nat} {value made : Source} {step : Step ε} {steps : List (Step ε)} {v : Visit}
      {visits : List Visit} {outcome : Outcome Source} (hvisit : VisitsTo step i value v)
      (hresult : v.result = .done (some made))
      (hrest : Course output (i + 1) made steps visits outcome) :
      Course output i value (step :: steps) (v :: visits) outcome

/-- **A pipe takes its course**, whatever value it is given. -/
theorem watches_passAll (output : Kind) (steps : List { step : Step ε // step.Pipes })
    (position : Nat) (value : Source) :
    Watches (passAll (watchedFrom position steps) value >>= fun value =>
        Conversion.convertAction value output)
      (passAll steps value >>= fun value => Conversion.convertAction value output)
      (Course output position value (steps.map Subtype.val)) := by
  induction steps generalizing position value with
  | nil =>
    -- nothing is left but the last conversion
    intro host record
    obtain ⟨visits, hrun, rfl, hconverts⟩ := watches_convertAction value output host record
    refine ⟨[], hrun, ?_⟩
    change Course output position value [] [] ((Conversion.convertAction value output).run host).1
    rcases hconverts with ⟨cause, h, hrefuses⟩ | ⟨converted, h, hbecomes⟩
    · rw [h]
      exact .unconverted rfl hrefuses
    · rw [h]
      exact .finished hbecomes
  | cons step steps ih =>
    rw [watchedFrom, passAll, passAll, bind_assoc, bind_assoc]
    refine (watches_pass step position value).bind
      (Q := fun made => Course output (position + 1) made (steps.map Subtype.val))
      (fun _ made _ => ih (position + 1) made) ?_ ?_ ?_
    · rintro visits made later outcome (⟨-, _, _, -, h, -⟩ | ⟨v, rfl, hvisit, hresult⟩) hcourse
      · cases h
      · exact .passed hvisit hresult hcourse
    · rintro visits f (⟨rfl, parameter, cause, hone, h, hrefuses⟩ | ⟨v, rfl, hvisit, hresult⟩)
      · rw [h]
        have htarget : nextKind? output ((step :: steps).map Subtype.val) =
            some parameter.kind := by
          rw [List.map_cons, nextKind?, hone]
          rfl
        exact .unconverted htarget hrefuses
      · exact .ended hvisit hresult (by simp)
    · rintro visits (⟨-, _, _, -, h, -⟩ | ⟨v, rfl, hvisit, hresult⟩)
      · cases h
      · exact .ended hvisit hresult (by simp)

/-! ### What the course says of the visits -/

/-- The value that a visit made, if it made one. -/
def Visit.made? (v : Visit) : Option Source :=
  match v.result with
  | .done made => made
  | _ => none

/-- The value in the hands of a pipe after some visits, if all is well until then. -/
def valueAfter? (input : Source) (visits : List Visit) : Nat → Option Source
  | 0 => some input
  | j + 1 => visits[j]?.bind Visit.made?

/-- After the first visit the pipe is one that was given what the visit made. -/
theorem valueAfter?_cons {v : Visit} {made : Source} (hmade : v.result = .done (some made))
    (value : Source) (visits : List Visit) (j : Nat) :
    valueAfter? value (v :: visits) (j + 1) = valueAfter? made visits j := by
  cases j with
  | zero => simp [valueAfter?, Visit.made?, hmade]
  | succ j => rfl

section Reading

variable {output : Kind} {i : Nat} {value : Source} {steps : List (Step ε)} {visits : List Visit}
  {outcome : Outcome Source}

/-- The steps are visited one after another, from the first on. -/
theorem Course.positions (hcourse : Course output i value steps visits outcome) :
    visits.map Visit.position = List.range' i visits.length := by
  induction hcourse with
  | unconverted _ _ => rfl
  | finished _ => rfl
  | ended hvisit _ _ => simp [hvisit.position_eq]
  | passed hvisit _ _ ih => simp [hvisit.position_eq, ih, List.range'_succ]

/-- Each visit is one to the step at its place, with the value made before it. -/
theorem Course.visitsTo (hcourse : Course output i value steps visits outcome) {j : Nat} {v : Visit}
    (hv : visits[j]? = some v) :
    ∃ step given, steps[j]? = some step ∧ valueAfter? value visits j = some given ∧
      VisitsTo step (i + j) given v := by
  induction hcourse generalizing j with
  | unconverted _ _ => cases hv
  | finished _ => cases hv
  | ended hvisit _ _ =>
    cases j with
    | zero =>
      obtain rfl := Option.some.inj hv
      exact ⟨_, _, rfl, rfl, hvisit⟩
    | succ j => cases hv
  | @passed i _ _ _ _ _ _ _ hvisit hresult _ ih =>
    cases j with
    | zero =>
      obtain rfl := Option.some.inj hv
      exact ⟨_, _, rfl, rfl, hvisit⟩
    | succ j =>
      obtain ⟨step, given, hstep, hgiven, hto⟩ := ih hv
      have hshift : i + 1 + j = i + (j + 1) := by omega
      exact ⟨step, given, hstep, (valueAfter?_cons hresult _ _ j).trans hgiven, hshift ▸ hto⟩

/-- What a visit comes to is never nothing, and when it is no value, it is the outcome. -/
theorem Course.decides (hcourse : Course output i value steps visits outcome) :
    ∀ v ∈ visits, (∃ made, v.result = .done (some made)) ∨ v.result = outcome.map some := by
  induction hcourse with
  | unconverted _ _ => exact fun _ h => nomatch h
  | finished _ => exact fun _ h => nomatch h
  | ended _ hresult _ =>
    intro v hv
    rw [List.mem_singleton.mp hv]
    exact .inr hresult
  | passed _ hresult _ ih =>
    intro v hv
    rcases List.mem_cons.mp hv with rfl | hv
    · exact .inl ⟨_, hresult⟩
    · exact ih v hv

/-- Only after a visit that made a value there is another. -/
theorem Course.stops (hcourse : Course output i value steps visits outcome) :
    visits.Pairwise fun v _ => ∃ made, v.result = .done (some made) := by
  induction hcourse with
  | unconverted _ _ => exact .nil
  | finished _ => exact .nil
  | ended _ _ _ => exact List.pairwise_singleton _ _
  | passed _ hresult _ ih => exact List.pairwise_cons.mpr ⟨fun _ _ => ⟨_, hresult⟩, ih⟩

/-- **How a pipe ends that no visit has ended**: the value that it has got to does not become what
is asked for next, or every step has been visited and the value becomes the output. -/
def Ends (output : Kind) (steps : List (Step ε)) (value : Source) (visits : List Visit)
    (outcome : Outcome Source) : Prop :=
  ∃ last, valueAfter? value visits visits.length = some last ∧
    ((∃ target cause, nextKind? output (steps.drop visits.length) = some target ∧
        Refuses last target cause ∧ outcome = .failed (.conversion cause)) ∨
      visits.length = steps.length ∧
        ∃ made, Becomes last output made ∧ outcome = .done made ∧
          (output = .untyped ∨ made.kind = output))

/-- Where every visit made a value, the pipe ends with the value that it has got to. -/
theorem Course.ends (hcourse : Course output i value steps visits outcome)
    (hall : ∀ v ∈ visits, ∃ made, v.result = .done (some made)) :
    Ends output steps value visits outcome := by
  induction hcourse with
  | unconverted htarget hrefuses => exact ⟨_, rfl, .inl ⟨_, _, htarget, hrefuses, rfl⟩⟩
  | finished hbecomes =>
    have hkind := (Kind.accepts_iff.mp hbecomes.accepts).imp_right Eq.symm
    exact ⟨_, rfl, .inr ⟨rfl, _, hbecomes, rfl, hkind⟩⟩
  | @ended _ _ _ _ v outcome _ hresult hnot =>
    -- a visit that ended the run has made no value
    obtain ⟨made, hmade⟩ := hall v (List.mem_singleton_self v)
    rw [hmade] at hresult
    cases outcome with
    | done made => exact absurd rfl (hnot made)
    | failed f => cases hresult
    | crashed => cases hresult
  | passed _ hresult _ ih =>
    obtain ⟨last, hlast, hends⟩ := ih fun v hv => hall v (List.mem_cons_of_mem _ hv)
    exact ⟨last, (valueAfter?_cons hresult _ _ _).trans hlast,
      hends.imp_right (And.imp_left (congrArg Nat.succ))⟩

/-- What comes out is of the kind that was asked for. -/
theorem Course.accepts_of_done {made : Source}
    (hcourse : Course output i value steps visits (.done made)) :
    output.accepts made.kind = true := by
  generalize houtcome : (Outcome.done made : Outcome Source) = outcome at hcourse
  induction hcourse with
  | unconverted _ _ => cases houtcome
  | finished hbecomes =>
    obtain rfl := Outcome.done.inj houtcome
    exact hbecomes.accepts
  | ended _ _ hnot => exact absurd houtcome.symm (hnot made)
  | passed _ _ _ ih => exact ih houtcome

end Reading

/-- **What a run of a pipe is accounted for by.** The visits are the runs of bodies, in order. -/
structure Accounted (info : StageInfo) (steps : List (Step ε)) (value : Source)
    (visits : List Visit) (outcome : Outcome Source) : Prop where
  /-- The first steps are visited, once each and in order. -/
  in_order : visits.map Visit.position = List.range visits.length
  /-- Each visit is one to the step at its place. Its body was given exactly one argument, which is
  what the value made before has become, and is of a kind that the one parameter accepts. -/
  fits : ∀ j v, visits[j]? = some v → ∃ step given, steps[j]? = some step ∧
    valueAfter? value visits j = some given ∧ VisitsTo step j given v
  /-- After a visit that made no value there is none. -/
  stops : visits.Pairwise fun v _ => ∃ made, v.result = .done (some made)
  /-- A visit makes a value, or what it comes to instead is the outcome. -/
  decides : ∀ v ∈ visits, (∃ made, v.result = .done (some made)) ∨ v.result = outcome.map some
  /-- Where every visit makes a value, the pipe ends with the value that it has got to. -/
  ends : (∀ v ∈ visits, ∃ made, v.result = .done (some made)) →
    Ends info.output steps value visits outcome

theorem Course.accounted {info : StageInfo} {steps : List (Step ε)} {value : Source}
    {visits : List Visit} {outcome : Outcome Source}
    (hcourse : Course info.output 0 value steps visits outcome) :
    Accounted info steps value visits outcome := by
  refine ⟨?_, fun j v hv => ?_, hcourse.stops, hcourse.decides, hcourse.ends⟩
  · rw [hcourse.positions, List.range_eq_range']
  · obtain ⟨step, given, hstep, hgiven, hto⟩ := hcourse.visitsTo hv
    rw [Nat.zero_add] at hto
    exact ⟨step, given, hstep, hgiven, hto⟩

/-! ### Runs of the stage -/

/-- The check of the output at the end of a run, with the note that follows it. -/
def conclude (info : StageInfo) (output : Source) : Action (Host ε) Source := do
  if info.output.accepts output.kind then
    Host.record (Stage.endEvent info)
    return output
  else .fail (.resultKind info.name info.output output.kind)

theorem run_stage_eq (l : Linear ε) (input : Source) :
    l.stage.run input = Host.record (Stage.startEvent l.info) >>= fun _ =>
      Conversion.convertAction input l.info.input >>= fun input =>
        l.execute input >>= conclude l.info := rfl

/-- An output of the kind declared passes the check. -/
theorem watches_conclude {info : StageInfo} {output : Source}
    (haccepts : info.output.accepts output.kind = true) :
    Watches (conclude info output : Action (Host (ε × List Visit)) Source) (conclude info output)
      fun visits outcome => visits = [] ∧ outcome = .done output := by
  rw [conclude, conclude, if_pos haccepts, if_pos haccepts]
  exact .of_unvisited (P := fun outcome => outcome = .done output) (fun _ _ => rfl) fun _ => rfl

/-- **How a run begins**: its input does not become one of the kind declared, and nothing runs, or
what it becomes is what the rest is about. -/
def Begins (info : StageInfo) (input : Source)
    (Rest : Source → List Visit → Outcome Source → Prop) (visits : List Visit)
    (outcome : Outcome Source) : Prop :=
  (visits = [] ∧ ∃ cause, Refuses input info.input cause ∧
      outcome = .failed (.conversion cause)) ∨
    ∃ value, Becomes input info.input value ∧ Rest value visits outcome

/-- **A run of a pipe takes its course**, and the check at its end changes nothing. -/
theorem watches_run (l : Linear ε) (input : Source) :
    Watches (l.watched.stage.run input) (l.stage.run input)
      (Begins l.info input fun value =>
        Course l.info.output 0 value (l.steps.map Subtype.val)) := by
  rw [run_stage_eq, run_stage_eq]
  have hexecute : ∀ value, Watches (l.watched.execute value >>= conclude l.info)
      (l.execute value >>= conclude l.info)
      (Course l.info.output 0 value (l.steps.map Subtype.val)) := by
    intro value
    refine (watches_passAll l.info.output l.steps 0 value).bind
      (Q := fun output visits outcome => visits = [] ∧ outcome = .done output)
      (fun visits output hcourse => watches_conclude hcourse.accepts_of_done) ?_
      (fun _ _ hcourse => hcourse) fun _ hcourse => hcourse
    rintro visits output later outcome hcourse ⟨rfl, rfl⟩
    rwa [List.append_nil]
  -- the note at the start leaves the input as it is
  refine (watches_record _).bind
    (Q := fun _ => Begins l.info input fun value =>
      Course l.info.output 0 value (l.steps.map Subtype.val)) (fun _ _ _ => ?_) ?_
    (fun _ _ h => nomatch h.2) fun _ h => nomatch h.2
  · refine (watches_convertAction input l.info.input).bind
      (Q := fun value => Course l.info.output 0 value (l.steps.map Subtype.val))
      (fun _ value _ => hexecute value) ?_ ?_ ?_
    · rintro visits value later outcome ⟨rfl, ⟨cause, h, -⟩ | ⟨made, h, hbecomes⟩⟩ hcourse
      · cases h
      · obtain rfl := Outcome.done.inj h
        exact .inr ⟨value, hbecomes, hcourse⟩
    · rintro visits f ⟨rfl, ⟨cause, h, hrefuses⟩ | ⟨made, h, -⟩⟩
      · exact .inl ⟨rfl, cause, hrefuses, h⟩
      · cases h
    · rintro visits ⟨-, ⟨cause, h, -⟩ | ⟨made, h, -⟩⟩ <;> cases h
  · rintro visits a later outcome ⟨rfl, -⟩ hbegins
    exact hbegins

/-- **No check of the engine fires in a pipe.** Take any steps that are accepted, any input and any
host. Watched, the run ends as it does unwatched, and its visits account for the outcome: the bodies
that ran are those of the first steps, once each and in order, each on one argument, which is what
the value made before has become, of a kind that the parameter accepts; nothing runs after the first
error; a failure is that of a visit or of the conversion that came next; and what comes out is of
the kind declared. -/
theorem run_accounted {info : StageInfo} {steps : List (Step ε)} {l : Linear ε}
    (hl : ofSteps info steps = .ok l) (input : Source) (host : Host ε) (record : List Visit) :
    ∃ visits, (l.watched.stage.run input).run (host.withRecord record) =
        (((l.stage.run input).run host).1,
          ((l.stage.run input).run host).2.withRecord (record ++ visits)) ∧
      Begins info input (Accounted info steps) visits ((l.stage.run input).run host).1 := by
  obtain ⟨rfl, rfl⟩ := ofSteps_eq_ok hl
  obtain ⟨visits, hrun, hbegins⟩ := watches_run l input host record
  refine ⟨visits, hrun, hbegins.imp_right ?_⟩
  rintro ⟨value, hbecomes, hcourse⟩
  exact ⟨value, hbecomes, hcourse.accounted⟩

/-- A step that takes one value of a kind and hands it on. -/
def handOn (name : String) (kind : Kind) : Step Unit where
  name := name
  parameters := [⟨"value", kind⟩]
  result := some kind
  body := fun frame => (.done (frame.values.get ⟨0, Nat.one_pos⟩), frame)

/-- A pipe that reads a file as a stream, and the stream as a text. -/
def readingInfo : StageInfo := .between "file" "text" .path .string

/-- The accounts of a pipe that converts before both of its steps. -/
theorem run_accounted_of_reading :
    ∃ l, ofSteps readingInfo [handOn "open" .stream, handOn "decode" .string] = .ok l ∧
      ∀ input host record, ∃ visits,
        (l.watched.stage.run input).run (host.withRecord record) =
          (((l.stage.run input).run host).1,
            ((l.stage.run input).run host).2.withRecord (record ++ visits)) ∧
        Begins readingInfo input
          (Accounted readingInfo [handOn "open" .stream, handOn "decode" .string]) visits
          ((l.stage.run input).run host).1 := by
  obtain ⟨l, hl⟩ : ∃ l,
      ofSteps readingInfo [handOn "open" .stream, handOn "decode" .string] = .ok l := ⟨_, rfl⟩
  exact ⟨l, hl, fun input host record => run_accounted hl input host record⟩

end Linear

end ArtifactPipeline
