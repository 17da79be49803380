import ArtifactPipeline.Step
import Mathlib.Data.List.Forall2

/-!
# Calls whose arguments fit

`Step.call` checks the arguments before the body and the result after it. A caller that knows that
its arguments fit reasons from one equation instead, `Step.run_call`: the start of the body is
noted, the body runs, the result is checked, and the end is noted as far as there is anything to
note (`Step.noteEnd`). What it means to fit is `Parameter.Fits`, value by value
(`Signature.checkEach_eq_ok_iff`).

The last part says what the accessors of a body give on a frame that holds the right argument at
the position asked for. A body is then run by rewriting, one accessor after another.
-/

namespace ArtifactPipeline

variable {ε α β : Type}

/-! ### Arguments that fit -/

/-- A value fits a parameter when it is there and of a kind that the parameter accepts. -/
def Parameter.Fits (p : Parameter) (value : Option Source) : Prop :=
  ∃ source, value = some source ∧ p.accepts source.kind = true

@[simp] theorem Parameter.fits_some_iff {p : Parameter} {source : Source} :
    p.Fits (some source) ↔ p.accepts source.kind = true := by
  constructor
  · rintro ⟨_, h, haccepts⟩
    rw [Option.some.inj h]
    exact haccepts
  · exact fun haccepts => ⟨source, rfl, haccepts⟩

@[simp] theorem Parameter.not_fits_none {p : Parameter} : ¬p.Fits none := by
  rintro ⟨_, h, -⟩
  cases h

/-- Values that fit are all there. -/
theorem Parameter.exists_sources_of_fits {parameters : List Parameter}
    {values : List (Option Source)} (hfits : List.Forall₂ Fits parameters values) :
    ∃ sources : List Source, values = sources.map some := by
  induction hfits with
  | nil => exact ⟨[], rfl⟩
  | cons hfit _ ih =>
    obtain ⟨source, rfl, -⟩ := hfit
    obtain ⟨sources, rfl⟩ := ih
    exact ⟨source :: sources, rfl⟩

/-- Checking arguments one by one succeeds exactly when each fits. -/
theorem Signature.checkEach_eq_ok_iff (step : String) {parameters : List Parameter}
    {values : List (Option Source)} (hlength : values.length = parameters.length) :
    checkEach step parameters values = .ok () ↔
      List.Forall₂ Parameter.Fits parameters values := by
  induction parameters generalizing values with
  | nil =>
    obtain rfl := List.length_eq_zero_iff.mp hlength
    exact ⟨fun _ => .nil, fun _ => rfl⟩
  | cons p ps ih =>
    cases values with
    | nil => cases hlength
    | cons value values =>
      have hrest := ih (Nat.succ.inj hlength)
      rw [List.forall₂_cons]
      cases value with
      | none => simp [checkEach]
      | some source =>
        rw [checkEach, Parameter.fits_some_iff]
        -- the check goes on behind a value that fits, and stops at one that does not
        by_cases haccepts : p.accepts source.kind = true
        · rw [if_pos haccepts, hrest]
          exact ⟨fun h => ⟨haccepts, h⟩, And.right⟩
        · rw [if_neg haccepts]
          simp [haccepts]

/-! ### Calls -/

namespace Step

/-- The end of a body is written down, unless the body crashed. -/
def noteEnd (name : String) (outcome : Outcome α) (host : Host ε) : Host ε :=
  match endEvent name outcome with
  | some event => host.note event
  | none => host

@[simp] theorem files_noteEnd (name : String) (outcome : Outcome α) (host : Host ε) :
    (noteEnd name outcome host).files = host.files := by
  cases outcome <;> rfl

@[simp] theorem outside_noteEnd (name : String) (outcome : Outcome α) (host : Host ε) :
    (noteEnd name outcome host).outside = host.outside := by
  cases outcome <;> rfl

/-- **A call whose arguments fit.** It runs the body between two notes and checks what comes out. -/
theorem run_call {step : Step ε} {values : List (Option Source)}
    (hlength : values.length = step.parameters.length)
    (hfits : Signature.checkEach step.name step.parameters values = .ok ()) (host : Host ε) :
    step.call.run (values, host) =
      let ended := step.body.run
        ⟨⟨values.toArray, by simpa using hlength⟩, host.note (startEvent step.name)⟩
      let outcome := checkOutcome step.toSignature ended.1
      (outcome, (ended.2.values.toList, noteEnd step.name outcome ended.2.host)) := by
  rw [Action.run, call]
  simp only [hfits, dif_pos hlength]
  rfl

end Step

/-! ### Accessors -/

namespace Arguments

variable {n : Nat} {s : Signature} {frame : Frame ε n} {i : Nat}

/-- Looking at an argument that is there. -/
theorem run_get {source : Source} (hi : frame.values[i]? = some (some source)) :
    (get s i).run frame = (.done source, frame) := by
  change (Outcome.ofExcept (peek s frame.values i), frame) = _
  rw [peek, hi]
  rfl

theorem run_text {text : String} (hi : frame.values[i]? = some (some (.string text))) :
    (Arguments.text s i).run frame = (.done text, frame) := by
  rw [Arguments.text, Action.run_bind, run_get hi]
  rfl

theorem run_path {name : String} (hi : frame.values[i]? = some (some (.path name))) :
    (Arguments.path s i).run frame = (.done name, frame) := by
  rw [Arguments.path, Action.run_bind, run_get hi]
  rfl

theorem run_onHost (x : Action (Host ε) β) (frame : Frame ε n) :
    (onHost x).run frame =
      ((x.run frame.host).1, { frame with host := (x.run frame.host).2 }) := rfl

/-- Working on a payload of the right type puts what is left of it back in its place. -/
theorem run_withPayload {t : PayloadType α} {a : α} (x : Action (α × Host ε) β)
    (hi : frame.values[i]? = some (some (.untyped (t.wrap a)))) :
    (withPayload t s i x).run frame =
      let ended := x.run (a, frame.host)
      (ended.1,
        ⟨frame.values.setIfInBounds i (some (.untyped (t.wrap ended.2.1))), ended.2.2⟩) := by
  have hpeek : peek s frame.values i = .ok (.untyped (t.wrap a)) := by rw [peek, hi]
  rw [Action.run, withPayload, within, hpeek]
  -- what is left is the projection of the payload, which finds what the wrapping put there
  simp only [bind, Except.bind, Source.asPayload?, t.unwrap_wrap]

end Arguments

end ArtifactPipeline
