import ArtifactPipeline.Stage

/-!
# Runs of stages

A run of a stage converts the input, executes the stage and checks the kind of what comes out, with
notes in between. Whoever knows what the input converts to reasons from one equation:
`Stage.run_of_converted` where it converts, and `Stage.run_of_unconverted` where it does not. What
the check makes of the outcome is `Stage.checkOutcome`.
-/

namespace ArtifactPipeline

variable {ε : Type}

namespace Conversion

/-- A conversion as part of a pipeline. -/
theorem run_convertAction (value : Source) (target : Kind) (host : Host ε) :
    (convertAction value target).run host =
      match convert value target host.files with
      | (.ok converted, files) => (.done converted, { host with files })
      | (.error cause, files) => (.failed (.conversion cause), { host with files }) := rfl

/-- A value that may stand where the kind is asked for is handed on. -/
theorem run_convertAction_of_accepts {value : Source} {target : Kind}
    (haccepts : target.accepts value.kind = true) (host : Host ε) :
    (convertAction value target).run host = (.done value, host) := by
  rw [run_convertAction, convert_of_accepts haccepts]

end Conversion

namespace Stage

/-- What a run makes of the end of the execution: the kind of what came out is checked. -/
def checkOutcome (info : StageInfo) : Outcome Source → Outcome Source
  | .done output =>
    if info.output.accepts output.kind then .done output
    else .failed (.resultKind info.name info.output output.kind)
  | outcome => outcome

theorem checkOutcome_eq_done_iff {info : StageInfo} {ended : Outcome Source} {output : Source} :
    checkOutcome info ended = .done output ↔
      ended = .done output ∧ info.output.accepts output.kind = true := by
  cases ended with
  | done made =>
    rw [checkOutcome]
    split
    · next haccepts =>
      refine ⟨fun h => ?_, fun h => h.1⟩
      obtain rfl := Outcome.done.inj h
      exact ⟨rfl, haccepts⟩
    · next haccepts =>
      refine ⟨fun h => (nomatch h), fun h => ?_⟩
      obtain rfl := Outcome.done.inj h.1
      exact absurd h.2 haccepts
  | failed f => simp [checkOutcome]
  | crashed => simp [checkOutcome]

/-- The end of a run that is done is written down. -/
def noteEnd (info : StageInfo) : Outcome Source → Host ε → Host ε
  | .done _, host => host.note (endEvent info)
  | _, host => host

@[simp] theorem files_noteEnd (info : StageInfo) (outcome : Outcome Source) (host : Host ε) :
    (noteEnd info outcome host).files = host.files := by
  cases outcome <;> rfl

@[simp] theorem outside_noteEnd (info : StageInfo) (outcome : Outcome Source) (host : Host ε) :
    (noteEnd info outcome host).outside = host.outside := by
  cases outcome <;> rfl

/-- The host on which a stage is executed, once its input has been converted. -/
def entered (info : StageInfo) (host : Host ε) (files : FileSystem) : Host ε :=
  { host.note (startEvent info) with files }

section Run

variable (stage : Stage ε) {value : Source} {host : Host ε} {files : FileSystem}

/-- **A run whose input converts** is an execution between two notes, with a check behind it. -/
theorem run_of_converted {input : Source}
    (hconvert : Conversion.convert value stage.info.input host.files = (.ok input, files)) :
    (stage.run value).run host =
      let ended := (stage.execute input).run (entered stage.info host files)
      let outcome := checkOutcome stage.info ended.1
      (outcome, noteEnd stage.info outcome ended.2) := by
  have hconverted := Conversion.run_convertAction value stage.info.input (host.note (startEvent stage.info))
  rw [Host.files_note, hconvert] at hconverted
  change (Conversion.convertAction value stage.info.input >>= fun input => _).run
    (host.note (startEvent stage.info)) = _
  rw [Action.run_bind, hconverted]
  dsimp only
  rw [Action.run_bind, ← entered]
  rcases (stage.execute input).run (entered stage.info host files) with
    ⟨output | f | _, after⟩
  · by_cases haccepts : stage.info.output.accepts output.kind = true
    · simp only [checkOutcome, if_pos haccepts]
      rfl
    · simp only [checkOutcome, if_neg haccepts]
      rfl
  · rfl
  · rfl

/-- **A run whose input does not convert** ends before the stage is executed. -/
theorem run_of_unconverted {cause : ConversionFailure}
    (hconvert : Conversion.convert value stage.info.input host.files = (.error cause, files)) :
    (stage.run value).run host =
      (.failed (.conversion cause), entered stage.info host files) := by
  have hfailed := Conversion.run_convertAction value stage.info.input (host.note (startEvent stage.info))
  rw [Host.files_note, hconvert] at hfailed
  change (Conversion.convertAction value stage.info.input >>= fun input => _).run
    (host.note (startEvent stage.info)) = _
  rw [Action.run_bind, hfailed]
  rfl

end Run

end Stage

end ArtifactPipeline
