import ArtifactPipeline.Step

/-!
# Stages

A stage turns an artifact in one state into one in another. Its `StageInfo` names the two states and
declares the kinds of its input and output. Running a stage converts the input to the kind declared,
executes the stage, and checks the kind of what comes out.

A *linear* stage is a pipe of steps with one parameter each (`Linear`): every step gets what the one
before it produced, converted by at most one hop. That each step has one parameter and a result is
part of the type, and `Linear.ofSteps` checks it.
-/

namespace ArtifactPipeline

/-- What a stage declares. -/
structure StageInfo where
  /-- The name under which the stage has its settings. -/
  name : String
  /-- The state of the artifacts that the stage takes. -/
  source : String
  /-- The state of the artifacts that the stage makes. -/
  target : String
  input : Kind
  output : Kind
  description : String := ""
deriving Repr, DecidableEq

namespace StageInfo

/-- A stage that is named after the state it makes. -/
def between (source target : String) (input output : Kind) : StageInfo :=
  ⟨target, source, target, input, output, ""⟩

/-- The same declaration with a description. -/
def describe (info : StageInfo) (description : String) : StageInfo := { info with description }

end StageInfo

/-- A way to turn an artifact in one state into one in another. -/
structure Stage (ε : Type) where
  info : StageInfo
  /-- What the stage does with an input of the kind declared. -/
  execute : Source → Action (Host ε) Source

namespace Stage

variable {ε : Type}

/-- The event at the start of a run. -/
def startEvent (info : StageInfo) : Event :=
  ⟨.info, "running stage",
    [("stage", info.name), ("from", info.source), ("to", info.target)], none⟩

/-- The event at the end of a run. -/
def endEvent (info : StageInfo) : Event := ⟨.info, "stage finished", [("stage", info.name)], none⟩

/-- Convert the input, execute the stage and check the output. -/
def run (stage : Stage ε) (input : Source) : Action (Host ε) Source := do
  Host.record (startEvent stage.info)
  let input ← Conversion.convertAction input stage.info.input
  let output ← stage.execute input
  if stage.info.output.accepts output.kind then
    Host.record (endEvent stage.info)
    return output
  else .fail (.resultKind stage.info.name stage.info.output output.kind)

end Stage

/-- A step can stand in a pipe when it has one parameter and a result. -/
def Step.Pipes {ε : Type} (step : Step ε) : Prop :=
  step.parameters.length = 1 ∧ step.result.isSome = true

/-- A step in a pipe has a first parameter. -/
theorem Step.Pipes.parameters_pos {ε : Type} {step : Step ε} (h : step.Pipes) :
    0 < step.parameters.length := by
  rw [h.1]
  exact Nat.one_pos

instance {ε : Type} (step : Step ε) : Decidable step.Pipes :=
  inferInstanceAs (Decidable (_ ∧ _))

/-- A pipe of steps. -/
structure Linear (ε : Type) where
  info : StageInfo
  steps : List { step : Step ε // step.Pipes }

namespace Linear

variable {ε : Type}

/-- The steps, if each can stand in a pipe. -/
def checkSteps (output : Kind) :
    List (Step ε) → Except Failure (List { step : Step ε // step.Pipes })
  | [] => .ok []
  | step :: steps =>
    if h : step.Pipes then (checkSteps output steps).map (⟨step, h⟩ :: ·)
    else if step.parameters.length = 1 then .error (.missingResult step.name output)
    else .error (.arity step.name 1 step.parameters.length)

/-- A pipe of the given steps. -/
def ofSteps (info : StageInfo) (steps : List (Step ε)) : Except Failure (Linear ε) :=
  (checkSteps info.output steps).map fun steps => ⟨info, steps⟩

/-- The event before a conversion between two steps. -/
def convertingEvent (step : String) (source target : Kind) : Event :=
  ⟨.debug, "converting",
    [("step", step), ("from", source.display), ("to", target.display)], none⟩

/-- Hand a value to a step. -/
def pass (step : { step : Step ε // step.Pipes }) (value : Source) : Action (Host ε) Source := do
  have one := step.property.parameters_pos
  let parameter := step.val.parameters[0]
  if value.kind ≠ parameter.kind then
    Host.record (convertingEvent step.val.name value.kind parameter.kind)
  let value ← Conversion.convertAction value parameter.kind
  match ← step.val.invoke [value] with
  | some result => return result
  | none => .fail (.missingResult step.val.name parameter.kind)

/-- Hand a value from step to step. -/
def passAll : List { step : Step ε // step.Pipes } → Source → Action (Host ε) Source
  | [], value => return value
  | step :: steps, value => do passAll steps (← pass step value)

/-- What the pipe does with its input. -/
def execute (l : Linear ε) (input : Source) : Action (Host ε) Source := do
  Conversion.convertAction (← passAll l.steps input) l.info.output

/-- The pipe as a stage. -/
def stage (l : Linear ε) : Stage ε := ⟨l.info, l.execute⟩

end Linear

end ArtifactPipeline
