import ArtifactPipeline.Route
import ArtifactPipeline.Stage

/-!
# Registries

A registry holds the stages that are known, in the order in which they were registered. A path from
one state to another is a chain of stages that follows a shortest route between the two, and running
a path hands the artifact from stage to stage until one fails.
-/

namespace ArtifactPipeline

/-- The stages that are known, in order of registration. -/
structure Registry (ε : Type) where
  stages : List (Stage ε) := []

namespace Registry

variable {ε : Type}

/-- The event after a registration. -/
def registeredEvent (info : StageInfo) : Event :=
  ⟨.debug, "registered stage",
    [("stage", info.name), ("from", info.source), ("to", info.target)], none⟩

/-- Add a stage, and note it. -/
def register (r : Registry ε) (stage : Stage ε) : Action (Host ε) (Registry ε) := do
  Host.record (registeredEvent stage.info)
  return ⟨r.stages ++ [stage]⟩

/-- The states that the stages connect. -/
def edges (r : Registry ε) : List Edge := r.stages.map fun s => ⟨s.info.source, s.info.target⟩

/-- A shortest chain of stages from one state to another. -/
def path (r : Registry ε) (source target : String) : Except Failure (List (Stage ε)) :=
  match Route.find? r.edges source target with
  | some route => .ok (route.filterMap fun i => r.stages[i]?)
  | none => .error (.noPath source target)

/-- The event before a path is run. -/
def pathEvent (source target : String) (stages : List (Stage ε)) : Event :=
  ⟨.info, "running stage path",
    [("from", source), ("to", target),
      ("stages", String.intercalate " -> " (stages.map fun s => s.info.name))], none⟩

/-- Hand an artifact from stage to stage. -/
def runStages : List (Stage ε) → Source → Action (Host ε) Source
  | [], value => return value
  | stage :: stages, value => do runStages stages (← stage.run value)

/-- Run the stages from one state to another. -/
def runPath (r : Registry ε) (source target : String) (input : Source) :
    Action (Host ε) Source := do
  let stages ← Action.ofExcept (r.path source target)
  Host.record (pathEvent source target stages)
  runStages stages input

end Registry

end ArtifactPipeline
