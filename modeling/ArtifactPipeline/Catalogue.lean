import ArtifactPipeline.CommandStage
import ArtifactPipeline.Emulation.Stage
import ArtifactPipeline.Registry

/-!
# The stages of a configuration

A configuration makes a registry: the emulation stage, which is always there, and then, in the order
of their names, a command stage for every other table of stage settings that has the key `exec`.
-/

namespace ArtifactPipeline.Catalogue

open Config Remote

variable {ε : Type}

/-- The names of the command stages of a configuration. -/
def commandNames (c : Context) : List String :=
  c.stageNames.filter fun name => name != Emulation.stageName && (c.get? name "exec").isSome

/-- Register a command stage for each name. -/
def registerCommands (c : Context) : List String → Registry ε → Action (Host ε) (Registry ε)
  | [], r => return r
  | name :: names, r => do
    let stage ← .ofExcept (CommandStage.ofContext c name)
    registerCommands c names (← r.register stage)

/-- The registry of a configuration. -/
def registry (b : Backend ε) (cancellable : Bool) (c : Context) :
    Action (Host ε) (Registry ε) := do
  let emulation ← .ofExcept (Emulation.stageOf b (Emulation.limitsOf c cancellable) c)
  let r ← Registry.register ⟨[]⟩ emulation
  registerCommands c (commandNames c) r

end ArtifactPipeline.Catalogue
