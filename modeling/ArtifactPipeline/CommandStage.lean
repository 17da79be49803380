import ArtifactPipeline.Config.Context
import ArtifactPipeline.Shell.Runner
import ArtifactPipeline.Stage

/-!
# Command stages

A table of settings with the key `exec` makes a stage of its own: it runs a command on the path of
its input and streams what the command writes. The settings are the command, the state it takes, and
flags, which are one text or a list of texts (`flagsOf`).
-/

namespace ArtifactPipeline.CommandStage

open Config

/-- What a stage runs and what it declares. -/
structure Settings where
  name : String
  exec : String
  source : String
  flags : List String
  description : String
  runner : Shell.Runner
deriving Repr, DecidableEq

/-- The texts of a list of values, if all of them are texts. -/
def texts? (items : List Value) : Option (List String) := items.mapM Value.asString?

/-- The flags that a value gives. -/
def flagsOf : Option Value → Option (List String)
  | none => some []
  | some (.string text) => if Text.trimmed text = "" then some [] else some [Text.trimmed text]
  | some (.array items) => texts? items
  | some _ => none

/-- Read the settings of a stage. -/
def Settings.ofContext (c : Context) (name : String) : Except Failure Settings := do
  let exec ← c.require name "exec"
  let source ← c.require name "src"
  let flags ←
    match flagsOf (c.get? name "flags") with
    | some flags => .ok flags
    | none => .error (.missingSetting (name ++ ".flags (string or list of strings)"))
  let description := (c.getString? name "description").getD ("Runs " ++ exec)
  return { name, exec, source, flags, description, runner := ⟨c.verbosity⟩ }

/-- What the one step of the stage declares. -/
def signature (s : Settings) : Signature where
  name := s.exec
  description := "Run \x60" ++ s.exec ++ "\x60 on the input"
  parameters := [⟨"input", .path⟩]
  result := some .stream

/-- The command line for an input. -/
def commandLine (s : Settings) (input : String) : CommandLine :=
  .ofTokens (s.exec :: s.flags ++ [input])

variable {ε : Type}

/-- The one step of the stage. -/
def step (s : Settings) : Step ε where
  toSignature := signature s
  body := do
    let input ← Arguments.path (signature s) 0
    let stdout ← Arguments.onHost (s.runner.run (commandLine s input) none)
    return some (.stream (.ofBytes stdout))

/-- What the stage declares. -/
def info (s : Settings) : StageInfo :=
  (StageInfo.between s.source s.name .path .stream).describe s.description

/-- The stage as a pipe of one step. -/
def linear (s : Settings) : Linear ε := ⟨info s, [⟨step s, rfl, rfl⟩]⟩

/-- The stage of a table of settings. -/
def ofContext (c : Context) (name : String) : Except Failure (Stage ε) :=
  (Settings.ofContext c name).map fun s => (linear s).stage

end ArtifactPipeline.CommandStage
