import ArtifactPipeline.CommandStage
import ArtifactPipeline.Proofs.Emulation.Causes
import ArtifactPipeline.Proofs.Linear.Visits
import ArtifactPipeline.Proofs.Stage.Run

/-!
# The command of a command stage

A command stage is a pipe of one step, which runs one local command on the path that it is given.
Nothing else happens on the way: the path fits the parameter, the result is of the kind declared, and
the check at the end passes.

* `Shell.Runner.run_run` says what a run of a command does to the host, and why it fails;
* `CommandStage.run_stage` says that a run of the stage is such a run between notes.
-/

namespace ArtifactPipeline

open Emulation (announced run_announced)
open Shell (Runner)

variable {ε : Type}

/-- **A run of a local command** is noted, and does nothing to what lies outside. -/
theorem Shell.Runner.run_run (r : Runner) (line : CommandLine) (host : Host ε) :
    ∃ outcome after, (r.run line none).run host = (outcome, after) ∧
      after.outside = host.outside ∧ after.journal = host.journal ++ [Runner.commandEvent line] ∧
      ((∃ stdout, outcome = .done stdout) ∨ ∃ f, outcome = .failed f ∧ f.FromOutside) := by
  have hcarried : ∃ outcome after,
      (r.carryOut line none false).run host = (outcome, after) ∧
        after.outside = host.outside ∧
        after.journal = host.journal ++ [Runner.commandEvent line] ∧
        ((∃ result, outcome = .done result) ∨ ∃ f, outcome = .failed f ∧ f.FromOutside) := by
    rw [Action.run, Runner.carryOut]
    dsimp only [Runner.inputOf]
    split
    · exact ⟨_, _, rfl, rfl, rfl, .inr ⟨_, rfl, .io _⟩⟩
    · exact ⟨_, _, rfl, rfl, rfl, .inl ⟨_, rfl⟩⟩
  -- a command that was carried out and did not succeed is a failure as well
  obtain ⟨outcome, after, hrun, houtside, hjournal, hended⟩ := hcarried
  rw [Runner.run, Action.run_bind, hrun]
  rcases hended with ⟨result, rfl⟩ | ⟨f, rfl, hf⟩
  · by_cases hsuccess : result.ending.success
    · exact ⟨.done result.stdout, after, by simp only [hsuccess, if_pos]; rfl, houtside, hjournal,
        .inl ⟨_, rfl⟩⟩
    · exact ⟨.failed (.command line _), after, by simp only [hsuccess]; rfl, houtside, hjournal,
        .inr ⟨_, rfl, .command _ _⟩⟩
  · exact ⟨_, _, rfl, houtside, hjournal, .inr ⟨f, rfl, hf⟩⟩

namespace CommandStage

/-- The frame of the one step of a command stage, which was given a path. -/
def handed (s : Settings) (name : String) (host : Host ε) : Frame ε (signature s).parameters.length :=
  ⟨⟨#[some (.path name)], rfl⟩, host⟩

/-- The body of that step runs the command, and leaves the path where it is. -/
theorem run_body (s : Settings) (name : String) (host : Host ε) :
    (step s).body.run (handed s name host) =
      let ended := (s.runner.run (commandLine s name) none).run host
      (ended.1.map fun stdout => some (.stream (.ofBytes stdout)), handed s name ended.2) := by
  have hinput : (handed s name host).values[0]? = some (some (.path name)) := rfl
  change (Arguments.path (signature s) 0 >>= fun input =>
    Arguments.onHost (s.runner.run (commandLine s input) none) >>= fun stdout =>
      pure (some (Source.stream (.ofBytes stdout)))).run (handed s name host) = _
  rw [Action.run_bind, Arguments.run_path hinput]
  dsimp only
  rw [Action.run_bind, Arguments.run_onHost, handed]
  dsimp only
  rcases (s.runner.run (commandLine s name) none).run host with ⟨_ | _ | _, after⟩ <;> rfl

/-- A call of that step. The path fits, and the result is of the kind declared. -/
theorem run_invoke (s : Settings) (name : String) (host : Host ε) :
    ((step s).invoke [.path name]).run host =
      let ended := (announced s.exec (s.runner.run (commandLine s name) none)).run host
      (ended.1.map fun stdout => some (.stream (.ofBytes stdout)), ended.2) := by
  -- of what a call returns, a pipe leaves out the arguments that are left
  have hcall := @Step.run_call ε (step s) [some (.path name)] rfl rfl host
  have hinvoke : ((step s).invoke [.path name]).run host =
      let ended := (step s).body.run (handed s name (host.note (Step.startEvent s.exec)))
      let outcome := Step.checkOutcome (signature s) ended.1
      (outcome, Step.noteEnd s.exec outcome ended.2.host) :=
    congrArg (fun called => (called.1, called.2.2)) hcall
  rw [hinvoke, run_body, run_announced]
  rcases (s.runner.run (commandLine s name) none).run _ with ⟨_ | _ | _, after⟩ <;> rfl

/-- **A command stage is its command**, between the notes of its step: no conversion has anything
to do on the way. -/
theorem run_execute (s : Settings) (name : String) (host : Host ε) :
    ((linear s).execute (.path name)).run host =
      let ended := (announced s.exec (s.runner.run (commandLine s name) none)).run host
      (ended.1.map fun stdout => .stream (.ofBytes stdout), ended.2) := by
  have hpass : (Linear.pass ⟨step s, rfl, rfl⟩ (.path name)).run host =
      let ended := (announced s.exec (s.runner.run (commandLine s name) none)).run host
      (ended.1.map fun stdout => .stream (.ofBytes stdout), ended.2) := by
    have hone : (step s : Step ε).parameters = [⟨"input", .path⟩] := rfl
    rw [Linear.pass_eq ⟨step s, rfl, rfl⟩ hone, Linear.announce,
      if_neg (fun h => h rfl), Action.run_bind, Action.run_pure]
    dsimp only
    rw [Action.run_bind, Conversion.run_convertAction_of_accepts (by rfl)]
    dsimp only
    rw [Action.run_bind, run_invoke]
    rcases (announced s.exec _).run host with ⟨_ | _ | _, after⟩ <;> rfl
  change ((Linear.pass ⟨step s, rfl, rfl⟩ (.path name) >>= pure) >>= fun value =>
    Conversion.convertAction value .stream).run host = _
  rw [bind_pure, Action.run_bind, hpass]
  rcases (announced s.exec _).run host with ⟨_ | _ | _, after⟩
  · exact Conversion.run_convertAction_of_accepts (by rfl) after
  · rfl
  · rfl

/-- **A run of a command stage whose input converts** is its command, and the check at the end has
nothing to find. -/
theorem run_stage (s : Settings) {value : Source} {name : String} {host : Host ε}
    {files : FileSystem}
    (hconvert : Conversion.convert value .path host.files = (.ok (.path name), files)) :
    ((linear s).stage.run value).run host =
      let ended := (announced s.exec (s.runner.run (commandLine s name) none)).run
        (Stage.entered (info s) host files)
      let outcome := ended.1.map fun stdout => .stream (.ofBytes stdout)
      (outcome, Stage.noteEnd (info s) outcome ended.2) := by
  rw [Stage.run_of_converted (linear s).stage hconvert]
  change (let ended := ((linear s).execute (.path name)).run (Stage.entered (info s) host files)
    let outcome := Stage.checkOutcome (info s) ended.1
    (outcome, Stage.noteEnd (info s) outcome ended.2)) = _
  rw [run_execute]
  rcases (announced s.exec _).run _ with ⟨_ | _ | _, after⟩ <;> rfl

end CommandStage

end ArtifactPipeline
