import ArtifactPipeline.Proofs.Emulation.Phase
import ArtifactPipeline.Proofs.Script.Round
import ArtifactPipeline.Proofs.Stage.Run

/-!
# The course of an emulation

The stage is a script: its session lies in a table, every step borrows it from there and puts it
back, and its release hangs on a list until something fails or the script ends. None of this shows
from outside. This file writes the stage down a second time without table, steps and list, as the
*course* of one run, and proves the two equal.

* `Simulates` relates the rest of a script to the rest of the work over the session, and has one
  lemma for each operation of the script: `Simulates.perform`, `Simulates.eval`, `Simulates.finish`;
* `execute_eq_course` is the result. What is proved about `course` holds of the stage.

The release is in one place only (`finishing`): after the work over the session, whichever way that
ended. A crash is the exception, since it releases nothing.
-/

namespace ArtifactPipeline.Emulation

open Remote
open Script (settle settle_of_pending_nil)

variable {ε α β : Type}

/-! ### The script while the session is open -/

/-- The table while the session is open: the kernel, the session, and what later steps made. -/
def held (kernel : String) (s : Session) (made : List Slot) : List Slot :=
  ⟨"input", some (.path kernel)⟩ :: ⟨"connect", some (.untyped (.session s))⟩ :: made

/-- **The script while the session is open.** The one release that is registered is the release of
the session. -/
def midway (b : Backend ε) (kernel : String) (s : Session) (made : List Slot) : Script ε :=
  ⟨info.name, held kernel s made, [⟨cleanup b, [1]⟩]⟩

/-- The same script when nothing is registered any more. -/
def relieved (kernel : String) (s : Session) (made : List Slot) : Script ε :=
  ⟨info.name, held kernel s made, []⟩

/-- Lending the session and taking it back changed puts the change into its slot. -/
theorem restore_lent_session {step : String} {slots after : List Slot} {refs : List Ref}
    {s : Session} {others : List Source}
    (hlend : Script.lend step slots (1 :: refs) = .ok (.untyped (.session s) :: others, after))
    (s' : Session) :
    Script.restore after (1 :: refs) (some (.untyped (.session s')) :: others.map some) =
      Script.assign slots 1 (some (.untyped (.session s'))) := by
  -- restoring what was lent gives the table back, and the session is written over it
  have hback := Script.restore_lend hlend
  rw [Script.lend] at hlend
  split at hlend
  · simp at hlend
  · split at hlend
    · simp at hlend
    · next htaken _ _ _ hrest =>
      obtain ⟨-, rfl⟩ := Script.takeSlot_eq_ok_iff.mp htaken
      have hfresh : 1 ∉ refs := Script.not_mem_of_lend hrest
      rw [Except.ok.injEq, Prod.mk.injEq] at hlend
      obtain ⟨hsources, rfl⟩ := hlend
      simp only [List.map_cons, Script.restore] at hback ⊢
      rw [Script.restore_assign _ hfresh] at hback ⊢
      rw [← hback, Script.assign_assign]

/-- Applying a step to the session and further values is a phase over the session. -/
theorem run_apply {step : Step ε} {others : List Source} {x : Action (Session × Host ε) α}
    {emit : α → Option Source} (hacts : ActsAs step others x emit) (script : Script ε)
    {refs : List Ref} {after : List Slot} {s : Session}
    (hlend : Script.lend step.name script.slots (1 :: refs) =
      .ok (.untyped (.session s) :: others, after)) (host : Host ε) :
    (Script.apply step (1 :: refs)).run (script, host) =
      let ended := (phase step.name x).run (s, host)
      (ended.1.map emit,
        ({ script with
            slots := Script.assign script.slots 1 (some (.untyped (.session ended.2.1))) },
          ended.2.2)) := by
  rw [Action.run, Script.apply, hlend]
  simp only [List.map_cons, hacts s host]
  rw [restore_lent_session hlend]

/-- Releasing a session never crashes. -/
theorem releaseSession_ne_crashed (b : Backend ε) (s : Session) (host : Host ε) :
    ((releaseSession b).run (s, host)).1 ≠ .crashed := by
  rw [Action.run, releaseSession]
  rcases Session.release b s host with ⟨_ | _, state⟩ <;> simp

/-- The session and the host after the release, which is noted when it fails. -/
def settled (b : Backend ε) (s : Session) (host : Host ε) : Session × Host ε :=
  let ended := (phase "cleanup" (releaseSession b)).run
    (s, host.note (Script.releaseEvent info.name "cleanup"))
  match ended.1 with
  | .failed f => (ended.2.1, ended.2.2.note (Script.releaseFailedEvent info.name "cleanup" f))
  | .done _ | .crashed => ended.2

/-- **The round of releases while the session is open.** It releases the session, and nothing is
registered afterwards. -/
theorem run_releaseAll_midway (b : Backend ε) (kernel : String) (s : Session) (made : List Slot)
    (host : Host ε) :
    Script.releaseAll.run (midway b kernel s made, host) =
      (.done (), (relieved kernel (settled b s host).1 made, (settled b s host).2)) := by
  have hname : (cleanup b).name = "cleanup" := rfl
  have hstage : (relieved kernel s made : Script ε).stage = info.name := rfl
  have hlend : Script.lend (cleanup b).name (relieved kernel s made : Script ε).slots [1] =
      .ok ([.untyped (.session s)], Script.assign (held kernel s made) 1 none) := rfl
  have hsafe := releaseSession_ne_crashed b s
    ((host.note (Script.releaseEvent info.name "cleanup")).note (Step.startEvent "cleanup"))
  -- one release is registered, and it finds the session in its slot
  change Script.release [⟨cleanup b, [1]⟩] (relieved kernel s made, host) = _
  rw [Script.release]
  simp only [run_apply (actsAs_cleanup b) _ hlend, settled, hname, hstage, run_phase]
  generalize (releaseSession b).run _ = ended at hsafe ⊢
  rcases ended with ⟨_ | _ | _, s', host'⟩
  · rfl
  · rfl
  · exact absurd rfl hsafe

/-! ### Simulation -/

/-- What the end of the work over a session leads to: the session is released. -/
def finishing (b : Backend ε) : Outcome Source × (Session × Host ε) → Outcome Source × Host ε
  | (.crashed, (_, host)) => (.crashed, host)
  | (outcome, (s, host)) => (outcome, (settled b s host).2)

/-- **Simulation.** The rest of a script, begun while the session is open and some values have been
made, comes to the same as the rest of the work over the session. -/
def Simulates (b : Backend ε) (kernel : String) (made : List Slot)
    (body : Action (Script ε × Host ε) Source) (work : Action (Session × Host ε) Source) : Prop :=
  ∀ s host, settle (body.run (midway b kernel s made, host)) = finishing b (work.run (s, host))

/-- A failed operation releases the session, and the runner finds nothing left to do. -/
theorem settle_releasingOnFailure {b : Backend ε} {kernel : String} {s : Session} {made : List Slot}
    {host : Host ε} {f : Failure} {op : Action (Script ε × Host ε) α}
    {start : Script ε × Host ε} (hop : op.run start = (.failed f, (midway b kernel s made, host)))
    (body : α → Action (Script ε × Host ε) Source) :
    settle ((Script.releasingOnFailure op >>= body).run start) =
      (.failed f, (settled b s host).2) := by
  have hround : (Script.releasingOnFailure op).run start =
      (.failed f, (relieved kernel (settled b s host).1 made, (settled b s host).2)) := by
    rw [Script.run_releasingOnFailure, hop]
    simp only [run_releaseAll_midway]
  rw [Action.run_bind, hround]
  exact settle_of_pending_nil rfl

/-- A crash releases nothing. -/
theorem run_releasingOnFailure_crashed {op : Action (Script ε × Host ε) α}
    {start state : Script ε × Host ε} (hop : op.run start = (.crashed, state)) :
    (Script.releasingOnFailure op).run start = (.crashed, state) := by
  rw [Script.run_releasingOnFailure, hop]

theorem run_releasingOnFailure_done {op : Action (Script ε × Host ε) α} {a : α}
    {start state : Script ε × Host ε} (hop : op.run start = (.done a, state)) :
    (Script.releasingOnFailure op).run start = (.done a, state) := by
  rw [Script.run_releasingOnFailure, hop]

section Operations

variable {b : Backend ε} {kernel : String} {made : List Slot} {step : Step ε}
  {others : List Source} {x : Action (Session × Host ε) α} {emit : α → Option Source}
  {refs : List Ref}

/-- The references lead to the session and to the further arguments, whatever the session is. -/
def Lends (step : Step ε) (kernel : String) (made : List Slot) (refs : List Ref)
    (others : List Source) : Prop :=
  ∀ s, ∃ after, Script.lend step.name (held kernel s made) (1 :: refs) =
    .ok (.untyped (.session s) :: others, after)

theorem run_apply_midway (hacts : ActsAs step others x emit)
    (hlends : Lends step kernel made refs others) (s : Session) (host : Host ε) :
    (Script.apply step (1 :: refs)).run (midway b kernel s made, host) =
      let ended := (phase step.name x).run (s, host)
      (ended.1.map emit, (midway b kernel ended.2.1 made, ended.2.2)) := by
  obtain ⟨after, hlend⟩ := hlends s
  rw [run_apply hacts (midway b kernel s made) hlend]
  rfl

/-- **One operation.** An operation applies a step and goes on with the result. It simulates a phase
when it is done wherever the phase is, and the rest of the script simulates the rest of the work. -/
theorem Simulates.of_apply (hacts : ActsAs step others x emit)
    (hlends : Lends step kernel made refs others)
    {record : Option Source → Action (Script ε × Host ε) β}
    {body : β → Action (Script ε × Host ε) Source}
    {work : α → Action (Session × Host ε) Source} {made' : α → List Slot} {c : α → β}
    (hrecord : ∀ a s host, (record (emit a)).run (midway b kernel s made, host) =
      (.done (c a), (midway b kernel s (made' a), host)))
    (hnext : ∀ a, Simulates b kernel (made' a) (body (c a)) (work a)) :
    Simulates b kernel made
      (Script.releasingOnFailure (Script.apply step (1 :: refs) >>= record) >>= body)
      (phase step.name x >>= work) := by
  intro s host
  -- the application is the phase, so the end of the phase decides
  have happly := run_apply_midway (b := b) hacts hlends s host
  rw [Action.run_bind (phase step.name x)]
  generalize (phase step.name x).run (s, host) = ended at happly ⊢
  obtain ⟨outcome, s', host'⟩ := ended
  cases outcome with
  | done a =>
    have hop : (Script.apply step (1 :: refs) >>= record).run (midway b kernel s made, host) =
        (.done (c a), (midway b kernel s' (made' a), host')) := by
      rw [Action.run_bind, happly]
      exact hrecord a s' host'
    rw [Action.run_bind, run_releasingOnFailure_done hop]
    exact hnext a s' host'
  | failed f =>
    have hop : (Script.apply step (1 :: refs) >>= record).run (midway b kernel s made, host) =
        (.failed f, (midway b kernel s' made, host')) := by
      rw [Action.run_bind, happly]
      rfl
    exact settle_releasingOnFailure hop body
  | crashed =>
    have hop : (Script.apply step (1 :: refs) >>= record).run (midway b kernel s made, host) =
        (.crashed, (midway b kernel s' made, host')) := by
      rw [Action.run_bind, happly]
      rfl
    rw [Action.run_bind, run_releasingOnFailure_crashed hop]
    rfl

/-- A step that is applied for its effect is a phase whose result nobody wants. -/
theorem Simulates.perform (hacts : ActsAs step others x emit)
    (hlends : Lends step kernel made refs others) {body : Action (Script ε × Host ε) Source}
    {work : α → Action (Session × Host ε) Source}
    (hnext : ∀ a, Simulates b kernel made body (work a)) :
    Simulates b kernel made (Script.perform step (1 :: refs) >>= fun _ => body)
      (phase step.name x >>= work) :=
  Simulates.of_apply hacts hlends (fun _ _ _ => rfl) hnext

/-- A step that is applied for its value adds the value to what has been made. -/
theorem Simulates.eval {value : α → Source} (hacts : ActsAs step others x fun a => some (value a))
    (hlends : Lends step kernel made refs others) {body : Ref → Action (Script ε × Host ε) Source}
    {work : α → Action (Session × Host ε) Source}
    (hnext : ∀ a, Simulates b kernel (made ++ [⟨step.name, some (value a)⟩])
      (body (made.length + 2)) (work a)) :
    Simulates b kernel made (Script.eval step (1 :: refs) >>= body) (phase step.name x >>= work) :=
  Simulates.of_apply hacts hlends (fun _ _ _ => rfl) hnext

end Operations

/-- The script ends with a value that has been made, and the work with the same value. -/
theorem Simulates.finish {b : Backend ε} {kernel : String} {made : List Slot} {i : Nat}
    {name : String} {output : Source} {expected : Kind}
    (hmade : made[i]? = some ⟨name, some output⟩) (hkind : expected.accepts output.kind = true) :
    Simulates b kernel made (Script.finish (i + 2) expected) (pure output) := by
  intro s host
  -- the output stands behind the input and the session
  have htake : Script.takeSlot info.name (held kernel s made) (i + 2) =
      .ok (output, held kernel s (Script.assign made i none)) :=
    Script.takeSlot_eq_ok_iff.mpr ⟨⟨name, hmade⟩, rfl⟩
  have hrun : (Script.finish (i + 2) expected).run (midway b kernel s made, host) =
      (.done output, (relieved kernel (settled b s host).1 (Script.assign made i none),
        (settled b s host).2)) := by
    have hround := run_releaseAll_midway b kernel s (Script.assign made i none) host
    rw [midway] at hround
    rw [Action.run, Script.finish]
    simp only [midway, htake, hround, if_pos hkind]
  rw [hrun, settle_of_pending_nil rfl]
  rfl

/-! ### The course -/

/-- **The work over the session**, from the provisioning of the workspace to the waveforms. -/
def work (b : Backend ε) (settings : Settings) (limits : Limits) (kernel : String) :
    Action (Session × Host ε) Source := do
  let workspace ← phase "provision_remote_dir" (Session.provision b)
  let _ ← phase "upload" (uploaded b settings workspace kernel)
  let _ ← phase "compile_remote" (commanded b limits (settings.toolchain.compileCommand workspace))
  let _ ← phase "generate_device_config"
    (commanded b limits (settings.toolchain.deviceConfigCommand workspace))
  let _ ← phase "run_emulation" (commanded b limits (settings.toolchain.emulateCommand workspace))
  let waveforms ← phase "download_artifact" (overSession (downloaded b settings workspace))
  return .stream waveforms

/-- Work over a connection that was just opened, and the release of the session after it. -/
def released (b : Backend ε) (x : Action (Session × Host ε) Source) (connection : Nat) :
    Action (Host ε) Source := fun host =>
  finishing b (x.run (⟨connection, none⟩, host))

/-- **The course of a run.** The settings are asked for, the connection is opened, the work over the
session is done, and the session is released whichever way that ended. -/
def course (b : Backend ε) (settings : Settings) (limits : Limits) (kernel : String) :
    Action (Host ε) Source := do
  announced "check_config" (checked settings)
  let connection ← announced "connect" (opened b settings)
  released b (work b settings limits kernel) connection

/-- The course is its opening, and then the work with the release. -/
theorem course_eq (b : Backend ε) (settings : Settings) (limits : Limits) (kernel : String) :
    course b settings limits kernel =
      (announced "check_config" (checked settings) >>= fun _ =>
        announced "connect" (opened b settings)) >>=
      released b (work b settings limits kernel) := by
  rw [course, bind_assoc]

/-- The script over the session simulates the work, operation by operation. -/
theorem simulates_work (b : Backend ε) (settings : Settings) (limits : Limits) (kernel : String) :
    Simulates b kernel [] (do
        let workspace ← Script.eval (provision b) [1]
        Script.perform (upload b settings) [1, workspace, Script.input]
        Script.perform (compile b settings limits) [1, workspace]
        Script.perform (configureDevice b settings limits) [1, workspace]
        Script.perform (emulate b settings limits) [1, workspace]
        let waveforms ← Script.eval (download b settings) [1, workspace]
        Script.finish waveforms info.output)
      (work b settings limits kernel) := by
  -- each operation lends the session and what was made before, which is there by computation
  refine Simulates.eval (actsAs_provision b) (fun _ => ⟨_, rfl⟩) fun workspace => ?_
  refine Simulates.perform (actsAs_upload b settings workspace kernel)
    (fun _ => ⟨_, rfl⟩) fun _ => ?_
  refine Simulates.perform (actsAs_workspaceCommand b limits _ _ _ workspace)
    (fun _ => ⟨_, rfl⟩) fun _ => ?_
  refine Simulates.perform (actsAs_workspaceCommand b limits _ _ _ workspace)
    (fun _ => ⟨_, rfl⟩) fun _ => ?_
  refine Simulates.perform (actsAs_workspaceCommand b limits _ _ _ workspace)
    (fun _ => ⟨_, rfl⟩) fun _ => ?_
  refine Simulates.eval (actsAs_download b settings workspace)
    (fun _ => ⟨_, rfl⟩) fun waveforms => ?_
  exact Simulates.finish (i := 1) rfl rfl

/-! ### Before the session is open -/

/-- Applying a step without parameters leaves the table as it is. -/
theorem run_apply_alone {step : Step ε} {x : Action (Host ε) α} {emit : α → Option Source}
    (halone : ActsAlone step x emit) (script : Script ε) (host : Host ε) :
    (Script.apply step []).run (script, host) =
      let ended := (announced step.name x).run host
      (ended.1.map emit, (script, ended.2)) := by
  rw [Action.run, Script.apply, Script.lend]
  simp only [List.map_nil, halone host]
  rfl

/-- A failure before anything is registered releases nothing. -/
theorem settle_releasingOnFailure_unregistered {op : Action (Script ε × Host ε) α}
    {start : Script ε × Host ε} {script : Script ε} {host : Host ε} {f : Failure}
    (hop : op.run start = (.failed f, (script, host))) (hpending : script.pending = [])
    (body : α → Action (Script ε × Host ε) Source) :
    settle ((Script.releasingOnFailure op >>= body).run start) = (.failed f, host) := by
  have hround : (Script.releasingOnFailure op).run start =
      (.failed f, ({ script with pending := [] }, host)) := by
    rw [Script.run_releasingOnFailure, hop]
    simp only [Action.run, Script.releaseAll, hpending]
    rfl
  rw [Action.run_bind, hround]
  exact settle_of_pending_nil rfl

/-- Begun before the session is open, an operation that applies a step without parameters comes to
the same as the announced action, when the rest of the script does. -/
theorem settle_apply_alone {step : Step ε} {x : Action (Host ε) α} {emit : α → Option Source}
    (halone : ActsAlone step x emit) {script : Script ε} (hpending : script.pending = [])
    {record : Option Source → Action (Script ε × Host ε) β}
    {body : β → Action (Script ε × Host ε) Source} {rest : α → Action (Host ε) Source}
    (hnext : ∀ a host, settle ((record (emit a) >>= body).run (script, host)) = (rest a).run host)
    (hrecord : ∀ a host, ∃ c state, (record (emit a)).run (script, host) = (.done c, state))
    (host : Host ε) :
    settle ((Script.releasingOnFailure (Script.apply step [] >>= record) >>= body).run
      (script, host)) = (announced step.name x >>= rest).run host := by
  -- nothing is registered yet, so a failure or a crash leaves nothing to settle
  have happly := run_apply_alone halone script host
  rw [Action.run_bind (announced step.name x)]
  generalize (announced step.name x).run host = ended at happly ⊢
  obtain ⟨outcome, host'⟩ := ended
  cases outcome with
  | done a =>
    obtain ⟨c, state, hdone⟩ := hrecord a host'
    have hop : (Script.apply step [] >>= record).run (script, host) = (.done c, state) := by
      rw [Action.run_bind, happly]
      exact hdone
    rw [Action.run_bind, run_releasingOnFailure_done hop]
    have hrest := hnext a host'
    rw [Action.run_bind, hdone] at hrest
    exact hrest
  | failed f =>
    refine settle_releasingOnFailure_unregistered ?_ hpending body
    rw [Action.run_bind, happly]
    rfl
  | crashed =>
    have hop : (Script.apply step [] >>= record).run (script, host) =
        (.crashed, (script, host')) := by
      rw [Action.run_bind, happly]
      rfl
    rw [Action.run_bind, run_releasingOnFailure_crashed hop]
    rfl

/-- **The stage runs the course.** Executed on a kernel file, the script of the stage does to the
host what the course does, and comes to the same outcome. -/
theorem execute_eq_course (b : Backend ε) (settings : Settings) (limits : Limits)
    (kernel : String) :
    (stage b settings limits).execute (.path kernel) = course b settings limits kernel := by
  funext host
  change settle ((body b settings limits).run (Script.start info.name (.path kernel), host)) =
    (course b settings limits kernel).run host
  -- the two steps before the session, and then the simulation
  refine settle_apply_alone (actsAlone_checkConfig settings) rfl ?_ (fun _ _ => ⟨_, _, rfl⟩) host
  intro _ host
  refine settle_apply_alone (actsAlone_connect b settings) rfl ?_ (fun _ _ => ⟨_, _, rfl⟩) host
  intro connection host
  exact simulates_work b settings limits kernel ⟨connection, none⟩ host

/-! ### Runs of the stage -/

/-- What the stage hands out of an outcome: only a stream passes. -/
def delivered : Outcome Source → Outcome Source
  | .done output =>
    if info.output.accepts output.kind then .done output
    else .failed (.resultKind info.name info.output output.kind)
  | outcome => outcome

/-- The host on which the stage begins, once its input has been converted. -/
def begun (host : Host ε) (files : FileSystem) : Host ε :=
  { host.note (Stage.startEvent info) with files }

section Converted

variable (b : Backend ε) (settings : Settings) (limits : Limits) {input : Source} {kernel : String}
  {host : Host ε} {files : FileSystem}
  (hconvert : Conversion.convert input info.input host.files = (.ok (.path kernel), files))

include hconvert

/-- **A run whose input converts to a kernel file** is the course of that file, with notes around
it. The check of the stage comes after the release and cannot undo it. -/
theorem run_stage_eq :
    ((stage b settings limits).run input).run host =
      let ended := (course b settings limits kernel).run (begun host files)
      (delivered ended.1, Stage.noteEnd info (delivered ended.1) ended.2) := by
  rw [Stage.run_of_converted (stage b settings limits) hconvert, execute_eq_course]
  rfl

theorem run_stage :
    (((stage b settings limits).run input).run host).1 =
        delivered ((course b settings limits kernel).run (begun host files)).1 ∧
      (((stage b settings limits).run input).run host).2.outside =
        ((course b settings limits kernel).run (begun host files)).2.outside := by
  rw [run_stage_eq b settings limits hconvert]
  exact ⟨rfl, Stage.outside_noteEnd _ _ _⟩

/-- Neither do the notes around the course touch the files. -/
theorem files_run_stage :
    (((stage b settings limits).run input).run host).2.files =
      ((course b settings limits kernel).run (begun host files)).2.files := by
  rw [run_stage_eq b settings limits hconvert]
  exact Stage.files_noteEnd _ _ _

end Converted

/-- A run whose input does not convert fails before the stage begins. -/
theorem run_stage_of_unconverted (b : Backend ε) (settings : Settings) (limits : Limits)
    {input : Source} {host : Host ε} {cause : ConversionFailure} {files : FileSystem}
    (hconvert : Conversion.convert input info.input host.files = (.error cause, files)) :
    ((stage b settings limits).run input).run host =
      (.failed (.conversion cause), begun host files) :=
  Stage.run_of_unconverted (stage b settings limits) hconvert

/-- What converts to a kernel file is the name of a file. -/
theorem exists_path_of_convert {input converted : Source} {fs files : FileSystem}
    (hconvert : Conversion.convert input info.input fs = (.ok converted, files)) :
    ∃ kernel, converted = .path kernel := by
  have hkind := Conversion.kind_of_convert hconvert
  cases converted with
  | path kernel => exact ⟨kernel, rfl⟩
  | _ => cases hkind

/-- The name of a kernel file is left as it is. -/
theorem convert_path (kernel : String) (files : FileSystem) :
    Conversion.convert (.path kernel) info.input files = (.ok (.path kernel), files) :=
  Conversion.convert_of_accepts rfl files

end ArtifactPipeline.Emulation
