import ArtifactPipeline.Proofs.Emulation.Calls
import ArtifactPipeline.Proofs.Remote.Invariant

/-!
# Invariants of an emulation

An emulation acts on the outside world in sessions, and so through its backend alone. On the local
files it acts itself, once: it makes the directory to which the waveforms are fetched. What every
operation of the backend keeps true, and the new directory with them, is therefore true after a run
of the stage if it was true before, wherever the run broke off (`keeps_run`). Up to the download and
from the release on, the directory plays no part (`keeps_opening`, `keeps_prepared`, `keeps_settled`).
-/

namespace ArtifactPipeline.Emulation

open Remote

variable {ε α : Type} {I : FileSystem → ε → Prop}

theorem keeps_announced {x : Action (Host ε) α} (hx : x.Keeps (On I)) (name : String) :
    (announced name x).Keeps (On I) := by
  intro host h
  rw [run_announced, On, Step.outside_noteEnd, Step.files_noteEnd]
  exact hx _ h

theorem keeps_phase {x : Action (Session × Host ε) α} (hx : x.Keeps fun state => On I state.2)
    (name : String) : (phase name x).Keeps fun state => On I state.2 := by
  intro (s, host) h
  rw [run_phase, On, Step.outside_noteEnd, Step.files_noteEnd]
  exact hx (s, host.note (Step.startEvent name)) h

theorem keeps_overSession {f : Session → Action (Host ε) α} (hf : ∀ s, (f s).Keeps (On I)) :
    (overSession f).Keeps fun state => On I state.2 :=
  fun (s, host) h => hf s host h

/-- A property that a new temporary directory does not disturb. -/
def AdmitsDirectory (I : FileSystem → ε → Prop) : Prop :=
  ∀ files e l, files.freshLocation Conversion.temporaryBeginning = .ok l → I files e →
    I (files.addDirectory l) e

theorem keeps_temporaryDirectory (hdirectory : AdmitsDirectory I) :
    (Host.onFiles temporaryDirectory).Keeps (On I) := by
  refine keeps_onFiles fun files e a files' hmade h => ?_
  rw [temporaryDirectory] at hmade
  cases hfresh : files.freshLocation Conversion.temporaryBeginning with
  | error fault =>
    rw [hfresh] at hmade
    cases hmade
  | ok l =>
    rw [hfresh] at hmade
    obtain ⟨-, rfl⟩ := Prod.mk.inj (Except.ok.inj hmade)
    exact hdirectory files e l hfresh h

theorem keeps_openFile (path : String) : (Host.onFiles (openFile path)).Keeps (On I) :=
  keeps_onFiles fun _ _ _ _ hopen h => files_openFile hopen ▸ h

section Backend

variable {b : Backend ε} (hb : b.Keeps I) (settings : Settings) (limits : Limits) (kernel : String)

include hb

/-- Asking for the settings and opening the connection. -/
theorem keeps_opening :
    (announced "check_config" (checked settings) >>= fun _ =>
      announced "connect" (opened b settings)).Keeps (On I) := by
  have hchecked : (checked settings).Keeps (On I) :=
    (Action.keeps_ofExcept _).bind fun _ =>
      (Action.keeps_ofExcept _).bind fun _ => Action.keeps_pure _
  have hopened : (opened b settings).Keeps (On I) :=
    (Action.keeps_ofExcept _).bind fun target => Session.keeps_lift (hb.connect target)
  exact (keeps_announced hchecked _).bind fun _ => keeps_announced hopened _

/-- The work in a workspace before the download. -/
theorem keeps_prepared (hostProgram workspace : String) (s : Session) :
    (prepared b settings limits kernel hostProgram workspace s).Keeps (On I) := by
  have hupload := (Session.keeps_put hb s kernel (workspace ++ "/kernel.xclbin")).bind fun _ =>
    (Session.keeps_put hb s hostProgram (workspace ++ "/host.cpp")).bind fun _ =>
      Session.keeps_put hb s settings.runtimeConfig (workspace ++ "/xrt.ini")
  have hcommand : ∀ name command, (announced name
      (Session.runLogged b s command limits)).Keeps (On I) :=
    fun name command => keeps_announced (Session.keeps_runLogged hb s command limits) name
  exact (keeps_announced hupload _).bind fun _ => (hcommand _ _).bind fun _ =>
    (hcommand _ _).bind fun _ => hcommand _ _

/-- The release. -/
theorem keeps_settled (s : Session) (host : Host ε) (h : On I host) :
    On I (settled b s host).2 := by
  obtain ⟨begun, hfiles, houtside, hsettledFiles, hsettled⟩ := exists_release_of_settled b s host
  rw [On, hsettled, hsettledFiles]
  refine Session.keeps_release hb s begun ?_
  rw [On, hfiles, houtside]
  exact h

/-- The work over a session. -/
theorem keeps_work (hget : b.KeepsFetching I) (hdirectory : AdmitsDirectory I) :
    (work b settings limits kernel).Keeps fun state => On I state.2 := by
  have hupload : ∀ workspace, (uploaded b settings workspace kernel).Keeps
      fun state => On I state.2 := fun workspace =>
    (Action.keeps_ofExcept _).bind fun _ => keeps_overSession fun s =>
      (Session.keeps_put hb s _ _).bind fun _ =>
        (Session.keeps_put hb s _ _).bind fun _ => Session.keeps_put hb s _ _
  have hcommand : ∀ command, (commanded b limits command).Keeps fun state => On I state.2 :=
    fun command => keeps_overSession fun s => Session.keeps_runLogged hb s command limits
  have hdownload : ∀ workspace s, (downloaded b settings workspace s).Keeps (On I) :=
    fun workspace s => (keeps_temporaryDirectory hdirectory).bind fun _ =>
      (Session.keeps_get hget s _ _).bind fun _ =>
        (keeps_openFile _).bind fun _ => Action.keeps_pure _
  exact (keeps_phase (Session.keeps_provision hb) _).bind fun workspace =>
    (keeps_phase (hupload workspace) _).bind fun _ =>
      (keeps_phase (hcommand _) _).bind fun _ =>
        (keeps_phase (hcommand _) _).bind fun _ =>
          (keeps_phase (hcommand _) _).bind fun _ =>
            (keeps_phase (keeps_overSession (hdownload workspace)) _).bind fun _ =>
              Action.keeps_pure _

omit settings limits kernel in
/-- The release after the work, which a crash skips. -/
theorem keeps_finishing (ended : Outcome Source × (Session × Host ε)) (h : On I ended.2.2) :
    On I (finishing b ended).2 := by
  obtain ⟨outcome, s, after⟩ := ended
  cases outcome with
  | done a => exact keeps_settled hb s after h
  | failed f => exact keeps_settled hb s after h
  | crashed => exact h

theorem keeps_released (hget : b.KeepsFetching I) (hdirectory : AdmitsDirectory I)
    (connection : Nat) :
    (released b (work b settings limits kernel) connection).Keeps (On I) := fun host h =>
  keeps_finishing hb _
    (keeps_work hb settings limits kernel hget hdirectory (⟨connection, none⟩, host) h)

theorem keeps_course (hget : b.KeepsFetching I) (hdirectory : AdmitsDirectory I) :
    (course b settings limits kernel).Keeps (On I) := by
  rw [course_eq]
  exact (keeps_opening hb settings).bind fun connection =>
    keeps_released hb settings limits kernel hget hdirectory connection

/-- **A run of the stage keeps what its backend keeps**, if the new directory and the conversion of
the input keep it, too. -/
theorem keeps_run (hget : b.KeepsFetching I) (hdirectory : AdmitsDirectory I) (input : Source)
    (hinput : ∀ files e, I files e → I (Conversion.convert input info.input files).2 e) :
    ((stage b settings limits).run input).Keeps (On I) := by
  intro host h
  have hbegun := hinput host.files host.outside h
  rcases hconvert : Conversion.convert input info.input host.files with ⟨cause | converted, files⟩
  · rw [run_stage_of_unconverted b settings limits hconvert]
    rw [hconvert] at hbegun
    exact hbegun
  · obtain ⟨kernel, rfl⟩ := exists_path_of_convert hconvert
    obtain ⟨-, houtside⟩ := run_stage b settings limits hconvert
    rw [hconvert] at hbegun
    rw [On, houtside, files_run_stage b settings limits hconvert]
    exact keeps_course hb settings limits kernel hget hdirectory (begun host files) hbegun

end Backend

end ArtifactPipeline.Emulation
