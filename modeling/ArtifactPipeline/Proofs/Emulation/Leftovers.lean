import ArtifactPipeline.Proofs.Emulation.Invariant
import ArtifactPipeline.Proofs.Emulation.Residue
import ArtifactPipeline.Proofs.Remote.Changes

/-!
# What a run leaves on the local host

The waveforms are fetched into a temporary directory that the stage makes for them. When the run
succeeds, the directory belongs to the caller, who has the stream. When it fails there is no caller
to have it, but the stage does not take it back either: nothing after the download looks at the local
files again.

* `LeftBehind` says what there is afterwards: either the backend alone has changed the files, or the
  waveforms were asked for, and the directory for them was made just before;
* `leftBehind_downloaded` is the step that makes the difference, and `directory_left_behind` carries
  it through a run, whichever way the run ends;
* `directory_left_behind_by_failure` is a run that fails because there are no waveforms, and leaves
  the empty directory.

The backend may do to the files whatever it likes, within a bound that is a parameter.
-/

namespace ArtifactPipeline.Emulation

open Remote

variable {ε : Type} {R : FileSystem → FileSystem → Prop} {part : Part ε Record}

/-- **What calls have left behind.**

* `nothing`: no waveforms were asked for, and only the backend has changed the files;
* `directory`: some calls had passed when a new temporary directory was made; the waveforms were
  fetched into it, well or badly, and from then on again only the backend has changed the files. -/
inductive LeftBehind (R : FileSystem → FileSystem → Prop) (before : FileSystem) :
    Record → FileSystem → Prop
  | nothing {calls : Record} {after : FileSystem} (hpassed : Passed R before calls after) :
      LeftBehind R before calls after
  | directory {first later : Record} {e : Entry} {middle after : FileSystem} {l : Location}
      {connection : Nat} {remotePath : String} (hfirst : Passed R before first middle)
      (hfresh : middle.freshLocation Conversion.temporaryBeginning = .ok l)
      (hrequest : e.call.request =
        .get connection remotePath (Path.join (FileSystem.pathOf l) "kernel.wdb"))
      (hfetch : R (middle.addDirectory l) e.files) (hlater : Passed R e.files later after) :
      LeftBehind R before (first ++ e :: later) after

/-- **A backend that leaves the files alone** shows what the stage does to them. They are as before
exactly if no waveforms were asked for. -/
theorem LeftBehind.eq_iff {before after : FileSystem} {calls : Record}
    (h : LeftBehind R before calls after)
    (hidle : ∀ files files', R files files' → files' = files) :
    after = before ↔ ∀ e ∈ calls, e.call.request.isFetch = false := by
  cases h with
  | nothing hpassed => exact iff_of_true (hidle _ _ hpassed.changes) hpassed.unfetched
  | @directory first later e middle _ l connection remotePath hfirst hfresh hrequest hfetch
      hlater =>
    obtain ⟨hfree, hne⟩ := middle.node?_of_freshLocation hfresh
    refine iff_of_false (fun hsame => ?_) fun hunfetched => ?_
    · -- the new directory is there afterwards and was not there before
      have hthere : after.node? l = some .directory := by
        rw [hidle _ _ hlater.changes, hidle _ _ hfetch, FileSystem.node?_addDirectory _ _ hne,
          if_pos rfl]
      rw [hidle _ _ hfirst.changes, ← hsame, hthere] at hfree
      cases hfree
    · have hone := hunfetched e (List.mem_append_right first List.mem_cons_self)
      rw [hrequest] at hone
      cases hone

/-- Where only calls have passed, nothing was left behind. -/
theorem leftBehind_of_passed (start host : Host ε)
    (h : On (Since part start.outside (Passed R start.files)) host) :
    On (Since part start.outside (LeftBehind R start.files)) host := by
  obtain ⟨calls, hcalls, hpassed⟩ := h
  exact ⟨calls, hcalls, .nothing hpassed⟩

section Backend

variable {b : Backend ε} (hb : b.Changes R)

include hb

theorem persists_leftBehind (before : FileSystem) : Persists R (LeftBehind R before) := by
  intro calls files e files' h hrequest hchange
  cases h with
  | nothing hpassed =>
    exact .nothing (persists_passed hb before calls files e files' hpassed hrequest hchange)
  | @directory first later fetch middle _ l _ _ hfirst hfresh hfetched hfetch hlater =>
    have hpassed := persists_passed hb fetch.files later files e files' hlater hrequest hchange
    rw [List.append_assoc, List.cons_append]
    exact .directory hfirst hfresh hfetched hfetch hpassed

variable (settings : Settings) (limits : Limits) (kernel : String) (start : Host ε)

/-- **The download makes the directory**, unless there is no name for it. Whether the waveforms come
and whether they can be opened makes no difference to it. -/
theorem leftBehind_downloaded (workspace : String) (s : Session) (host : Host ε)
    (h : On (Since part start.outside (Passed R start.files)) host) :
    On (Since part start.outside (LeftBehind R start.files))
      ((downloaded (b.recorded part) settings workspace s).run host).2 := by
  rw [downloaded, Action.run_bind, run_onFiles, temporaryDirectory]
  cases hfresh : host.files.freshLocation Conversion.temporaryBeginning with
  | error fault => exact leftBehind_of_passed start host h
  | ok l =>
    obtain ⟨first, hcalls, hfirst⟩ := h
    simp only [Except.map]
    rw [Action.run_bind]
    obtain ⟨e, hrequest, hwrites, hfiles, -⟩ := Session.asks_get b part s
      (settings.toolchain.artifactPath workspace) (Path.join (FileSystem.pathOf l) "kernel.wdb")
      { host with files := host.files.addDirectory l }
    have hchange := Session.keeps_get
      (keepsFetching_of_changes (changes_recorded hb part) (host.files.addDirectory l)) s
      (settings.toolchain.artifactPath workspace) (Path.join (FileSystem.pathOf l) "kernel.wdb")
      { host with files := host.files.addDirectory l } (hb.refl _)
    generalize (Session.get (b.recorded part) s _ _).run
      { host with files := host.files.addDirectory l } = ended at hwrites hfiles hchange ⊢
    obtain ⟨outcome, after⟩ := ended
    have hfiles : after.files = e.files := hfiles
    have hleft : On (Since part start.outside (LeftBehind R start.files)) after := by
      refine ⟨first ++ [e], ?_, .directory hfirst hfresh hrequest (hfiles ▸ hchange)
        (hfiles ▸ Passed.refl hb _)⟩
      rw [← List.append_assoc, ← hcalls]
      exact hwrites
    -- what comes after the fetching only looks at the files
    cases outcome with
    | done _ => exact ((keeps_openFile _).bind fun _ => Action.keeps_pure _) after hleft
    | failed f => exact hleft
    | crashed => exact hleft

/-- The work over a session makes the directory once at most. -/
theorem leftBehind_work {hostProgram : String} (hset : settings.hostProgram = some hostProgram)
    (connection : Nat) (host : Host ε)
    (h : On (Since part start.outside (Passed R start.files)) host) :
    On (Since part start.outside (LeftBehind R start.files))
      ((work (b.recorded part) settings limits kernel).run (⟨connection, none⟩, host)).2.2 := by
  have hkept : (b.recorded part).Keeps (Since part start.outside (Passed R start.files)) :=
    keeps_since hb (persists_passed hb start.files) start.outside
  have hweaken : ∀ host, On (Since part start.outside (Passed R start.files)) host →
      On (Since part start.outside (LeftBehind R start.files)) host := leftBehind_of_passed start
  rw [work_eq _ hset]
  refine (keeps_phase (Session.keeps_provision hkept) _).bind_weaken
    (fun state => hweaken state.2) (fun workspace state h => ?_) _ h
  refine (keeps_prepared hkept settings limits kernel hostProgram workspace state.1).bind_weaken
    hweaken (fun _ host h => ?_) state.2 h
  -- the notes around the download make no difference
  have hdownloaded := leftBehind_downloaded hb settings start workspace state.1
    (host.note (Step.startEvent "download_artifact")) h
  rw [Action.run_bind, run_announced]
  generalize (downloaded (b.recorded part) settings workspace state.1).run _ = ended
    at hdownloaded ⊢
  obtain ⟨outcome, after⟩ := ended
  cases outcome <;> exact hdownloaded

theorem leftBehind_course :
    On (Since part start.outside (LeftBehind R start.files))
      ((course (b.recorded part) settings limits kernel).run start).2 := by
  have hstart : On (Since part start.outside (Passed R start.files)) start :=
    ⟨[], (List.append_nil _).symm, Passed.refl hb start.files⟩
  have hweaken : ∀ host, On (Since part start.outside (Passed R start.files)) host →
      On (Since part start.outside (LeftBehind R start.files)) host := leftBehind_of_passed start
  cases hset : settings.hostProgram with
  | none =>
    obtain ⟨key, hrun⟩ :=
      run_course_of_unset (b.recorded part) limits kernel (.inl hset) start
    rw [hrun]
    exact hweaken _ hstart
  | some hostProgram =>
    have hkept : (b.recorded part).Keeps (Since part start.outside (Passed R start.files)) :=
      keeps_since hb (persists_passed hb start.files) start.outside
    have hreleased : (b.recorded part).Keeps (Since part start.outside (LeftBehind R start.files)) :=
      keeps_since hb (persists_leftBehind hb start.files) start.outside
    rw [course_eq]
    exact (keeps_opening hkept settings).bind_weaken hweaken (fun connection host h =>
      keeps_finishing hreleased _
        (leftBehind_work hb settings limits kernel start hset connection host h)) start hstart

end Backend

/-- **What a run leaves on the local host.** Take any configuration that the stage accepts, any path,
and any backend, which answers whatever it likes and changes the files within some bound. However the
run ends: if no waveforms were asked for, only the backend has changed the files; and if they were,
they were asked for once, the stage had made a new temporary directory for them, and nothing but the
backend has touched it since. So if the backend leaves the files alone, they are as before exactly if
the waveforms were not asked for. -/
theorem directory_left_behind (part : Part ε Record) {b : Backend ε} (hb : b.Changes R)
    {limits : Limits} {c : Config.Context} {s : Stage ε}
    (hstage : stageOf (b.recorded part) limits c = .ok s) (path : String) (host : Host ε) :
    ∃ calls outcome after, (s.run (.path path)).run host = (outcome, after) ∧
      Writes part host after calls ∧ LeftBehind R host.files calls after.files ∧
      ((∀ files files', R files files' → files' = files) →
        (after.files = host.files ↔ ∀ e ∈ calls, e.call.request.isFetch = false)) := by
  obtain ⟨settings, -, rfl⟩ := exists_settings_of_stageOf hstage
  have hconvert := convert_path path host.files
  obtain ⟨-, houtside⟩ := run_stage (b.recorded part) settings limits hconvert
  have hfiles := files_run_stage (b.recorded part) settings limits hconvert
  obtain ⟨calls, hcalls, hleft⟩ : On (Since part host.outside (LeftBehind R host.files))
      ((course (b.recorded part) settings limits path).run (begun host host.files)).2 :=
    leftBehind_course hb settings limits path (begun host host.files)
  generalize ((stage (b.recorded part) settings limits).run (.path path)).run host = ended
    at houtside hfiles
  obtain ⟨outcome, after⟩ := ended
  have hleft : LeftBehind R host.files calls after.files := hfiles ▸ hleft
  refine ⟨calls, outcome, after, rfl, ?_, hleft, hleft.eq_iff⟩
  rw [Writes, houtside]
  exact hcalls

/-- Where a run without waveforms makes its directory. -/
def firstDirectory : Location := ["tmp", "stagewright-000000"]

/-- A fake host that is recorded, and on which there are no waveforms. -/
def bareHost : Host (FakeHost × Record) := { files := smallFiles, outside := ({}, []) }

/-- There the download fails, and the directory for it is there afterwards. -/
theorem run_without_waveforms :
    ∃ (s : Stage (FakeHost × Record)) (f : Failure) (after : Host (FakeHost × Record)),
      stageOf ((FakeHost.backend .first).recorded .second) .unlimited smallContext = .ok s ∧
        (s.run (.path "kernel.xclbin")).run bareHost = (.failed f, after) ∧
        after.files.node? firstDirectory = some .directory := by
  obtain ⟨s, hstage⟩ : ∃ s : Stage (FakeHost × Record),
      stageOf ((FakeHost.backend .first).recorded .second) .unlimited smallContext = .ok s :=
    ⟨_, rfl⟩
  have hfails : ((stageOf ((FakeHost.backend .first).recorded .second) .unlimited
      smallContext).map fun s =>
        let ended := (s.run (.path "kernel.xclbin")).run bareHost
        (ended.1.isFailed, ended.2.files.node? firstDirectory)).toOption =
      some (true, some .directory) := by
    decide +kernel
  rw [hstage] at hfails
  rcases hrun : (s.run (.path "kernel.xclbin")).run bareHost with ⟨outcome, after⟩
  obtain ⟨hfailed, hdirectory⟩ : outcome.isFailed = true ∧
      after.files.node? firstDirectory = some .directory := by
    simpa [Except.map, Except.toOption, hrun] using hfails
  cases outcome with
  | failed f => exact ⟨s, f, after, hstage, hrun, hdirectory⟩
  | done output => cases hfailed
  | crashed => cases hfailed

/-- **A run that fails leaves its directory.** The fake host never makes one itself. -/
theorem directory_left_behind_by_failure :
    ∃ (s : Stage (FakeHost × Record)) (calls : Record) (f : Failure)
        (after : Host (FakeHost × Record)),
      stageOf ((FakeHost.backend .first).recorded .second) .unlimited smallContext = .ok s ∧
        (s.run (.path "kernel.xclbin")).run bareHost = (.failed f, after) ∧
        LeftBehind NoNewDirectory smallFiles calls after.files ∧
        smallFiles.node? firstDirectory = none ∧
        after.files.node? firstDirectory = some .directory := by
  obtain ⟨s, f, after, hstage, hrun, hdirectory⟩ := run_without_waveforms
  obtain ⟨calls, outcome, after', hrun', -, hleft, -⟩ := directory_left_behind .second
    (changes_fakeHost .first) hstage "kernel.xclbin" bareHost
  obtain ⟨rfl, rfl⟩ := Prod.mk.inj (hrun.symm.trans hrun')
  exact ⟨s, calls, f, after, hstage, hrun, hleft, by decide, hdirectory⟩

/-- **Not every failure takes the directory back**: it is not so that after a run that fails only the
backend has changed the files. -/
theorem not_only_backend_changes :
    ¬∀ (b : Backend (FakeHost × Record)) (R : FileSystem → FileSystem → Prop) (limits : Limits)
        (c : Config.Context) (s : Stage (FakeHost × Record)) (path : String)
        (host after : Host (FakeHost × Record)) (f : Failure),
      b.Changes R → stageOf b limits c = .ok s →
        (s.run (.path path)).run host = (.failed f, after) → R host.files after.files := by
  intro hall
  obtain ⟨s, f, after, hstage, hrun, hdirectory⟩ := run_without_waveforms
  have hkept := hall _ NoNewDirectory _ _ s _ _ after f
    (changes_recorded (changes_fakeHost .first) .second) hstage hrun
  have hbefore : smallFiles.node? firstDirectory = some .directory := hkept _ hdirectory
  exact absurd hbefore (by decide)

end ArtifactPipeline.Emulation
