import ArtifactPipeline.Proofs.Conversion.Content
import ArtifactPipeline.Proofs.Emulation.Calls
import ArtifactPipeline.Proofs.Files.Directory
import ArtifactPipeline.Proofs.Remote.FakeSession

/-!
# An emulation leaves nothing behind

What one run of the emulation does to a fake host, wherever it fails. The work in the workspace
touches three files, all below it (`copies`), because every command goes to the workspace first and
is therefore none of the two that the host carries out. The workspace has a name of its own and is
removed by the release, so the other directories and files are as they were.

* `run_downloaded_fakeHost` : what was fetched is what the fake host held;
* `Leaves` and `leaves_work` : the work over a session, from beginning to end;
* `tidied_of_course` and `leaves_nothing_behind` : a whole run.
-/

namespace ArtifactPipeline.Emulation

open Remote

variable {ε α β : Type} {part : Part ε FakeHost} {touched : List String}

/-! ### In the workspace -/

/-- The notes around an action spare the hosts. -/
theorem spares_announced {x : Action (Host ε) α} (h : Spares part touched x) (name : String) :
    Spares part touched (announced name x) := by
  intro host
  obtain ⟨hsafe, hspared⟩ := h (host.note (Step.startEvent name))
  rw [run_announced]
  exact ⟨hsafe, hspared.congr ⟨rfl, rfl⟩ ⟨Step.files_noteEnd _ _ _, Step.outside_noteEnd _ _ _⟩⟩

/-- The files that are copied into a workspace. -/
def copies (workspace : String) : List String :=
  [workspace ++ "/kernel.xclbin", workspace ++ "/host.cpp", workspace ++ "/xrt.ini"]

theorem isBelow_of_mem_copies (workspace : String) :
    ∀ path ∈ copies workspace, FakeHost.isBelow workspace path = true := by
  have hslash : ∀ name : String, workspace ++ ("/" ++ name) = workspace ++ "/" ++ name :=
    fun name => String.append_assoc.symm
  have hbelow : ∀ name, FakeHost.isBelow workspace (workspace ++ ("/" ++ name)) = true :=
    fun name => hslash name ▸ FakeHost.isBelow_append workspace name
  intro path hpath
  simp only [copies, List.mem_cons, List.not_mem_nil, or_false] at hpath
  rcases hpath with rfl | rfl | rfl
  · exact hbelow "kernel.xclbin"
  · exact hbelow "host.cpp"
  · exact hbelow "xrt.ini"

/-- The waveforms lie in none of the files that were copied: their names end differently. -/
theorem artifactPath_not_mem_copies (t : Toolchain) (workspace : String) :
    t.artifactPath workspace ∉ copies workspace := by
  have hlast : ∀ start ending : String, ending.toList ≠ [] →
      (start ++ ending).toList.getLast? = ending.toList.getLast? := by
    intro start ending hne
    rw [String.toList_append, List.getLast?_append_of_ne_nil _ hne]
  intro hmem
  simp only [copies, List.mem_cons, List.not_mem_nil, or_false] at hmem
  have hends : (t.artifactPath workspace).toList.getLast? = some 'b' := by
    rw [Toolchain.artifactPath, hlast _ _ (by decide)]
    decide
  rcases hmem with h | h | h <;>
  · rw [h, hlast _ _ (by decide)] at hends
    revert hends
    decide

/-- **The work in the workspace before the download** touches the files that it copies. -/
theorem spares_prepared (part : Part ε FakeHost) (settings : Settings) (limits : Limits)
    (kernel hostProgram workspace : String) (s : Session) :
    Spares part (copies workspace)
      (prepared (FakeHost.backend part) settings limits kernel hostProgram workspace s) := by
  have hput : ∀ localPath, ∀ remotePath ∈ copies workspace, Spares part (copies workspace)
      (Session.put (FakeHost.backend part) s localPath remotePath) := by
    intro localPath remotePath hmem
    exact (Session.spares_put s localPath remotePath).mono (by simpa using hmem)
  have hcommand : ∀ name, ∀ command ∈ workspaceCommands settings workspace,
      Spares part (copies workspace)
        (announced name (Session.runLogged (FakeHost.backend part) s command limits)) := by
    intro name command hcommand
    obtain ⟨tail, rfl⟩ := workspaceCommands_eq_append settings workspace command hcommand
    have hordinary : FakeHost.Ordinary ("cd " ++ workspace ++ " &&" ++ tail) := by
      rw [String.append_assoc, String.append_assoc]
      exact FakeHost.ordinary_cd _
    exact spares_announced ((Session.spares_runLogged s hordinary limits).mono nofun) name
  have hupload := spares_announced ((hput kernel (workspace ++ "/kernel.xclbin") (by simp [copies])).bind
    fun _ => (hput hostProgram (workspace ++ "/host.cpp") (by simp [copies])).bind
      fun _ => hput settings.runtimeConfig (workspace ++ "/xrt.ini") (by simp [copies])) "upload"
  exact hupload.bind fun _ =>
    (hcommand _ _ (by simp [workspaceCommands])).bind fun _ =>
      (hcommand _ _ (by simp [workspaceCommands])).bind fun _ =>
        hcommand _ _ (by simp [workspaceCommands])

/-! ### The download -/

/-- **What came out is the waveforms** that a fake host holds in a workspace: a stream that yields
exactly the octets of their file. -/
def Waveforms (settings : Settings) (workspace : String) (f : FakeHost) (files : FileSystem)
    (output : Source) : Prop :=
  ∃ stream bytes, output = .stream stream ∧
    f.file? (workspace ++ "/" ++ settings.toolchain.device ++ "-0-kernel.wdb") = some bytes ∧
    stream.remaining files = .ok bytes

/-- Only what is in the file counts. -/
theorem Waveforms.congr {settings : Settings} {workspace : String} {f f' : FakeHost}
    {files : FileSystem} {output : Source} (h : Waveforms settings workspace f files output)
    (hfile : f.file? (settings.toolchain.artifactPath workspace) =
      f'.file? (settings.toolchain.artifactPath workspace)) :
    Waveforms settings workspace f' files output := by
  obtain ⟨stream, bytes, hstream, hheld, hremaining⟩ := h
  exact ⟨stream, bytes, hstream, hfile.symm.trans hheld, hremaining⟩

/-- **A run that succeeds hands out the waveforms** from the one directory that it has made. -/
def HandsOut (settings : Settings) (f f' : FakeHost) (files : FileSystem)
    (outcome : Outcome Source) : Prop :=
  ∀ output, outcome = .done output →
    ∃ workspace, f.madeSince f' = [workspace] ∧ Waveforms settings workspace f files output

/-- The name of the file to which the waveforms are fetched is a plain one. -/
theorem isPart_download : IsPart "kernel.wdb" := by
  constructor <;> decide

/-- **The download** touches nothing on the fake host, and a stream that it hands out yields what
the file of the waveforms held. -/
theorem run_downloaded_fakeHost (part : Part ε FakeHost) (settings : Settings)
    (workspace : String) (s : Session) (host : Host ε) :
    ∃ outcome after,
      (downloaded (FakeHost.backend part) settings workspace s).run host = (outcome, after) ∧
      outcome ≠ .crashed ∧
      FakeHost.Besides [] (part.get host.outside) (part.get after.outside) ∧
      (host.files.Clear Conversion.temporaryBeginning → ∀ stream, outcome = .done stream →
        Waveforms settings workspace (part.get host.outside) after.files (.stream stream)) := by
  rw [downloaded, Action.run_bind, run_onFiles, temporaryDirectory]
  cases hfresh : host.files.freshLocation Conversion.temporaryBeginning with
  | error fault => exact ⟨_, _, rfl, by simp, .refl _, by simp⟩
  | ok l =>
    simp only [Except.map, Action.run_bind]
    obtain ⟨outcome, middle, hget, hsafe, hbesides, hwritten⟩ := Session.run_get_fakeHost
      part s (settings.toolchain.artifactPath workspace)
      (Path.join (FileSystem.pathOf l) "kernel.wdb")
      { host with files := host.files.addDirectory l }
    rw [hget]
    cases outcome with
    | crashed => exact absurd rfl hsafe
    | failed f => exact ⟨_, _, rfl, by simp, hbesides, by simp⟩
    | done _ =>
      obtain ⟨bytes, hheld, hwrite⟩ := hwritten rfl
      simp only [run_onFiles]
      cases hopen : openFile (Path.join (FileSystem.pathOf l) "kernel.wdb") middle.files with
      | error fault => exact ⟨_, _, rfl, by simp, hbesides, by simp⟩
      | ok found =>
        obtain ⟨node, files⟩ := found
        refine ⟨_, _, rfl, by simp, hbesides, fun hclear stream hstream => ?_⟩
        obtain rfl := files_openFile hopen
        -- the new directory was empty, so what is opened is the file that was just written
        obtain ⟨written, id, hwritten, hfind, hcontents⟩ := FileSystem.write_into_fresh
          Conversion.isBeginning_temporaryBeginning hclear hfresh isPart_download bytes
        obtain rfl : middle.files = written := Except.ok.inj (hwrite.symm.trans hwritten)
        rw [openFile, hfind] at hopen
        obtain rfl : Node.file id = node := (Prod.mk.inj (Except.ok.inj hopen)).1
        obtain rfl := Outcome.done.inj hstream
        exact ⟨_, bytes, rfl, hheld, congrArg Except.ok hcontents⟩

/-! ### The work over a session -/

/-- **How the work over a session leaves a fake host**, and what the session knows then. Either no
directory was made and nothing touched; or the workspace is there, and files were touched below
it. -/
inductive Leaves (settings : Settings) (f f' : FakeHost) (before files : FileSystem) :
    Outcome Source → Option String → Prop
  | untouched {failure : Failure} (hbesides : FakeHost.Besides [] f f') :
      Leaves settings f f' before files (.failed failure) none
  | provisioned {outcome : Outcome Source} {made : FakeHost} (hsafe : outcome ≠ .crashed)
      (hprovisions : FakeHost.Provisions f made)
      (hbesides : FakeHost.Besides (copies (FakeHost.directoryName (f.made + 1))) made f')
      (hwaveforms : before.Clear Conversion.temporaryBeginning → ∀ output, outcome = .done output →
        Waveforms settings (FakeHost.directoryName (f.made + 1)) f files output) :
      Leaves settings f f' before files outcome (some (FakeHost.directoryName (f.made + 1)))

/-- Only the directories and the files before count, and how many directories there have been. -/
theorem Leaves.of_besides {settings : Settings} {f₀ f f' : FakeHost} {before files : FileSystem}
    {outcome : Outcome Source} {workspace : Option String}
    (h : Leaves settings f f' before files outcome workspace) (h₀ : FakeHost.Besides [] f₀ f) :
    Leaves settings f₀ f' before files outcome workspace := by
  cases h with
  | untouched hbesides => exact .untouched (h₀.trans hbesides)
  | provisioned hsafe hprovisions hbesides hwaveforms =>
    rw [h₀.made] at hbesides hwaveforms ⊢
    refine .provisioned hsafe (hprovisions.of_besides h₀) hbesides fun hclear output houtput => ?_
    exact (hwaveforms hclear output houtput).congr (h₀.file? List.not_mem_nil)

section Work

variable (part : Part ε FakeHost) (settings : Settings) {hostProgram : String}
  (hset : settings.hostProgram = some hostProgram) (limits : Limits) (kernel : String)

/-- The work in a workspace touches the files that it copies, and hands out the waveforms. -/
theorem run_inWorkspace_fakeHost (hostProgram workspace : String) (s : Session) (host : Host ε) :
    ∃ outcome after,
      (inWorkspace (FakeHost.backend part) settings limits kernel hostProgram workspace s).run host =
        (outcome, after) ∧
      outcome ≠ .crashed ∧
      FakeHost.Besides (copies workspace) (part.get host.outside) (part.get after.outside) ∧
      (host.files.Clear Conversion.temporaryBeginning → ∀ output, outcome = .done output →
        Waveforms settings workspace (part.get host.outside) after.files output) := by
  obtain ⟨hsafe, hspared⟩ :=
    spares_prepared part settings limits kernel hostProgram workspace s host
  rw [inWorkspace, Action.run_bind]
  generalize (prepared (FakeHost.backend part) settings limits kernel hostProgram workspace s).run
    host = ended at hsafe hspared ⊢
  obtain ⟨outcome, middle⟩ := ended
  cases outcome with
  | crashed => exact absurd rfl hsafe
  | failed f => exact ⟨_, _, rfl, by simp, hspared.outside, by simp⟩
  | done _ =>
    obtain ⟨outcome, after, hrun, hsafe, hbesides, hwaveforms⟩ := run_downloaded_fakeHost part
      settings workspace s (middle.note (Step.startEvent "download_artifact"))
    simp only [Action.run_bind, run_announced, hrun]
    have hbesides : FakeHost.Besides (copies workspace) (part.get host.outside)
        (part.get (Step.noteEnd "download_artifact" outcome after).outside) := by
      rw [Step.outside_noteEnd]
      exact hspared.outside.trans (hbesides.mono (List.nil_subset _))
    cases outcome with
    | crashed => exact absurd rfl hsafe
    | failed f => exact ⟨_, _, rfl, by simp, hbesides, by simp⟩
    | done stream =>
      refine ⟨_, _, rfl, by simp, hbesides, fun hclear output houtput => ?_⟩
      obtain rfl := Outcome.done.inj houtput
      rw [← hspared.files] at hclear
      -- the copies were made elsewhere, so the file holds what it held before
      exact (hwaveforms hclear stream rfl).congr
        (hspared.outside.file? (artifactPath_not_mem_copies settings.toolchain workspace))

include hset in
/-- **The work over a session**: a directory is made, and files are touched below it. -/
theorem leaves_work (connection : Nat) (host : Host ε) :
    ∃ outcome s after,
      (work (FakeHost.backend part) settings limits kernel).run (⟨connection, none⟩, host) =
        (outcome, (s, after)) ∧
      Leaves settings (part.get host.outside) (part.get after.outside) host.files after.files
        outcome s.workspace := by
  rw [work_eq _ hset, Action.run_bind, run_phase]
  rcases Session.run_provision_fakeHost part ⟨connection, none⟩
    (host.note (Step.startEvent "provision_remote_dir")) with
    ⟨f, after, hprovision, hspared⟩ |
      ⟨workspace, middle, hprovision, rfl, hfiles, hprovisions⟩
  · rw [hprovision]
    refine ⟨_, _, _, rfl, .untouched ?_⟩
    rw [Step.outside_noteEnd]
    exact hspared.outside
  · rw [hprovision]
    rw [Host.outside_note] at hprovisions
    obtain ⟨outcome, after, hrun, hsafe, hbesides, hwaveforms⟩ := run_inWorkspace_fakeHost part
      settings limits kernel hostProgram
      (FakeHost.directoryName ((part.get host.outside).made + 1))
      ⟨connection, some (FakeHost.directoryName ((part.get host.outside).made + 1))⟩
      (Step.noteEnd "provision_remote_dir" (.done (FakeHost.directoryName
        ((part.get host.outside).made + 1)) : Outcome String) middle)
    simp only [run_overSession, Host.outside_note, hrun]
    rw [Step.outside_noteEnd] at hbesides hwaveforms
    rw [Step.files_noteEnd, hfiles, Host.files_note] at hwaveforms
    refine ⟨_, _, _, rfl, .provisioned hsafe hprovisions hbesides fun hclear output houtput => ?_⟩
    refine (hwaveforms hclear output houtput).congr ?_
    rw [FakeHost.file?, FakeHost.file?, hprovisions.files]

end Work

/-! ### The release -/

/-- **The release tidies up** what the work over a session has left, and keeps the files of the
local host. -/
theorem tidied_of_leaves (part : Part ε FakeHost) {settings : Settings} {f : FakeHost}
    {before : FileSystem} {outcome : Outcome Source} {s : Session} {after : Host ε}
    (hnumbered : f.Numbered)
    (hleaves : Leaves settings f (part.get after.outside) before after.files outcome s.workspace) :
    FakeHost.Tidied f (part.get (settled (FakeHost.backend part) s after).2.outside) ∧
      (before.Clear Conversion.temporaryBeginning →
        HandsOut settings f (part.get (settled (FakeHost.backend part) s after).2.outside)
          (settled (FakeHost.backend part) s after).2.files outcome) := by
  obtain ⟨begun, hfiles, houtside, hsettledFiles, hsettled⟩ :=
    exists_release_of_settled (FakeHost.backend part) s after
  rw [hsettled, hsettledFiles]
  rw [← houtside, ← hfiles] at hleaves
  generalize hworkspace : s.workspace = workspace at hleaves
  cases hleaves with
  | untouched hbesides =>
    have hreleased := Session.release_fakeHost_of_none part hworkspace begun
    exact ⟨(hbesides.trans hreleased.outside).tidied, nofun⟩
  | @provisioned _ made _ hprovisions hbesides hwaveforms =>
    obtain ⟨hkept, hmade, hremoves⟩ := Session.release_fakeHost part hworkspace begun
    have hone := FakeHost.madeSince_of_made_succ
      (hmade.trans (hbesides.made.trans hprovisions.made))
    refine ⟨⟨?_, fun hallowed => ?_⟩, fun hclear output houtput => ⟨_, hone, ?_⟩⟩
    · rw [hone]
      exact Nat.le_refl 1
    · -- the patterns are those that the host had before the run
      have hinjections := hbesides.injections.trans hprovisions.injections
      have hallowed := FakeHost.failingPattern?_eq_none (f := part.get begun.outside)
        (hinjections ▸ hallowed _ (hone ▸ List.mem_singleton_self _))
      exact FakeHost.noResidue_of_removes hnumbered hprovisions hbesides
        (isBelow_of_mem_copies _) (hremoves hallowed) hmade
    · rw [hkept]
      exact hwaveforms hclear output houtput

/-! ### A whole run -/

theorem Leaves.ne_crashed {settings : Settings} {f f' : FakeHost} {before files : FileSystem}
    {outcome : Outcome Source} {workspace : Option String}
    (h : Leaves settings f f' before files outcome workspace) : outcome ≠ .crashed := by
  cases h with
  | untouched _ => exact nofun
  | provisioned hsafe _ _ _ => exact hsafe

/-- Asking for the settings and for a connection touches nothing. -/
theorem spares_opening (part : Part ε FakeHost) (settings : Settings) :
    Spares part [] (announced "check_config" (checked settings) >>= fun _ =>
      announced "connect" (opened (FakeHost.backend part) settings)) := by
  have hchecked : Spares part [] (checked settings) :=
    (spares_ofExcept _).bind fun _ => (spares_ofExcept _).bind fun _ => spares_pure ()
  have hopened : Spares part [] (opened (FakeHost.backend part) settings) :=
    (spares_ofExcept _).bind fun target => Session.spares_connect target
  exact (spares_announced hchecked _).bind fun _ => spares_announced hopened _

/-- **The course tidies up**, wherever it fails, and hands out the waveforms when it does not. -/
theorem tidied_of_course (part : Part ε FakeHost) (settings : Settings) (limits : Limits)
    (kernel : String) (host : Host ε) (hnumbered : (part.get host.outside).Numbered) :
    ∃ outcome after,
      (course (FakeHost.backend part) settings limits kernel).run host = (outcome, after) ∧
      FakeHost.Tidied (part.get host.outside) (part.get after.outside) ∧
      (host.files.Clear Conversion.temporaryBeginning →
        HandsOut settings (part.get host.outside) (part.get after.outside) after.files
          outcome) := by
  cases hset : settings.hostProgram with
  | none =>
    obtain ⟨f, after, hrun, houtside⟩ :=
      course_of_unset (FakeHost.backend part) limits kernel (.inl hset) host
    refine ⟨_, _, hrun, FakeHost.Besides.tidied ?_, nofun⟩
    rw [houtside]
    exact .refl _
  | some hostProgram =>
    obtain ⟨hsafe, hspared⟩ := spares_opening part settings host
    rw [course_eq, Action.run_bind]
    generalize (announced "check_config" (checked settings) >>= fun _ =>
      announced "connect" (opened (FakeHost.backend part) settings)).run host = ended
      at hsafe hspared ⊢
    obtain ⟨outcome, middle⟩ := ended
    cases outcome with
    | crashed => exact absurd rfl hsafe
    | failed f => exact ⟨_, _, rfl, hspared.outside.tidied, nofun⟩
    | done connection =>
      obtain ⟨outcome, s, after, hwork, hleaves⟩ :=
        leaves_work part settings hset limits kernel connection middle
      rw [hspared.files] at hleaves
      have hended := finishing_of_ne_crashed (FakeHost.backend part) s after hleaves.ne_crashed
      refine ⟨outcome, (settled (FakeHost.backend part) s after).2, ?_,
        tidied_of_leaves part hnumbered (hleaves.of_besides hspared.outside)⟩
      rw [← hended, ← hwork]
      rfl

/-- What passes the check of the stage is what came out. -/
theorem eq_done_of_delivered {outcome : Outcome Source} {output : Source}
    (h : delivered outcome = .done output) : outcome = .done output := by
  have hchecked : Stage.checkOutcome info outcome = .done output := h
  exact (Stage.checkOutcome_eq_done_iff.mp hchecked).1

/-- **A run leaves nothing behind on a fake host.** Take any configuration that the stage accepts,
any input, and a fake host that was prepared and used in any way. However the run ends, it has made
one directory at most. Unless the host was told to fail the command that removes it, the directories
are then those from before, and the files are those from before but for the ones at that directory
or below it. When the run succeeds, its output is a stream that yields exactly what the host held
in the file of the waveforms in that directory; this asks of the local file system that each of its
nodes lies in another. -/
theorem leaves_nothing_behind (part : Part ε FakeHost) {limits : Limits} {c : Config.Context}
    {s : Stage ε} (hstage : stageOf (FakeHost.backend part) limits c = .ok s) (input : Source)
    (host : Host ε) (hreachable : (part.get host.outside).Reachable) :
    ∃ settings, Settings.ofContext c = .ok settings ∧
      ∃ outcome after, (s.run input).run host = (outcome, after) ∧
        FakeHost.Tidied (part.get host.outside) (part.get after.outside) ∧
        (host.files.Rooted →
          HandsOut settings (part.get host.outside) (part.get after.outside) after.files
            outcome) := by
  obtain ⟨settings, hsettings, rfl⟩ := exists_settings_of_stageOf hstage
  rcases hended : ((stage (FakeHost.backend part) settings limits).run input).run host
    with ⟨outcome, after⟩
  refine ⟨settings, hsettings, outcome, after, rfl, ?_⟩
  rcases hconvert : Conversion.convert input info.input host.files with ⟨cause | converted, files⟩
  · -- without an input that converts, nothing is called
    rw [run_stage_of_unconverted (FakeHost.backend part) settings limits hconvert] at hended
    obtain ⟨rfl, rfl⟩ := Prod.mk.inj hended
    exact ⟨(FakeHost.Besides.refl _).tidied, nofun⟩
  · obtain ⟨kernel, rfl⟩ := exists_path_of_convert hconvert
    obtain ⟨houtcome, houtside⟩ := run_stage (FakeHost.backend part) settings limits hconvert
    have hfiles := files_run_stage (FakeHost.backend part) settings limits hconvert
    obtain ⟨handed, middle, hrun, htidied, hwaveforms⟩ := tidied_of_course part settings limits
      kernel (begun host files) (FakeHost.numbered_of_reachable hreachable)
    rw [hended, hrun] at houtcome houtside hfiles
    rw [houtside, hfiles]
    refine ⟨htidied, fun hrooted output houtput => ?_⟩
    -- a conversion adds temporary files only
    have hgrown := Conversion.grown_convert input info.input host.files
    rw [hconvert] at hgrown
    rw [houtput] at houtcome
    exact hwaveforms (hgrown.clear hrooted _) output (eq_done_of_delivered houtcome.symm)

/-- A configuration that names all that a run needs. -/
def smallContext : Config.Context :=
  .ofValue (.table [("stages", .table [(stageName, .table
    [("host", .string "host.cpp"), ("ssh_host", .string "fpga"), ("xrt", .string "xrt.ini"),
      ("device", .string "u50"), ("setup_commands", .string "true"),
      ("runtime_include", .string "a"), ("vendor_include", .string "b"),
      ("runtime_lib", .string "c"), ("emconfigutil", .string "d")])])])

/-- The files that are copied into the workspace, and a directory for temporary files. -/
def smallFiles : FileSystem :=
  (((FileSystem.empty.addDirectory ["tmp"]).addFile ["kernel.xclbin"] [1]).addFile
    ["host.cpp"] [2]).addFile ["xrt.ini"] [3]

/-- A fake host on which waveforms lie in the first workspace, and a file in the tenth. -/
def waitingHost : FakeHost :=
  (({} : FakeHost).store "/tmp/mock.1/u50-0-kernel.wdb" [7, 8]).store "/tmp/mock.10/kept" [9]

/-- Whether there is an output. -/
def succeeded : Outcome Source → Bool
  | .done _ => true
  | .failed _ | .crashed => false

/-- A run that succeeds leaves nothing behind. -/
theorem leaves_nothing_behind_of_success :
    ∃ (s : Stage FakeHost) (settings : Settings) (output : Source) (after : Host FakeHost),
      stageOf (FakeHost.backend (.whole FakeHost)) .unlimited smallContext = .ok s ∧
        waitingHost.Reachable ∧ smallFiles.Rooted ∧
        (s.run (.path "kernel.xclbin")).run { files := smallFiles, outside := waitingHost } =
          (.done output, after) ∧
        FakeHost.NoResidue waitingHost after.outside ∧
        ∃ workspace, waitingHost.madeSince after.outside = [workspace] ∧
          Waveforms settings workspace waitingHost after.files output := by
  obtain ⟨s, hstage⟩ : ∃ s : Stage FakeHost,
      stageOf (FakeHost.backend (.whole FakeHost)) .unlimited smallContext = .ok s := ⟨_, rfl⟩
  have hreachable : waitingHost.Reachable := (FakeHost.Reachable.fresh.store _ _).store _ _
  have hrooted : smallFiles.Rooted := FileSystem.rooted_of_nodes (by decide)
  have hsucceeds : ((stageOf (FakeHost.backend (.whole FakeHost)) .unlimited smallContext).map
      fun s => succeeded ((s.run (.path "kernel.xclbin")).run
        { files := smallFiles, outside := waitingHost }).1).toOption = some true := by
    decide +kernel
  obtain ⟨settings, -, outcome, after, hrun, htidied, hwaveforms⟩ :=
    leaves_nothing_behind (.whole FakeHost) hstage (.path "kernel.xclbin")
      { files := smallFiles, outside := waitingHost } hreachable
  rw [hstage] at hsucceeds
  have hsucceeds : succeeded outcome = true := by
    simpa [Except.map, Except.toOption, hrun] using hsucceeds
  cases outcome with
  | done output =>
    have hresidue := htidied.residue fun _ _ _ hpattern => by cases hpattern
    exact ⟨s, settings, output, after, hstage, hreachable, hrooted, hrun, hresidue,
      hwaveforms hrooted output rfl⟩
  | failed f => cases hsucceeds
  | crashed => cases hsucceeds

end ArtifactPipeline.Emulation
