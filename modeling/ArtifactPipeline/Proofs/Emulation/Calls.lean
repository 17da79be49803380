import ArtifactPipeline.Proofs.Emulation.Course
import ArtifactPipeline.Proofs.Emulation.Plan

/-!
# The calls of an emulation

Which calls does one run of the emulation make, over a backend that may answer anything? The work
over the session follows a plan up to the download (`workPlan`). The download itself is a matter of
the local host as well: it makes a directory before its call and opens a file after it, and either
may go wrong without any call having failed (`Fetched`).

* `makes_prepared` : from the copying of the files to the emulation, the calls follow the plan;
* `run_downloaded` : the download;
* `worked` : the work over a session, from beginning to end;
* `run_course` : a whole run, with the release (`Ran`).
-/

namespace ArtifactPipeline.Emulation

open Remote

variable {ε α β : Type}

/-! ### From the files to the emulation -/

/-- The notes around an action make no difference to the calls. -/
theorem makes_announced {part : Part ε Record} {plan : List Request} {x : Action (Host ε) α}
    (hmakes : Makes part plan x) (name : String) : Makes part plan (announced name x) := by
  intro host
  obtain ⟨calls, hwrites, hfiles, hfollows⟩ := hmakes (host.note (Step.startEvent name))
  rw [run_announced]
  refine ⟨calls, hwrites.congr rfl (Step.outside_noteEnd _ _ _), ?_, hfollows⟩
  rw [Step.files_noteEnd, hfiles, Host.files_note]

/-- The work in the workspace before the download. -/
def prepared (b : Backend ε) (settings : Settings) (limits : Limits) (kernel hostProgram : String)
    (workspace : String) (s : Session) : Action (Host ε) Unit := do
  announced "upload" do
    Session.put b s kernel (workspace ++ "/kernel.xclbin")
    Session.put b s hostProgram (workspace ++ "/host.cpp")
    Session.put b s settings.runtimeConfig (workspace ++ "/xrt.ini")
  announced "compile_remote" <|
    Session.runLogged b s (settings.toolchain.compileCommand workspace) limits
  announced "generate_device_config" <|
    Session.runLogged b s (settings.toolchain.deviceConfigCommand workspace) limits
  announced "run_emulation" <|
    Session.runLogged b s (settings.toolchain.emulateCommand workspace) limits

/-- The work in the workspace, from the files to the waveforms. -/
def inWorkspace (b : Backend ε) (settings : Settings) (limits : Limits)
    (kernel hostProgram workspace : String) (s : Session) : Action (Host ε) Source := do
  prepared b settings limits kernel hostProgram workspace s
  let waveforms ← announced "download_artifact" (downloaded b settings workspace s)
  return .stream waveforms

/-- **The work over a session, with the session set aside.** After the provisioning it stays as it
is, and what is left is work on the host. -/
theorem work_eq (b : Backend ε) {settings : Settings} {hostProgram : String}
    (hset : settings.hostProgram = some hostProgram) (limits : Limits) (kernel : String) :
    work b settings limits kernel =
      phase "provision_remote_dir" (Session.provision b) >>= fun workspace =>
        overSession (inWorkspace b settings limits kernel hostProgram workspace) := by
  -- the host program is known, so copying the files does not ask for it any more
  have hupload : ∀ workspace, uploaded b settings workspace kernel = overSession (fun s => do
      Session.put b s kernel (workspace ++ "/kernel.xclbin")
      Session.put b s hostProgram (workspace ++ "/host.cpp")
      Session.put b s settings.runtimeConfig (workspace ++ "/xrt.ini")) := by
    intro workspace
    rw [uploaded, hset]
    rfl
  have hpure : ∀ a : Source, (pure a : Action (Session × Host ε) Source) =
      overSession fun _ => pure a := fun _ => rfl
  have hshape : ∀ workspace,
      inWorkspace b settings limits kernel hostProgram workspace = fun s => do
      prepared b settings limits kernel hostProgram workspace s
      let waveforms ← announced "download_artifact" (downloaded b settings workspace s)
      return .stream waveforms := fun _ => rfl
  simp only [work, hupload, commanded, phase_overSession, hpure, overSession_bind, hshape, prepared,
    bind_assoc]

theorem makes_prepared (b : Backend ε) (part : Part ε Record) (settings : Settings)
    (limits : Limits) (kernel hostProgram workspace : String) (s : Session) :
    Makes part (preparePlan settings limits kernel hostProgram s.connection workspace)
      (prepared (b.recorded part) settings limits kernel hostProgram workspace s) := by
  have hcommand : ∀ name, ∀ command ∈ workspaceCommands settings workspace,
      Makes part [.exec s.connection command limits]
        (announced name (Session.runLogged (b.recorded part) s command limits)) := by
    intro name command hcommand
    exact makes_announced
      (Session.asks_runLogged b part s (ne_provisionCommand_of_mem hcommand) limits).makes name
  have hupload := makes_announced
    ((Session.asks_put b part s kernel (workspace ++ "/kernel.xclbin")).makes.bind fun _ =>
      (Session.asks_put b part s hostProgram (workspace ++ "/host.cpp")).makes.bind fun _ =>
        (Session.asks_put b part s settings.runtimeConfig (workspace ++ "/xrt.ini")).makes)
    "upload"
  exact hupload.bind fun _ =>
    (hcommand _ _ (by simp [workspaceCommands])).bind fun _ =>
      (hcommand _ _ (by simp [workspaceCommands])).bind fun _ =>
        hcommand _ _ (by simp [workspaceCommands])

/-! ### The download -/

/-- **How the download ends.** A directory is made on the host, the file is asked for, and what came
is opened. Each of the three may go wrong; only the second is a call. -/
inductive Fetched (request : Request) (download : String) :
    FileSystem → Record → Outcome Source → Prop
  | noDirectory {files : FileSystem} {fault : IoFault}
      (hfault : temporaryDirectory files = .error fault) :
      Fetched request download files [] (.failed (.io fault))
  | broken {files : FileSystem} {e : Entry} {f : Failure} (hrequest : e.call.request = request)
      (hfailed : e.call.failure? = some f) : Fetched request download files [e] (.failed f)
  | notOpened {files : FileSystem} {e : Entry} {fault : IoFault}
      (hrequest : e.call.request = request) (hanswered : e.call.failure? = none)
      (hfault : openFile download e.files = .error fault) :
      Fetched request download files [e] (.failed (.io fault))
  | opened {files : FileSystem} {e : Entry} {node : Node} (hrequest : e.call.request = request)
      (hanswered : e.call.failure? = none)
      (hnode : openFile download e.files = .ok (node, e.files)) :
      Fetched request download files [e] (.done (.stream ⟨.opened node 0, some download⟩))

/-- Opening a file leaves the files as they are. -/
theorem files_openFile {path : String} {files files' : FileSystem} {node : Node}
    (hopen : openFile path files = .ok (node, files')) : files' = files := by
  rw [openFile] at hopen
  cases hfind : files.find path with
  | error fault =>
    rw [hfind] at hopen
    cases hopen
  | ok found =>
    rw [hfind] at hopen
    exact (Prod.mk.inj (Except.ok.inj hopen)).2.symm

theorem run_onFiles {f : FileSystem → Except IoFault (α × FileSystem)} (host : Host ε) :
    (Host.onFiles f).run host =
      match f host.files with
      | .ok (a, files) => (.done a, { host with files })
      | .error fault => (.failed (.io fault), host) := rfl

/-- Fetching the waveforms makes one call, unless there is no directory to fetch them to. -/
theorem run_downloaded (b : Backend ε) (part : Part ε Record) (settings : Settings)
    (workspace : String) (s : Session) (host : Host ε) :
    ∃ calls download,
      Writes part host ((downloaded (b.recorded part) settings workspace s).run host).2 calls ∧
      Fetched (fetchRequest settings s.connection workspace download) download host.files calls
        (((downloaded (b.recorded part) settings workspace s).run host).1.map .stream) := by
  rw [downloaded, Action.run_bind, run_onFiles]
  -- the directory is made before the call, and the file opened after it
  cases hdirectory : temporaryDirectory host.files with
  | error fault => exact ⟨[], "", Writes.refl host, .noDirectory hdirectory⟩
  | ok made =>
    obtain ⟨directory, files⟩ := made
    obtain ⟨e, hrequest, hwrites, hfiles, hended⟩ := Session.asks_get b part s
      (settings.toolchain.artifactPath workspace) (Path.join directory "kernel.wdb")
      { host with files }
    have hwrites : Writes part host _ _ := hwrites.congr rfl rfl
    refine ⟨[e], Path.join directory "kernel.wdb", ?_⟩
    simp only [Action.run_bind]
    generalize (Session.get (b.recorded part) s _ _).run { host with files } = ended
      at hwrites hfiles hended ⊢
    obtain ⟨outcome, after⟩ := ended
    cases hfailure : e.call.failure? with
    | some f =>
      rw [Call.outcome_of_failed hfailure] at hended
      subst hended
      exact ⟨hwrites, .broken hrequest hfailure⟩
    | none =>
      rw [Call.outcome_of_answered hfailure] at hended
      subst hended
      simp only [run_onFiles]
      have hfiles : after.files = e.files := hfiles
      cases hopen : openFile (Path.join directory "kernel.wdb") after.files with
      | error fault =>
        rw [hfiles] at hopen
        exact ⟨hwrites, .notOpened hrequest hfailure hopen⟩
      | ok found =>
        obtain ⟨node, files'⟩ := found
        rw [files_openFile hopen, hfiles] at hopen
        exact ⟨hwrites.congr rfl rfl, .opened hrequest hfailure hopen⟩

/-! ### The work over a session -/

/-- After the plan, the download asks for nothing but its file. -/
theorem Fetched.requests_prefix {request : Request} {download : String} {files : FileSystem}
    {calls : Record} {outcome : Outcome Source}
    (hfetched : Fetched request download files calls outcome) : requests calls <+: [request] := by
  have hone : ∀ e : Entry, e.call.request = request → requests [e] <+: [request] := by
    intro e hrequest
    rw [requests_cons, hrequest]
    exact List.prefix_rfl
  cases hfetched with
  | noDirectory _ => exact List.nil_prefix
  | broken hrequest _ => exact hone _ hrequest
  | notOpened hrequest _ _ => exact hone _ hrequest
  | opened hrequest _ _ => exact hone _ hrequest

/-- Calls that follow the plan of the work, and the download, are work over the connection. -/
theorem working_of_follows {settings : Settings} {limits : Limits}
    {kernel hostProgram workspace download : String} {connection : Nat} {files : FileSystem}
    {calls : Record} {outcome : Outcome Source}
    (hfollows : Follows (Fetched (fetchRequest settings connection workspace download) download)
      files (workPlan settings limits kernel hostProgram connection workspace) calls outcome) :
    ∀ e ∈ calls, Working connection e.call.request := by
  intro e he
  have hinitial := hfollows.requests_prefix fun _ _ _ h => h.requests_prefix
  exact working_of_mem (hinitial.subset (List.mem_map_of_mem he))

/-- Calls that follow the plan from the files on, and the download, provision nothing. -/
theorem filterMap_provisioned_of_follows {settings : Settings} {limits : Limits}
    {kernel hostProgram workspace download : String} {connection : Nat} {files : FileSystem}
    {calls : Record} {outcome : Outcome Source}
    (hfollows : Follows (Fetched (fetchRequest settings connection workspace download) download)
      files (preparePlan settings limits kernel hostProgram connection workspace) calls outcome) :
    calls.filterMap (fun e => e.call.provisioned?) = [] := by
  rw [List.filterMap_eq_nil_iff]
  intro e he
  -- only the first request of a run provisions, and it is not among these
  have hinitial := hfollows.requests_prefix fun _ _ _ h => h.requests_prefix
  have hmem : e.call.request ∈ requests calls := List.mem_map_of_mem he
  refine Call.provisioned?_of_request ?_
  rcases List.mem_append.mp (hinitial.subset hmem) with hplan | hfetch
  · exact isProvision_of_mem_preparePlan hplan
  · rw [List.mem_singleton.mp hfetch]
    rfl

/-- The calls of the work in the workspace. -/
theorem run_inWorkspace (b : Backend ε) (part : Part ε Record) (settings : Settings)
    (limits : Limits) (kernel hostProgram workspace : String) (s : Session) (host : Host ε) :
    ∃ calls download,
      Writes part host ((inWorkspace (b.recorded part) settings limits kernel hostProgram workspace
        s).run host).2 calls ∧
      Follows (Fetched (fetchRequest settings s.connection workspace download) download) host.files
        (preparePlan settings limits kernel hostProgram s.connection workspace) calls
        ((inWorkspace (b.recorded part) settings limits kernel hostProgram workspace s).run
          host).1 := by
  obtain ⟨first, hfirst, hfiles, hfollows⟩ :=
    makes_prepared b part settings limits kernel hostProgram workspace s host
  rw [inWorkspace, Action.run_bind]
  generalize (prepared (b.recorded part) settings limits kernel hostProgram workspace s).run host =
    ended at hfirst hfiles hfollows ⊢
  obtain ⟨outcome, middle⟩ := ended
  cases outcome with
  | done _ =>
    -- the plan was followed to its end, and the download begins on the files of its last call
    obtain ⟨later, download, hlater, hfetched⟩ := run_downloaded b part settings workspace s
      (middle.note (Step.startEvent "download_artifact"))
    simp only [Action.run_bind, run_announced]
    generalize (downloaded (b.recorded part) settings workspace s).run _ = ended
      at hlater hfetched ⊢
    obtain ⟨outcome, after⟩ := ended
    have hlater : Writes part middle _ _ := hlater.congr rfl
      (Step.outside_noteEnd "download_artifact" outcome after)
    have hwrites := hfirst.trans hlater
    rw [Host.files_note, hfiles] at hfetched
    have hend := hfollows.append (.finished hfetched)
    rw [List.append_nil] at hend
    refine ⟨first ++ later, download, ?_, ?_⟩
    · cases outcome <;> exact hwrites
    · cases outcome <;> exact hend
  | failed f =>
    -- no download, so any name for it will do
    have hend := hfollows.append_of_failed
      (Fetched (fetchRequest settings s.connection workspace "") "") []
    rw [List.append_nil] at hend
    exact ⟨first, "", hfirst, hend⟩
  | crashed => exact absurd rfl (hfollows.ne_crashed fun _ _ _ => Finished.ne_crashed)

/-- **What the work over a session wrote down.** The calls follow the plan and then the download,
for one and the same workspace; and the session that is left knows the workspace exactly when one
was provisioned. -/
def Worked (part : Part ε Record) (settings : Settings) (limits : Limits)
    (kernel hostProgram : String) (connection : Nat) (host : Host ε)
    (ended : Outcome Source × (Session × Host ε)) : Prop :=
  ∃ calls workspace download, Writes part host ended.2.2 calls ∧
    Follows (Fetched (fetchRequest settings connection workspace download) download) host.files
      (workPlan settings limits kernel hostProgram connection workspace) calls ended.1 ∧
    ended.2.1.connection = connection ∧
    calls.filterMap (fun e => e.call.provisioned?) = ended.2.1.workspace.toList ∧
    ∀ w ∈ ended.2.1.workspace, w = workspace

theorem worked (b : Backend ε) (part : Part ε Record) {settings : Settings}
    {hostProgram : String} (hset : settings.hostProgram = some hostProgram) (limits : Limits)
    (kernel : String) (connection : Nat) (host : Host ε) :
    Worked part settings limits kernel hostProgram connection host
      ((work (b.recorded part) settings limits kernel).run (⟨connection, none⟩, host)) := by
  obtain ⟨e, hrequest, hwrites, hfiles, hended⟩ := Session.run_provision b part ⟨connection, none⟩
    (host.note (Step.startEvent "provision_remote_dir"))
  have hwrites : Writes part host _ _ := hwrites.congr rfl rfl
  rw [work_eq _ hset, Action.run_bind, run_phase]
  generalize (Session.provision (b.recorded part)).run _ = provisioned
    at hwrites hfiles hended ⊢
  obtain ⟨outcome, s, middle⟩ := provisioned
  rcases hended with ⟨f, hfailed, hnothing, rfl, rfl⟩ | ⟨workspace, hanswered, hdirectory, rfl, rfl⟩
  · -- the provisioning failed: one call, and no workspace
    refine ⟨[e], "", "", hwrites.congr rfl (Step.outside_noteEnd _ _ _), ?_, rfl, ?_, by simp⟩
    · rw [workPlan, ← hrequest]
      exact .broken hfailed
    · simp [hnothing]
  · -- the calls of the work in the workspace come after the provisioning
    have hwrites : Writes part host _ _ := hwrites.congr rfl
      (Step.outside_noteEnd "provision_remote_dir" (.done workspace : Outcome String) middle)
    have hbegun : (Step.noteEnd "provision_remote_dir" (.done workspace : Outcome String)
        middle).files = e.files := by
      rw [Step.files_noteEnd]
      exact hfiles
    obtain ⟨calls, download, hlater, hfollows⟩ := run_inWorkspace b part settings limits kernel
      hostProgram workspace ⟨connection, some workspace⟩
      (Step.noteEnd "provision_remote_dir" (.done workspace : Outcome String) middle)
    simp only [run_overSession]
    refine ⟨e :: calls, workspace, download, hwrites.trans hlater, ?_, rfl, ?_, ?_⟩
    · rw [hbegun] at hfollows
      rw [workPlan, ← hrequest]
      exact .answered hanswered hfollows
    · have hrest := filterMap_provisioned_of_follows hfollows
      rw [List.filterMap_cons, hdirectory, hrest]
      rfl
    · intro w hw
      exact (Option.mem_some_iff.mp hw).symm

/-! ### The release -/

/-- The round of releases leaves the host that the release of the session leaves, but for notes. -/
theorem exists_release_of_settled (b : Backend ε) (s : Session) (host : Host ε) :
    ∃ begun : Host ε, begun.files = host.files ∧ begun.outside = host.outside ∧
      (settled b s host).2.files = (Session.release b s begun).2.2.files ∧
      (settled b s host).2.outside = (Session.release b s begun).2.2.outside := by
  refine ⟨(host.note (Script.releaseEvent info.name "cleanup")).note (Step.startEvent "cleanup"),
    rfl, rfl, ?_⟩
  generalize hbegun : (host.note (Script.releaseEvent info.name "cleanup")).note
    (Step.startEvent "cleanup") = begun
  have hstate : ((releaseSession b).run (s, begun)).2 = (Session.release b s begun).2 := by
    rw [Action.run, releaseSession]
    rcases Session.release b s begun with ⟨_ | _, state⟩ <;> rfl
  rw [← hstate]
  simp only [settled, run_phase, hbegun]
  generalize (releaseSession b).run (s, begun) = ended
  obtain ⟨outcome, s', after⟩ := ended
  cases outcome <;> exact ⟨rfl, rfl⟩

/-- The release round writes down the release of the session and nothing else. -/
theorem settled_writes (b : Backend ε) (part : Part ε Record) (s : Session) (host : Host ε) :
    ∃ calls, requests calls = s.workspace.toList.map (removal s.connection) ++
        [.close s.connection] ∧
      Writes part host (settled (b.recorded part) s host).2 calls := by
  obtain ⟨begun, -, houtside, -, hsettled⟩ :=
    exists_release_of_settled (b.recorded part) s host
  obtain ⟨calls, hrequests, hwrites⟩ := Session.release_writes b part s begun
  exact ⟨calls, hrequests, hwrites.congr houtside.symm hsettled⟩

/-! ### The whole course -/

/-- **What one run writes down**, first before and then from the release on.

* `unset`: a setting is missing, and nothing is called;
* `unconnected`: the connection is not opened, and nothing else is called;
* `connected`: the work over the session follows its plan, and then the workspace is removed, if one
  was provisioned, and the connection is closed. -/
inductive Ran (settings : Settings) (limits : Limits) (kernel : String) :
    Record → Record → Outcome Source → Prop
  | unset {f : Failure} (hunset : settings.hostProgram = none ∨ settings.target = none) :
      Ran settings limits kernel [] [] (.failed f)
  | unconnected {target : Target} {e : Entry} {f : Failure}
      (htarget : settings.target = some target) (hrequest : e.call.request = .connect target)
      (hfailed : e.call.failure? = some f) (hopened : e.call.opened? = none) :
      Ran settings limits kernel [e] [] (.failed f)
  | connected {target : Target} {hostProgram workspace download : String} {e : Entry}
      {connection : Nat} {calls cleanup : Record} {outcome : Outcome Source}
      (hset : settings.hostProgram = some hostProgram) (htarget : settings.target = some target)
      (hrequest : e.call.request = .connect target) (hanswered : e.call.failure? = none)
      (hopened : e.call.opened? = some connection)
      (hfollows : Follows (Fetched (fetchRequest settings connection workspace download) download)
        e.files (workPlan settings limits kernel hostProgram connection workspace) calls outcome)
      (hprovisioned : calls.filterMap (fun e => e.call.provisioned?) <+: [workspace])
      (hcleanup : requests cleanup =
        (calls.filterMap fun e => e.call.provisioned?).map (removal connection) ++
          [.close connection]) :
      Ran settings limits kernel (e :: calls) cleanup outcome

theorem Fetched.ne_crashed {request : Request} {download : String} {files : FileSystem}
    {calls : Record} {outcome : Outcome Source}
    (hfetched : Fetched request download files calls outcome) : outcome ≠ .crashed := by
  cases hfetched <;> simp

/-- Work over a session that did not crash is followed by the release. -/
theorem finishing_of_ne_crashed (b : Backend ε) {outcome : Outcome Source} (s : Session)
    (host : Host ε) (hsafe : outcome ≠ .crashed) :
    finishing b (outcome, (s, host)) = (outcome, (settled b s host).2) := by
  cases outcome with
  | crashed => exact absurd rfl hsafe
  | _ => rfl

/-- **Where a setting is missing, the course is the check that finds so**, and nothing else. -/
theorem run_course_of_unset (b : Backend ε) (limits : Limits) (kernel : String)
    {settings : Settings} (hunset : settings.hostProgram = none ∨ settings.target = none)
    (host : Host ε) :
    ∃ key, (course b settings limits kernel).run host =
      (announced "check_config" (.fail (missing key) : Action (Host ε) Source)).run host := by
  have hchecked : ∃ key, ∀ host : Host ε,
      (checked settings).run host = (.failed (missing key), host) := by
    rcases hunset with hnone | hnone
    · exact ⟨"host", fun host => by rw [checked, hnone]; rfl⟩
    · cases hset : settings.hostProgram with
      | none => exact ⟨"host", fun host => by rw [checked, hset]; rfl⟩
      | some _ => exact ⟨"ssh_host", fun host => by rw [checked, hset, hnone]; rfl⟩
  obtain ⟨key, hkey⟩ := hchecked
  refine ⟨key, ?_⟩
  rw [course, Action.run_bind, run_announced, hkey]
  rfl

/-- A run in which a setting is missing ends with that check, once its input has been converted. -/
theorem run_stage_of_unset (b : Backend ε) (limits : Limits) {settings : Settings}
    (hunset : settings.hostProgram = none ∨ settings.target = none) {input : Source}
    {kernel : String} {host : Host ε} {files : FileSystem}
    (hconvert : Conversion.convert input info.input host.files = (.ok (.path kernel), files)) :
    ∃ key, ((stage b settings limits).run input).run host =
      (announced "check_config" (.fail (missing key) : Action (Host ε) Source)).run
        (begun host files) := by
  obtain ⟨key, hrun⟩ := run_course_of_unset b limits kernel hunset (begun host files)
  refine ⟨key, ?_⟩
  rw [run_stage_eq b settings limits hconvert, hrun]
  rfl

/-- Where a setting is missing, the course ends before anything is called. -/
theorem course_of_unset (b : Backend ε) (limits : Limits) (kernel : String) {settings : Settings}
    (hunset : settings.hostProgram = none ∨ settings.target = none) (host : Host ε) :
    ∃ f after, (course b settings limits kernel).run host = (.failed f, after) ∧
      after.outside = host.outside := by
  obtain ⟨key, hrun⟩ := run_course_of_unset b limits kernel hunset host
  exact ⟨_, _, hrun, Step.outside_noteEnd _ _ _⟩

/-- Where the settings are there, the course begins with the connection. -/
theorem course_of_set (b : Backend ε) (limits : Limits) (kernel : String) {settings : Settings}
    {hostProgram : String} {target : Target} (hset : settings.hostProgram = some hostProgram)
    (htarget : settings.target = some target) (host : Host ε) :
    ∃ begun : Host ε, begun.outside = host.outside ∧
      (course b settings limits kernel).run host =
        (announced "connect" (Session.lift (b.connect target)) >>=
          released b (work b settings limits kernel)).run begun := by
  have hchecked : ∀ host : Host ε, (checked settings).run host = (.done (), host) := by
    intro host
    rw [checked, hset, htarget]
    rfl
  have hopened : opened b settings = Session.lift (b.connect target) := by
    rw [opened, htarget]
    rfl
  refine ⟨Step.noteEnd "check_config" (.done () : Outcome Unit)
    (host.note (Step.startEvent "check_config")), rfl, ?_⟩
  rw [course, Action.run_bind, run_announced, hchecked, hopened]

/-- **The calls of a run.** -/
theorem run_course (b : Backend ε) (part : Part ε Record) (settings : Settings) (limits : Limits)
    (kernel : String) (host : Host ε) :
    ∃ calls cleanup,
      Writes part host ((course (b.recorded part) settings limits kernel).run host).2
        (calls ++ cleanup) ∧
      Ran settings limits kernel calls cleanup
        ((course (b.recorded part) settings limits kernel).run host).1 := by
  by_cases hunset : settings.hostProgram = none ∨ settings.target = none
  · obtain ⟨f, after, hrun, houtside⟩ :=
      course_of_unset (b.recorded part) limits kernel hunset host
    rw [hrun]
    exact ⟨[], [], (Writes.refl host).congr rfl houtside, .unset hunset⟩
  obtain ⟨hprogram, hhost⟩ := not_or.mp hunset
  obtain ⟨hostProgram, hset⟩ := Option.ne_none_iff_exists'.mp hprogram
  obtain ⟨target, htarget⟩ := Option.ne_none_iff_exists'.mp hhost
  obtain ⟨begun, houtside, hrun⟩ :=
    course_of_set (b.recorded part) limits kernel hset htarget host
  obtain ⟨e, hrequest, hwrites, hfiles, hended⟩ := Session.run_connect b part target
    (begun.note (Step.startEvent "connect"))
  have hwrites : Writes part host _ _ := hwrites.congr houtside.symm rfl
  rw [hrun, Action.run_bind, run_announced]
  generalize (Session.lift ((b.recorded part).connect target)).run _ = ended
    at hwrites hfiles hended ⊢
  obtain ⟨outcome, middle⟩ := ended
  rcases hended with ⟨f, hfailed, hopened, rfl⟩ | ⟨connection, hanswered, hopened, rfl⟩
  · exact ⟨[e], [], hwrites.congr rfl (Step.outside_noteEnd _ _ _),
      .unconnected htarget hrequest hfailed hopened⟩
  · -- the connection is open: the work over the session, and then the release
    have hwrites : Writes part host _ _ := hwrites.congr rfl
      (Step.outside_noteEnd "connect" (.done connection : Outcome Nat) middle)
    obtain ⟨calls, workspace, download, hworked, hfollows, hconnection, hprovisioned, hsame⟩ :=
      worked b part hset limits kernel connection
        (Step.noteEnd "connect" (.done connection : Outcome Nat) middle)
    rw [Step.files_noteEnd, show middle.files = e.files from hfiles] at hfollows
    simp only [Action.run, released] at hworked hfollows hconnection hprovisioned hsame ⊢
    generalize work (b.recorded part) settings limits kernel _ = ended
      at hworked hfollows hconnection hprovisioned hsame ⊢
    obtain ⟨outcome, s, after⟩ := ended
    obtain ⟨cleanup, hcleanup, hsettled⟩ := settled_writes b part s after
    rw [finishing_of_ne_crashed _ s after (hfollows.ne_crashed fun _ _ _ => Fetched.ne_crashed)]
    dsimp only at hconnection hprovisioned hsame hworked
    subst hconnection
    refine ⟨e :: calls, cleanup, (hwrites.trans hworked).trans hsettled, ?_⟩
    refine .connected hset htarget hrequest hanswered hopened hfollows ?_ ?_
    · -- what the session remembers is what was provisioned, and it is the workspace of the plan
      rw [hprovisioned]
      cases hworkspace : s.workspace with
      | none => exact List.nil_prefix
      | some w =>
        rw [hsame w hworkspace]
        exact List.prefix_rfl
    · rw [hprovisioned]
      exact hcleanup

/-! ### Configurations -/

/-- The stage of a configuration is the stage of some settings. -/
theorem exists_settings_of_stageOf {b : Backend ε} {limits : Limits} {c : Config.Context}
    {s : Stage ε} (hstage : stageOf b limits c = .ok s) :
    ∃ settings, Settings.ofContext c = .ok settings ∧ s = stage b settings limits := by
  rw [stageOf] at hstage
  cases hsettings : Settings.ofContext c with
  | error f =>
    rw [hsettings] at hstage
    cases hstage
  | ok settings =>
    rw [hsettings] at hstage
    exact ⟨settings, rfl, (Except.ok.inj hstage).symm⟩

/-- What the settings of a configuration say of the two hosts. -/
theorem hosts_of_ofContext {c : Config.Context} {settings : Settings}
    (hsettings : Settings.ofContext c = .ok settings) :
    settings.hostProgram = c.getString? stageName "host" ∧
      settings.target.map Target.host = c.getString? stageName "ssh_host" := by
  rw [Settings.ofContext] at hsettings
  cases hport : sshPort c with
  | error f =>
    rw [hport] at hsettings
    cases hsettings
  | ok port =>
    rw [hport] at hsettings
    cases htoolchain : Toolchain.ofContext c with
    | error f =>
      rw [htoolchain] at hsettings
      cases hsettings
    | ok toolchain =>
      rw [htoolchain] at hsettings
      obtain rfl := Except.ok.inj hsettings
      refine ⟨rfl, ?_⟩
      change (targetOf c port).map Target.host = _
      rw [targetOf, Option.map_map]
      cases c.getString? stageName "ssh_host" <;> rfl

/-- A configuration that gives what only the user can give. -/
def sampleContext : Config.Context :=
  .ofValue (.table [("stages", .table [(stageName, .table
    [("host", .string "host.cpp"), ("ssh_host", .string "fpga")])])])

end ArtifactPipeline.Emulation
