import ArtifactPipeline.Proofs.Emulation.Calls
import ArtifactPipeline.Remote.FakeHost

/-!
# The protocol of an emulation

The calls that a run of the emulation makes before the release are the beginning of one fixed
sequence (`protocol`), and the run ends with the first of them that fails, with the failure of that
call and no other. Only when no call fails does the local host have a say, in two places: it makes
the directory for the download, and it opens the file that came.

* `Performed` says this of the calls and the outcome of one run;
* `Abides` adds which workspace the calls go to, and what the release may do;
* `protocol_followed` says it of every run, and that what the release is answered changes nothing.
-/

namespace ArtifactPipeline.Emulation

open Remote

variable {ε : Type}

/-- **The calls of a run**, in order, up to the release. -/
def protocol (settings : Settings) (limits : Limits) (target : Target) (kernel hostProgram : String)
    (connection : Nat) (workspace download : String) : List Request :=
  .connect target :: (workPlan settings limits kernel hostProgram connection workspace ++
    [fetchRequest settings connection workspace download])

/-- **A plan is performed.** The calls are the beginning of the plan; none is made after one that
failed; and the failure of a call is the outcome. Where no call fails the last step is up to the
local host: it may be unable to make the directory for the download, which is then not asked for, or
to open what came; and otherwise the outcome is a stream over the download. -/
structure Performed (plan : List Request) (download : String) (files : FileSystem) (calls : Record)
    (outcome : Outcome Source) : Prop where
  in_order : requests calls <+: plan
  stops : calls.Pairwise fun c _ => c.call.failure? = none
  unchanged : ∀ e ∈ calls, ∀ f, e.call.failure? = some f → outcome = .failed f
  completes : (∀ e ∈ calls, e.call.failure? = none) →
    (∃ fault, temporaryDirectory (filesAfter files calls) = .error fault ∧
      requests calls = plan.dropLast ∧ outcome = .failed (.io fault)) ∨
    (∃ fault, openFile download (filesAfter files calls) = .error fault ∧
      requests calls = plan ∧ outcome = .failed (.io fault)) ∨
    ∃ node, openFile download (filesAfter files calls) = .ok (node, filesAfter files calls) ∧
      requests calls = plan ∧ outcome = .done (.stream ⟨.opened node 0, some download⟩)

/-- **A run abides by the protocol.** -/
structure Abides (settings : Settings) (limits : Limits) (target : Target)
    (kernel hostProgram : String) (files : FileSystem) (calls cleanup : Record)
    (outcome : Outcome Source) (connection : Nat) (workspace download : String) : Prop where
  performed : Performed
    (protocol settings limits target kernel hostProgram connection workspace download)
    download files calls outcome
  /-- The connection is the one that was opened. -/
  connected : ∀ e ∈ calls, ∀ n, e.call.opened? = some n → n = connection
  /-- The workspace is the one that was provisioned. -/
  provisioned : ∀ e ∈ calls, ∀ w, e.call.provisioned? = some w → w = workspace
  /-- Every command in the workspace goes there first. -/
  goes_there : ∀ command ∈ workspaceCommands settings workspace,
    ∃ tail, command = "cd " ++ workspace ++ " &&" ++ tail
  /-- Nothing is released before the release. -/
  before : ∀ e ∈ calls, e.call.request.isCleanup = false
  /-- Nothing else is done from the release on. -/
  after : ∀ e ∈ cleanup, e.call.request.isCleanup = true

/-! ### The calls before the release -/

/-- The download performs its one request. -/
theorem Fetched.performed {request : Request} {download : String} {files : FileSystem}
    {calls : Record} {outcome : Outcome Source}
    (hfetched : Fetched request download files calls outcome) :
    Performed [request] download files calls outcome := by
  have hinitial := hfetched.requests_prefix
  cases hfetched with
  | noDirectory hfault =>
    exact ⟨hinitial, .nil, fun _ he => (nomatch he), fun _ => .inl ⟨_, hfault, rfl, rfl⟩⟩
  | @broken e f _ hfailed =>
    refine ⟨hinitial, List.pairwise_singleton _ _, fun c hc g hg => ?_, fun hanswered => ?_⟩
    · rw [List.mem_singleton.mp hc, hfailed] at hg
      rw [Option.some.inj hg]
    · rw [hanswered e (List.mem_singleton_self e)] at hfailed
      cases hfailed
  | @notOpened e fault hrequest hanswered hfault =>
    refine ⟨hinitial, List.pairwise_singleton _ _, fun c hc g hg => ?_, fun _ => ?_⟩
    · rw [List.mem_singleton.mp hc, hanswered] at hg
      cases hg
    · exact .inr (.inl ⟨fault, hfault, congrArg (fun r => [r]) hrequest, rfl⟩)
  | @opened e node hrequest hanswered hnode =>
    refine ⟨hinitial, List.pairwise_singleton _ _, fun c hc g hg => ?_, fun _ => ?_⟩
    · rw [List.mem_singleton.mp hc, hanswered] at hg
      cases hg
    · exact .inr (.inr ⟨node, hnode, congrArg (fun r => [r]) hrequest, rfl⟩)

/-- **Calls that follow a plan and then the download perform the two together.** -/
theorem performed_of_follows {request : Request} {download : String} {files : FileSystem}
    {plan : List Request} {calls : Record} {outcome : Outcome Source}
    (hfollows : Follows (Fetched request download) files plan calls outcome) :
    Performed (plan ++ [request]) download files calls outcome := by
  refine ⟨hfollows.requests_prefix fun _ _ _ h => h.requests_prefix,
    hfollows.stops fun _ _ _ h => h.performed.stops,
    hfollows.unchanged fun _ _ _ h => h.performed.unchanged, fun hall => ?_⟩
  -- no call failed, so the whole plan was followed and the download decides
  obtain ⟨first, later, rfl, rfl, hfetched⟩ := hfollows.final_of_answered hall
  have hlast := hfetched.performed.completes fun e he => hall e (List.mem_append_right first he)
  rw [filesAfter_append, requests_append, List.dropLast_concat]
  rcases hlast with ⟨fault, hfault, hlater, h⟩ | ⟨fault, hfault, hlater, h⟩ |
    ⟨node, hnode, hlater, h⟩
  · -- without a directory the request for the file is the one that is left out
    refine .inl ⟨fault, hfault, ?_, h⟩
    rw [hlater]
    exact List.append_nil _
  · exact .inr (.inl ⟨fault, hfault, congrArg _ hlater, h⟩)
  · exact .inr (.inr ⟨node, hnode, congrArg _ hlater, h⟩)

/-- What a run writes down abides by the protocol. -/
theorem Ran.abides {settings : Settings} {limits : Limits} {target : Target}
    {kernel hostProgram : String} {calls cleanup : Record} {outcome : Outcome Source}
    (hran : Ran settings limits kernel calls cleanup outcome)
    (hset : settings.hostProgram = some hostProgram) (htarget : settings.target = some target)
    (files : FileSystem) :
    ∃ connection workspace download, Abides settings limits target kernel hostProgram files calls
      cleanup outcome connection workspace download := by
  cases hran with
  | unset hunset =>
    -- both settings are there
    rcases hunset with hnone | hnone
    · rw [hset] at hnone
      cases hnone
    · rw [htarget] at hnone
      cases hnone
  | @unconnected _ e f htarget' hrequest hfailed hopened =>
    obtain rfl := Option.some.inj (htarget.symm.trans htarget')
    -- no connection and no workspace, so any names will do
    refine ⟨0, "", "", ?_, ?_, ?_, workspaceCommands_eq_append settings "", ?_,
      fun _ h => nomatch h⟩
    · rw [protocol, ← hrequest]
      exact performed_of_follows (.broken hfailed)
    · intro c hc n hn
      rw [List.mem_singleton.mp hc, hopened] at hn
      cases hn
    · intro c hc w hw
      rw [List.mem_singleton.mp hc, Call.provisioned?_of_failed hfailed] at hw
      cases hw
    · intro c hc
      rw [List.mem_singleton.mp hc, hrequest]
      rfl
  | @connected _ _ workspace download e connection calls _ _ hset' htarget' hrequest hanswered
      hopened hfollows hprovisioned hcleanup =>
    obtain rfl := Option.some.inj (htarget.symm.trans htarget')
    obtain rfl := Option.some.inj (hset.symm.trans hset')
    have hworking := working_of_follows hfollows
    refine ⟨connection, workspace, download, ?_, ?_, ?_,
      workspaceCommands_eq_append settings workspace, ?_, fun _ => isCleanup_of_mem hcleanup⟩
    · rw [protocol, ← hrequest]
      exact performed_of_follows (.answered hanswered hfollows)
    · intro c hc n hn
      rcases List.mem_cons.mp hc with rfl | hc
      · rw [hopened] at hn
        exact (Option.some.inj hn).symm
      · rw [Call.opened?_of_request (hworking c hc).isConnect] at hn
        cases hn
    · intro c hc w hw
      rcases List.mem_cons.mp hc with rfl | hc
      · rw [Call.provisioned?_of_request (by rw [hrequest]; rfl)] at hw
        cases hw
      · exact List.mem_singleton.mp (hprovisioned.subset (List.mem_filterMap.mpr ⟨c, hc, hw⟩))
    · intro c hc
      rcases List.mem_cons.mp hc with rfl | hc
      · rw [hrequest]
        rfl
      · exact (hworking c hc).isCleanup

/-- What a run comes to passes the check of the stage. -/
theorem Ran.delivered {settings : Settings} {limits : Limits} {kernel : String}
    {calls cleanup : Record} {outcome : Outcome Source}
    (hran : Ran settings limits kernel calls cleanup outcome) : delivered outcome = outcome := by
  cases hran with
  | unset _ => rfl
  | unconnected _ _ _ _ => rfl
  | connected _ _ _ _ _ hfollows _ _ =>
    refine hfollows.outcome_holds (P := fun outcome => Emulation.delivered outcome = outcome)
      (fun _ => rfl) fun _ _ _ hfetched => ?_
    cases hfetched <;> rfl

/-! ### What the release is answered -/

/-- **Two backends differ only in the release**: in what they do when a connection is closed, and on
the commands that remove a workspace. -/
structure SameBeforeRelease (b b' : Backend ε) : Prop where
  connect : b'.connect = b.connect
  exec : ∀ connection command limits,
    (Request.exec connection command limits).isCleanup = false →
      b'.exec connection command limits = b.exec connection command limits
  put : b'.put = b.put
  get : b'.get = b.get

section SameBeforeRelease

variable {b b' : Backend ε} (hsame : SameBeforeRelease b b')

include hsame

theorem SameBeforeRelease.session_exec {connection : Nat} {command : String} {limits : Limits}
    (hcommand : (Request.exec connection command limits).isCleanup = false) (s : Session)
    (hs : s.connection = connection) (listen : String → Host ε → Host ε) :
    Session.exec b' s command limits listen = Session.exec b s command limits listen := by
  subst hs
  funext host
  rw [Session.exec, Session.exec, hsame.exec _ _ _ hcommand]

theorem SameBeforeRelease.commanded {settings : Settings} {workspace command : String}
    (hcommand : command ∈ workspaceCommands settings workspace) (limits : Limits) :
    commanded b' limits command = commanded b limits command := by
  -- a command that goes somewhere first removes nothing, so the two backends agree on it
  obtain ⟨tail, rfl⟩ := workspaceCommands_eq_append settings workspace command hcommand
  have hrun : ∀ s : Session, Session.runLogged b' s ("cd " ++ workspace ++ " &&" ++ tail) limits =
      Session.runLogged b s ("cd " ++ workspace ++ " &&" ++ tail) limits := by
    intro s
    rw [Session.runLogged, Session.runLogged, hsame.session_exec ?_ s rfl]
    rw [Request.isCleanup, String.append_assoc, String.append_assoc, Request.removed?_exec_cd]
    rfl
  rw [Emulation.commanded, Emulation.commanded, funext hrun]

/-- The work over a session does not notice. -/
theorem SameBeforeRelease.work (settings : Settings) (limits : Limits) (kernel : String) :
    work b' settings limits kernel = work b settings limits kernel := by
  have hprovision : Session.provision b' = Session.provision b := by
    funext ⟨s, host⟩
    rw [Session.provision, Session.provision, Session.capture, Session.capture,
      hsame.session_exec rfl s rfl]
  have hupload : ∀ workspace, uploaded b' settings workspace kernel =
      uploaded b settings workspace kernel := by
    intro workspace
    simp only [uploaded, Session.put, hsame.put]
  have hdownload : ∀ workspace, downloaded b' settings workspace =
      downloaded b settings workspace := by
    intro workspace
    funext s
    simp only [downloaded, Session.get, hsame.get]
  have hcommand : ∀ workspace, ∀ command ∈ workspaceCommands settings workspace,
      Emulation.commanded b' limits command = Emulation.commanded b limits command :=
    fun _ _ hcommand => hsame.commanded hcommand limits
  have hcompile := fun workspace => hcommand workspace
    (settings.toolchain.compileCommand workspace) (by simp [workspaceCommands])
  have hconfigure := fun workspace => hcommand workspace
    (settings.toolchain.deviceConfigCommand workspace) (by simp [workspaceCommands])
  have hemulate := fun workspace => hcommand workspace
    (settings.toolchain.emulateCommand workspace) (by simp [workspaceCommands])
  simp only [Emulation.work, hprovision, hupload, hdownload, hcompile, hconfigure, hemulate]

/-- The outcome of a run does not depend on what the release is answered. -/
theorem SameBeforeRelease.outcome_course (settings : Settings) (limits : Limits) (kernel : String)
    (host : Host ε) :
    ((course b' settings limits kernel).run host).1 =
      ((course b settings limits kernel).run host).1 := by
  have hopened : opened b' settings = opened b settings := by
    simp only [opened, hsame.connect]
  -- the work is the same, and the release does not touch its outcome
  have hreleased : ∀ connection host, (released b' (Emulation.work b' settings limits kernel)
      connection host).1 = (released b (Emulation.work b settings limits kernel)
        connection host).1 := by
    intro connection host
    rw [released, released, hsame.work]
    rcases Action.run _ _ with ⟨_ | _ | _, s, after⟩ <;> rfl
  rw [course, course, Action.run_bind, Action.run_bind, hopened]
  rcases (announced "check_config" (checked settings)).run host with ⟨_ | _ | _, middle⟩
  · simp only [Action.run_bind]
    rcases (announced "connect" (opened b settings)).run middle with ⟨connection | _ | _, after⟩
    · exact hreleased connection after
    · rfl
    · rfl
  · rfl
  · rfl

theorem SameBeforeRelease.outcome_run (settings : Settings) (limits : Limits) (kernel : String)
    (host : Host ε) :
    (((stage b' settings limits).run (.path kernel)).run host).1 =
      (((stage b settings limits).run (.path kernel)).run host).1 := by
  obtain ⟨hrun', -⟩ := run_stage b' settings limits (convert_path kernel host.files)
  obtain ⟨hrun, -⟩ := run_stage b settings limits (convert_path kernel host.files)
  rw [hrun', hrun, hsame.outcome_course]

end SameBeforeRelease

/-! ### Every run -/

/-- **The protocol is followed.** Take any configuration that the stage accepts and that names the
host program and the remote host, any backend, recorded, any kernel file and any host. The calls of
one run are those of the protocol, up to the first that fails, and then those of the release; the
failure of that call is the outcome; and the outcome stays the same whatever the release is
answered. -/
theorem protocol_followed (b : Backend ε) (part : Part ε Record) {limits : Limits}
    {c : Config.Context} {s : Stage ε} {hostProgram sshHost : String}
    (hstage : stageOf (b.recorded part) limits c = .ok s)
    (hhost : c.getString? stageName "host" = some hostProgram)
    (hssh : c.getString? stageName "ssh_host" = some sshHost) (kernel : String) (host : Host ε) :
    ∃ settings target, Settings.ofContext c = .ok settings ∧ settings.target = some target ∧
      target.host = sshHost ∧
      (∃ calls cleanup connection workspace download,
        Writes part host ((s.run (.path kernel)).run host).2 (calls ++ cleanup) ∧
        Abides settings limits target kernel hostProgram host.files calls cleanup
          ((s.run (.path kernel)).run host).1 connection workspace download) ∧
      ∀ b' s', SameBeforeRelease (b.recorded part) b' → stageOf b' limits c = .ok s' →
        ((s'.run (.path kernel)).run host).1 = ((s.run (.path kernel)).run host).1 := by
  obtain ⟨settings, hsettings, rfl⟩ := exists_settings_of_stageOf hstage
  obtain ⟨hset, hhosts⟩ := hosts_of_ofContext hsettings
  rw [hhost] at hset
  rw [hssh] at hhosts
  obtain ⟨target, htarget, rfl⟩ := Option.map_eq_some_iff.mp hhosts
  refine ⟨settings, target, hsettings, htarget, rfl, ?_, ?_⟩
  · obtain ⟨houtcome, houtside⟩ :=
      run_stage (b.recorded part) settings limits (convert_path kernel host.files)
    obtain ⟨calls, cleanup, hwrites, hran⟩ :=
      run_course b part settings limits kernel (begun host host.files)
    obtain ⟨connection, workspace, download, habides⟩ := hran.abides hset htarget host.files
    refine ⟨calls, cleanup, connection, workspace, download, hwrites.congr rfl houtside, ?_⟩
    rw [houtcome, hran.delivered]
    exact habides
  · -- the settings come from the configuration, so they are the same for both backends
    intro b' s' hsame hstage'
    obtain ⟨settings', hsettings', rfl⟩ := exists_settings_of_stageOf hstage'
    obtain rfl := Except.ok.inj (hsettings.symm.trans hsettings')
    exact hsame.outcome_run settings limits kernel host

/-- The protocol is followed on the fake host, for a configuration that names both hosts. -/
theorem protocol_followed_on_fakeHost :
    ∃ s : Stage (FakeHost × Record),
      stageOf ((FakeHost.backend .first).recorded .second) .unlimited sampleContext = .ok s ∧
        ∀ kernel host, ∃ settings target, Settings.ofContext sampleContext = .ok settings ∧
          settings.target = some target ∧ target.host = "fpga" ∧
          ∃ calls cleanup connection workspace download,
            Writes .second host ((s.run (.path kernel)).run host).2 (calls ++ cleanup) ∧
            Abides settings .unlimited target kernel "host.cpp" host.files calls cleanup
              ((s.run (.path kernel)).run host).1 connection workspace download := by
  obtain ⟨s, hstage⟩ : ∃ s : Stage (FakeHost × Record),
      stageOf ((FakeHost.backend .first).recorded .second) .unlimited sampleContext = .ok s :=
    ⟨_, rfl⟩
  have hhost : sampleContext.getString? stageName "host" = some "host.cpp" := by decide
  have hssh : sampleContext.getString? stageName "ssh_host" = some "fpga" := by decide
  refine ⟨s, hstage, fun kernel host => ?_⟩
  obtain ⟨settings, target, hsettings, htarget, hremote, hcalls, -⟩ :=
    protocol_followed (FakeHost.backend .first) .second hstage hhost hssh kernel host
  exact ⟨settings, target, hsettings, htarget, hremote, hcalls⟩

end ArtifactPipeline.Emulation
