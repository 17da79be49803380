import ArtifactPipeline.Emulation.Stage
import ArtifactPipeline.Proofs.Step.Call

/-!
# The steps of the emulation as phases

A step borrows its arguments, checks them, runs its body and checks the result. For the steps of the
emulation all the checks pass, because the stage only ever hands them what it made for them. What is
left of a step is a *phase*: an action over the session, between the two notes that every step puts
around its body.

* `ActsAs` says that a call of a step with a session and further arguments amounts to a phase;
* `ActsAlone` says the same of a step without parameters, which has no session to work over;
* there is one lemma for each step, and one for the three steps that run a command.
-/

namespace ArtifactPipeline.Emulation

open Remote

variable {ε α β : Type}

/-! ### Phases -/

/-- An action on the host between the notes that a step puts around its body. -/
def announced (name : String) (x : Action (Host ε) α) : Action (Host ε) α := fun host =>
  let ended := x.run (host.note (Step.startEvent name))
  (ended.1, Step.noteEnd name ended.1 ended.2)

/-- Work over a session between the notes that a step puts around its body. -/
def phase (name : String) (x : Action (Session × Host ε) α) : Action (Session × Host ε) α :=
  fun (s, host) =>
    let ended := x.run (s, host.note (Step.startEvent name))
    (ended.1, (ended.2.1, Step.noteEnd name ended.1 ended.2.2))

theorem run_phase (name : String) (x : Action (Session × Host ε) α) (s : Session) (host : Host ε) :
    (phase name x).run (s, host) =
      let ended := x.run (s, host.note (Step.startEvent name))
      (ended.1, (ended.2.1, Step.noteEnd name ended.1 ended.2.2)) := rfl

theorem run_announced (name : String) (x : Action (Host ε) α) (host : Host ε) :
    (announced name x).run host =
      let ended := x.run (host.note (Step.startEvent name))
      (ended.1, Step.noteEnd name ended.1 ended.2) := rfl

theorem run_overSession (f : Session → Action (Host ε) α) (s : Session) (host : Host ε) :
    (overSession f).run (s, host) =
      (((f s).run host).1, (s, ((f s).run host).2)) := rfl

/-- A phase that leaves the session alone is an announced action on the host. -/
theorem phase_overSession (name : String) (f : Session → Action (Host ε) α) :
    phase name (overSession f) = overSession fun s => announced name (f s) := rfl

/-- Work that leaves the session alone may be put together on the host. -/
theorem overSession_bind (f : Session → Action (Host ε) α)
    (g : α → Session → Action (Host ε) β) :
    (overSession f >>= fun a => overSession (g a)) =
      overSession fun s => f s >>= fun a => g a s := by
  funext state
  obtain ⟨s, host⟩ := state
  change (overSession f >>= fun a => overSession (g a)).run (s, host) =
    (overSession fun s => f s >>= fun a => g a s).run (s, host)
  rw [Action.run_bind, run_overSession, run_overSession, Action.run_bind]
  rcases (f s).run host with ⟨_ | _ | _, host'⟩ <;> rfl

/-! ### What the steps amount to -/

/-- **A step amounts to a phase.** Called with a session and further arguments, the step leaves the
further arguments where they are, and does to the session and the host what the phase does. -/
def ActsAs (step : Step ε) (others : List Source) (x : Action (Session × Host ε) α)
    (emit : α → Option Source) : Prop :=
  ∀ s host, step.call.run (some (.untyped (.session s)) :: others.map some, host) =
    let ended := (phase step.name x).run (s, host)
    (ended.1.map emit, (some (.untyped (.session ended.2.1)) :: others.map some, ended.2.2))

/-- The frame of a step that was lent a session and further arguments. -/
def lent (n : Nat) (others : List Source) (hn : others.length + 1 = n) (s : Session)
    (host : Host ε) : Frame ε n :=
  ⟨⟨(some (.untyped (.session s)) :: others.map some).toArray, by simpa using hn⟩, host⟩

section Lent

variable {n : Nat} {others : List Source} {hn : others.length + 1 = n} {s : Session} {host : Host ε}

theorem values_lent_zero :
    (lent n others hn s host).values[0]? = some (some (.untyped (.session s))) := by
  simp [lent]

theorem values_lent_succ (i : Nat) :
    (lent n others hn s host).values[i + 1]? = others[i]?.map some := by
  simp [lent]

theorem run_withSession (signature : Signature) (x : Action (Session × Host ε) α) :
    (Arguments.withPayload .session signature 0 x).run (lent n others hn s host) =
      let ended := x.run (s, host)
      (ended.1, lent n others hn ended.2.1 ended.2.2) := by
  rw [Arguments.run_withPayload (t := .session) (a := s) x values_lent_zero]
  simp [lent, PayloadType.session]

theorem run_onHost_lent (x : Action (Host ε) α) :
    (Arguments.onHost x).run (lent n others hn s host) =
      ((x.run host).1, lent n others hn s (x.run host).2) := rfl

end Lent

/-- A step acts as a phase when its body does, and the arguments and the result pass the checks. -/
theorem actsAs_of_body {signature : Signature}
    {body : Action (Frame ε signature.parameters.length) (Option Source)} {others : List Source}
    {x : Action (Session × Host ε) α} {emit : α → Option Source}
    (hcount : others.length + 1 = signature.parameters.length)
    (hfits : ∀ s, Signature.checkEach signature.name signature.parameters
      (some (.untyped (.session s)) :: others.map some) = .ok ())
    (hresult : ∀ a, signature.checkResult (emit a) = .ok (emit a))
    (hbody : ∀ (hn : others.length + 1 = signature.parameters.length) s host,
      body.run (lent _ others hn s host) =
        let ended := x.run (s, host)
        (ended.1.map emit, lent _ others hn ended.2.1 ended.2.2)) :
    ActsAs ⟨signature, body⟩ others x emit := by
  intro s host
  have hlength : (some (.untyped (.session s)) :: others.map some : List (Option Source)).length
      = signature.parameters.length := by simpa using hcount
  rw [Step.run_call hlength (hfits s)]
  -- the frame that the call sets up is the one that the body is known on
  have hran := hbody hcount s (host.note (Step.startEvent signature.name))
  rw [lent] at hran
  rw [hran, run_phase]
  rcases x.run (s, host.note (Step.startEvent signature.name)) with ⟨outcome, s', host'⟩
  -- the result passes its check, whatever the phase has handed out
  cases outcome <;> simp [Step.checkOutcome, hresult, Step.noteEnd, Step.endEvent, lent]

/-- The command of a step that runs one in the workspace. -/
def commanded (b : Backend ε) (limits : Limits) (command : CommandLine) :
    Action (Session × Host ε) Unit :=
  overSession fun s => Session.runLogged b s command limits

/-- Copying the three files. -/
def uploaded (b : Backend ε) (settings : Settings) (workspace kernel : String) :
    Action (Session × Host ε) Unit := do
  let hostProgram ← .ofExcept (given "host" settings.hostProgram)
  overSession fun s => do
    Session.put b s kernel (workspace ++ "/kernel.xclbin")
    Session.put b s hostProgram (workspace ++ "/host.cpp")
    Session.put b s settings.runtimeConfig (workspace ++ "/xrt.ini")

/-- Fetching the waveforms. -/
def downloaded (b : Backend ε) (settings : Settings) (workspace : String) (s : Session) :
    Action (Host ε) Stream := do
  let directory ← Host.onFiles temporaryDirectory
  let localPath := Path.join directory "kernel.wdb"
  Session.get b s (settings.toolchain.artifactPath workspace) localPath
  let node ← Host.onFiles (openFile localPath)
  return ⟨.opened node 0, some localPath⟩

theorem actsAs_provision (b : Backend ε) :
    ActsAs (provision b) [] (Session.provision b) fun workspace => some (.string workspace) := by
  refine actsAs_of_body rfl (fun _ => rfl) (fun _ => rfl) ?_
  intro hn s host
  rw [Action.run_bind, run_withSession]
  rcases (Session.provision b).run (s, host) with ⟨_ | _ | _, s', host'⟩ <;> rfl

theorem actsAs_upload (b : Backend ε) (settings : Settings) (workspace kernel : String) :
    ActsAs (upload b settings) [.string workspace, .path kernel]
      (uploaded b settings workspace kernel) fun _ => none := by
  refine actsAs_of_body rfl (fun _ => rfl) (fun _ => rfl) ?_
  intro hn s host
  rw [uploaded]
  -- the body asks for the workspace and the kernel, which are there, and then for the setting
  rw [Action.run_bind, Arguments.run_text (values_lent_succ 0)]
  simp only [Action.run_bind]
  rw [Arguments.run_path (values_lent_succ 1)]
  simp only [Action.run_ofExcept]
  cases given "host" settings.hostProgram with
  | error f => rfl
  | ok hostProgram =>
    simp only [Outcome.ofExcept_ok]
    rw [run_withSession]
    rcases Action.run _ _ with ⟨_ | _ | _, s', host'⟩ <;> rfl

/-- The three commands in the workspace differ in name, description and command only. -/
theorem actsAs_workspaceCommand (b : Backend ε) (limits : Limits) (name description : String)
    (command : String → CommandLine) (workspace : String) :
    ActsAs ⟨commandSignature name description, workspaceCommand b limits _ command⟩
      [.string workspace] (commanded b limits (command workspace)) fun _ => none := by
  refine actsAs_of_body rfl (fun _ => rfl) (fun _ => rfl) ?_
  intro hn s host
  rw [workspaceCommand, commanded]
  rw [Action.run_bind, Arguments.run_text (values_lent_succ 0)]
  simp only [Action.run_bind]
  rw [run_withSession]
  rcases Action.run _ _ with ⟨_ | _ | _, s', host'⟩ <;> rfl

theorem actsAs_download (b : Backend ε) (settings : Settings) (workspace : String) :
    ActsAs (download b settings) [.string workspace]
      (overSession (downloaded b settings workspace))
      fun waveforms => some (.stream waveforms) := by
  refine actsAs_of_body rfl (fun _ => rfl) (fun _ => rfl) ?_
  intro hn s host
  rw [Action.run_bind, Arguments.run_text (values_lent_succ 0)]
  simp only [run_overSession, downloaded, Action.run_bind, run_onHost_lent]
  -- directory, call, file: each may fail, and the session is back in its place before the last
  rcases (Host.onFiles temporaryDirectory).run host with ⟨directory | _ | _, host⟩
  · simp only [run_withSession, run_overSession]
    rcases Action.run (Session.get b s _ _) host with ⟨_ | _ | _, host⟩
    · simp only [run_onHost_lent]
      rcases (Host.onFiles (openFile _)).run host with ⟨_ | _ | _, host⟩ <;> rfl
    · rfl
    · rfl
  · rfl
  · rfl

theorem actsAs_cleanup (b : Backend ε) :
    ActsAs (cleanup b) [] (releaseSession b) fun _ => none := by
  refine actsAs_of_body rfl (fun _ => rfl) (fun _ => rfl) ?_
  intro hn s host
  rw [Action.run_bind, run_withSession]
  rcases (releaseSession b).run (s, host) with ⟨_ | _ | _, s', host'⟩ <;> rfl

/-! ### Steps without parameters -/

/-- A step without parameters amounts to an announced action on the host. -/
def ActsAlone (step : Step ε) (x : Action (Host ε) α) (emit : α → Option Source) : Prop :=
  ∀ host, step.call.run ([], host) =
    let ended := (announced step.name x).run host
    (ended.1.map emit, ([], ended.2))

theorem actsAlone_of_body {signature : Signature}
    {body : Action (Frame ε signature.parameters.length) (Option Source)}
    {x : Action (Host ε) α} {emit : α → Option Source}
    (hnone : signature.parameters = [])
    (hresult : ∀ a, signature.checkResult (emit a) = .ok (emit a))
    (hbody : ∀ values host, body.run ⟨values, host⟩ =
      let ended := x.run host
      (ended.1.map emit, ⟨values, ended.2⟩)) : ActsAlone ⟨signature, body⟩ x emit := by
  intro host
  have hlength : ([] : List (Option Source)).length = signature.parameters.length := by
    simp [hnone]
  have hfits : Signature.checkEach signature.name signature.parameters [] = .ok () := by
    rw [hnone]
    rfl
  -- without parameters there is nothing to check
  rw [Step.run_call hlength hfits, run_announced]
  simp only [hbody]
  rcases x.run (host.note (Step.startEvent signature.name)) with ⟨outcome, host'⟩
  cases outcome <;> simp [Step.checkOutcome, hresult, Step.noteEnd, Step.endEvent]

/-- Asking for the settings that only the user can give. -/
def checked (settings : Settings) : Action (Host ε) Unit := do
  let _ ← .ofExcept (given "host" settings.hostProgram)
  let _ ← .ofExcept (given "ssh_host" settings.target)

/-- Opening the connection. -/
def opened (b : Backend ε) (settings : Settings) : Action (Host ε) Nat := do
  let target ← .ofExcept (given "ssh_host" settings.target)
  Session.lift (b.connect target)

theorem actsAlone_checkConfig (settings : Settings) :
    ActsAlone (checkConfig settings : Step ε) (checked settings) fun _ => none := by
  refine actsAlone_of_body rfl (fun _ => rfl) fun values host => ?_
  rw [checked]
  cases given "host" settings.hostProgram <;> cases given "ssh_host" settings.target <;> rfl

theorem actsAlone_connect (b : Backend ε) (settings : Settings) :
    ActsAlone (connect b settings) (opened b settings)
      fun connection => some (.untyped (.session ⟨connection, none⟩)) := by
  refine actsAlone_of_body rfl (fun _ => rfl) fun values host => ?_
  rw [opened]
  simp only [Action.run_bind, Action.run_ofExcept]
  cases given "ssh_host" settings.target with
  | error f => rfl
  | ok target =>
    simp only [Outcome.ofExcept_ok, Arguments.run_onHost]
    rcases (Session.lift (b.connect target)).run host with ⟨_ | _ | _, host'⟩ <;> rfl

end ArtifactPipeline.Emulation
