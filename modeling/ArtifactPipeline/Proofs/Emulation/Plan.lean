import ArtifactPipeline.Emulation.Stage
import ArtifactPipeline.Proofs.Remote.Plan

/-!
# The plan of an emulation

What the emulation asks a backend for, as far as it is fixed in advance: the requests of the work
over a session, in order (`workPlan`), the one of the download (`fetchRequest`), and those of the
release (`removal`, and the closing). The facts below tell the three apart. A command in the
workspace begins by going there, so it neither provisions a workspace nor removes one.
-/

namespace ArtifactPipeline.Emulation

open Remote

/-! ### The plan -/

/-- The commands that are run in the workspace, in order. -/
def workspaceCommands (settings : Settings) (workspace : String) : List CommandLine :=
  [settings.toolchain.compileCommand workspace, settings.toolchain.deviceConfigCommand workspace,
    settings.toolchain.emulateCommand workspace]

/-- What is asked for between the provisioning and the download. -/
def preparePlan (settings : Settings) (limits : Limits) (kernel hostProgram : String)
    (connection : Nat) (workspace : String) : List Request :=
  [.put connection kernel (workspace ++ "/kernel.xclbin"),
    .put connection hostProgram (workspace ++ "/host.cpp"),
    .put connection settings.runtimeConfig (workspace ++ "/xrt.ini")] ++
  (workspaceCommands settings workspace).map fun command => .exec connection command limits

/-- **The plan of the work over a session**, up to the download. -/
def workPlan (settings : Settings) (limits : Limits) (kernel hostProgram : String)
    (connection : Nat) (workspace : String) : List Request :=
  .exec connection Session.provisionCommand .unlimited ::
    preparePlan settings limits kernel hostProgram connection workspace

/-- The request of the download. -/
def fetchRequest (settings : Settings) (connection : Nat) (workspace download : String) : Request :=
  .get connection (settings.toolchain.artifactPath workspace) download

/-- A command line begins with its first two tokens. -/
theorem ofTokens_eq_append (first second : String) (rest : List String) :
    ∃ tail, CommandLine.ofTokens (first :: second :: rest) =
      first ++ (" " ++ (second ++ tail)) := by
  refine ⟨String.intercalate " " ("" :: rest), ?_⟩
  have hsecond : String.intercalate " " (second :: rest) =
      second ++ String.intercalate " " ("" :: rest) := by
    rw [← String.intercalate_cons_append, String.append_empty]
  rw [CommandLine.ofTokens, String.intercalate_cons_cons, hsecond, String.append_assoc]

/-- The commands in the workspace are put together from tokens, of which the first two are the
same. -/
theorem exists_tokens_of_mem {settings : Settings} {workspace command : String}
    (hcommand : command ∈ workspaceCommands settings workspace) :
    ∃ third tokens,
      command = CommandLine.ofTokens (("cd " ++ workspace) :: "&&" :: third :: tokens) := by
  rcases List.mem_cons.mp hcommand with rfl | hcommand
  · exact ⟨_, _, rfl⟩
  rcases List.mem_cons.mp hcommand with rfl | hcommand
  · exact ⟨_, _, rfl⟩
  rcases List.mem_singleton.mp hcommand with rfl
  exact ⟨_, _, rfl⟩

/-- **Every command in the workspace first goes there.** -/
theorem workspaceCommands_eq_append (settings : Settings) (workspace : String) :
    ∀ command ∈ workspaceCommands settings workspace,
      ∃ tail, command = "cd " ++ workspace ++ " &&" ++ tail := by
  intro command hcommand
  obtain ⟨third, tokens, rfl⟩ := exists_tokens_of_mem hcommand
  obtain ⟨tail, htail⟩ := ofTokens_eq_append ("cd " ++ workspace) "&&" (third :: tokens)
  have hblank : " " ++ ("&&" ++ tail) = " &&" ++ tail := by
    rw [← String.append_assoc]
    rfl
  refine ⟨tail, ?_⟩
  rw [htail, hblank, ← String.append_assoc]

/-- No command in the workspace provisions one. -/
theorem ne_provisionCommand_of_mem {settings : Settings} {workspace command : String}
    (hcommand : command ∈ workspaceCommands settings workspace) :
    command ≠ Session.provisionCommand := by
  obtain ⟨tail, rfl⟩ := workspaceCommands_eq_append settings workspace command hcommand
  intro hsame
  -- their first characters differ
  have hfirst := congrArg (fun text : String => text.toList.head?) hsame
  simp [Session.provisionCommand] at hfirst

theorem isProvision_of_mem_preparePlan {settings : Settings} {limits : Limits}
    {kernel hostProgram workspace : String} {connection : Nat} {r : Request}
    (hmem : r ∈ preparePlan settings limits kernel hostProgram connection workspace) :
    r.isProvision = false := by
  rcases List.mem_append.mp hmem with hput | hexec
  · simp only [List.mem_cons, List.not_mem_nil, or_false] at hput
    rcases hput with rfl | rfl | rfl <;> rfl
  · obtain ⟨command, hcommand, rfl⟩ := List.mem_map.mp hexec
    exact beq_false_of_ne (ne_provisionCommand_of_mem hcommand)

/-! ### The work and the release -/

/-- A request of the work over a connection: it neither opens nor closes nor removes anything. -/
structure Working (connection : Nat) (r : Request) : Prop where
  isConnect : r.isConnect = false
  closed? : r.closed? = none
  removed? : r.removed? = none
  over? : r.over? = some connection

theorem working_of_mem {settings : Settings} {limits : Limits}
    {kernel hostProgram workspace download : String} {connection : Nat} {r : Request}
    (hmem : r ∈ workPlan settings limits kernel hostProgram connection workspace ++
      [fetchRequest settings connection workspace download]) : Working connection r := by
  rcases List.mem_append.mp hmem with hplan | hfetch
  · rcases List.mem_cons.mp hplan with rfl | hprepare
    · exact ⟨rfl, rfl, rfl, rfl⟩
    · rcases List.mem_append.mp hprepare with hput | hexec
      · simp only [List.mem_cons, List.not_mem_nil, or_false] at hput
        rcases hput with rfl | rfl | rfl <;> exact ⟨rfl, rfl, rfl, rfl⟩
      · -- a command that goes somewhere first is no removal
        obtain ⟨command, hcommand, rfl⟩ := List.mem_map.mp hexec
        obtain ⟨tail, rfl⟩ := workspaceCommands_eq_append settings workspace command hcommand
        refine ⟨rfl, rfl, ?_, rfl⟩
        rw [String.append_assoc, String.append_assoc]
        exact Request.removed?_exec_cd connection _ limits
  · rw [List.mem_singleton.mp hfetch]
    exact ⟨rfl, rfl, rfl, rfl⟩

/-- The request by which a workspace is removed. -/
def removal (connection : Nat) (workspace : String) : Request :=
  .exec connection (Session.removeCommand workspace) .unlimited

/-- A removal is not a provisioning. -/
theorem isProvision_removal (connection : Nat) (workspace : String) :
    (removal connection workspace).isProvision = false := by
  refine beq_false_of_ne fun hsame => ?_
  have hfirst := congrArg (fun text : String => text.toList.head?) hsame
  simp [Session.removeCommand, Session.provisionCommand] at hfirst

/-- What the release asks for is the removal of a workspace or the closing. -/
theorem mem_requests_cleanup {connection : Nat} {workspaces : List String} {cleanup : Record}
    (hcleanup : requests cleanup = workspaces.map (removal connection) ++ [.close connection])
    {e : Entry} (he : e ∈ cleanup) :
    (∃ workspace, e.call.request = removal connection workspace) ∨
      e.call.request = .close connection := by
  have hmem : e.call.request ∈ requests cleanup := List.mem_map_of_mem he
  rw [hcleanup] at hmem
  rcases List.mem_append.mp hmem with hremoval | hclose
  · obtain ⟨workspace, -, hworkspace⟩ := List.mem_map.mp hremoval
    exact .inl ⟨workspace, hworkspace.symm⟩
  · exact .inr (List.mem_singleton.mp hclose)

/-- What the release asks for belongs to a release. -/
theorem isCleanup_of_mem {connection : Nat} {workspaces : List String} {cleanup : Record}
    (hcleanup : requests cleanup = workspaces.map (removal connection) ++ [.close connection])
    {e : Entry} (he : e ∈ cleanup) : e.call.request.isCleanup = true := by
  rcases mem_requests_cleanup hcleanup he with ⟨workspace, h⟩ | h
  · rw [h, Request.isCleanup, removal, Request.removed?_exec_removeCommand]
    rfl
  · rw [h]
    rfl

/-- What the work asks for does not. -/
theorem Working.isCleanup {connection : Nat} {r : Request} (hworking : Working connection r) :
    r.isCleanup = false := by
  rw [Request.isCleanup, hworking.removed?, hworking.closed?]
  rfl

end ArtifactPipeline.Emulation
