import ArtifactPipeline.Proofs.Emulation.Invariant
import ArtifactPipeline.Proofs.Emulation.Protocol
import ArtifactPipeline.Proofs.Emulation.Release
import ArtifactPipeline.Proofs.Emulation.Residue
import ArtifactPipeline.Proofs.Remote.Interruption

/-!
# An emulation that the user stops

The user may ask to stop at any moment between two calls of a run. Three commands of the run heed
this, the ones in the workspace; all other calls are made as before, those of the release among
them. So nothing long is begun any more, the run fails unless the emulation was under way already,
and what was acquired is released all the same. `Stopped` says this of the calls of one run on a fake
host, and `stopped_at_any_moment` says it of every run.

The proof puts two descriptions of the calls together: `Ran`, which says what was asked for, and
`Served`, which says how a fake host that is interrupted answers.
-/

namespace ArtifactPipeline.Emulation

open Remote

/-- No emulation was asked for. -/
def Unemulated (settings : Settings) (calls : Record) : Prop :=
  ∀ e ∈ calls, ∀ connection workspace limits,
    e.call.request ≠ .exec connection (settings.toolchain.emulateCommand workspace) limits

/-- **A run that the user stopped**, when a number of its calls had been made. -/
structure Stopped (settings : Settings) (moment : Nat) (before after : FakeHost) (calls : Record)
    (outcome : Outcome Source) : Prop where
  /-- What the host has carried out. -/
  seen : after.calls.execs = before.calls.execs ++ calls.filterMap fun e => e.call.carried?
  /-- From the moment on, none of the commands in a workspace is carried out. -/
  nothing_begun : ∀ e ∈ calls.drop moment, ∀ workspace,
    ∀ command ∈ workspaceCommands settings workspace, e.call.carried? ≠ some command
  /-- Unless the emulation was asked for by then, the run fails. -/
  fails : Unemulated settings (calls.take moment) → ∃ f, outcome = .failed f
  /-- When nothing else went wrong, it fails because it was stopped. -/
  cancelled : Unemulated settings (calls.take moment) → calls ≠ [] →
    (∀ e ∈ calls, e.call.request.isCleanup = false → ∀ f, e.call.failure? = some f →
      f = .transport .cancelled) → outcome = .failed (.transport .cancelled)
  /-- What was acquired is released, as in every run. -/
  released : Released calls
  /-- The host carries out the removal of the workspace, if one was provisioned. -/
  removed : ∀ e ∈ calls, ∀ workspace, e.call.provisioned? = some workspace →
    Session.removeCommand workspace ∈ calls.filterMap fun e => e.call.carried?
  /-- The host has seen one closing for the connection that was opened. -/
  closed : after.calls.closes =
    before.calls.closes + (calls.filterMap fun e => e.call.opened?).length

/-! ### What was asked for -/

/-- Only a command is carried out. -/
theorem Call.exists_request_of_carried {c : Call} {command : String}
    (hcarried : c.carried? = some command) :
    ∃ connection limits, c.request = .exec connection command limits := by
  cases c with
  | exec connection line limits delivery =>
    rw [Call.carried?] at hcarried
    split at hcarried
    · obtain rfl := Option.some.inj hcarried
      exact ⟨connection, limits, rfl⟩
    · cases hcarried
  | _ => cases hcarried

/-- A command in a workspace does not belong to a release. -/
theorem isCleanup_of_mem_workspaceCommands {settings : Settings} {workspace command : String}
    (hcommand : command ∈ workspaceCommands settings workspace) (connection : Nat)
    (limits : Limits) : (Request.exec connection command limits).isCleanup = false := by
  obtain ⟨tail, rfl⟩ := workspaceCommands_eq_append settings workspace command hcommand
  rw [Request.isCleanup, String.append_assoc, String.append_assoc, Request.removed?_exec_cd]
  rfl

/-- A plan holds the commands in a workspace with the limits that it was given. -/
theorem limits_eq_of_mem {settings : Settings} {limits limits' : Limits}
    {kernel hostProgram workspace workspace' download command : String}
    {connection connection' : Nat} (hcommand : command ∈ workspaceCommands settings workspace')
    (hmem : .exec connection' command limits' ∈
      workPlan settings limits kernel hostProgram connection workspace ++
        [fetchRequest settings connection workspace download]) : limits' = limits := by
  rcases List.mem_append.mp hmem with hplan | hfetch
  · rcases List.mem_cons.mp hplan with hprovision | hprepare
    · -- the command that provisions a workspace is none of those in one
      injection hprovision with _ hsame _
      exact absurd hsame (ne_provisionCommand_of_mem hcommand)
    rcases List.mem_append.mp hprepare with hput | hexec
    · simp at hput
    · obtain ⟨line, -, hline⟩ := List.mem_map.mp hexec
      injection hline with _ _ hlimits
      exact hlimits.symm
  · rw [List.mem_singleton] at hfetch
    cases hfetch

section Ran

variable {settings : Settings} {limits : Limits} {kernel : String} {calls cleanup : Record}
  {outcome : Outcome Source}

/-- **The commands in a workspace are run with the limits of the stage**, and no other command looks
like one. -/
theorem Ran.limits_eq (hran : Ran settings limits kernel calls cleanup outcome) {e : Entry}
    (he : e ∈ calls ++ cleanup) {connection : Nat} {workspace command : String} {limits' : Limits}
    (hcommand : command ∈ workspaceCommands settings workspace)
    (hrequest : e.call.request = .exec connection command limits') : limits' = limits := by
  cases hran with
  | unset _ => cases he
  | unconnected _ hconnect _ _ =>
    rw [List.append_nil, List.mem_singleton] at he
    rw [he, hconnect] at hrequest
    cases hrequest
  | @connected _ _ _ _ _ _ calls _ _ _ _ hconnect _ _ hfollows _ hcleanup =>
    rcases List.mem_append.mp he with he | he
    · rcases List.mem_cons.mp he with rfl | he
      · rw [hconnect] at hrequest
        cases hrequest
      have hmem : e.call.request ∈ requests calls := List.mem_map_of_mem he
      rw [hrequest] at hmem
      exact limits_eq_of_mem hcommand
        ((hfollows.requests_prefix fun _ _ _ h => h.requests_prefix).subset hmem)
    · have hlate := isCleanup_of_mem hcleanup he
      rw [hrequest, isCleanup_of_mem_workspaceCommands hcommand] at hlate
      cases hlate

/-- **A run whose emulation fails, if it is asked for, fails**, with the failure of one of its
calls. -/
theorem Ran.fails (hran : Ran settings limits kernel calls cleanup outcome)
    (hemulation : ∀ e ∈ calls, ∀ connection workspace,
      e.call.request = .exec connection (settings.toolchain.emulateCommand workspace) limits →
        e.call.failure? ≠ none) :
    ∃ f, outcome = .failed f ∧
      (calls ++ cleanup = [] ∨ ∃ e ∈ calls, e.call.failure? = some f) := by
  cases hran with
  | @unset f _ => exact ⟨f, rfl, .inl rfl⟩
  | @unconnected _ e f _ _ hfailed _ => exact ⟨f, rfl, .inr ⟨e, List.mem_singleton_self e, hfailed⟩⟩
  | @connected _ hostProgram workspace _ e connection calls _ _ _ _ _ _ _ hfollows _ _ =>
    by_cases hall : ∀ c ∈ calls, c.call.failure? = none
    · -- the whole plan was followed, and the emulation is a part of it
      obtain ⟨first, later, rfl, hfirst, -⟩ := hfollows.final_of_answered hall
      have hmem : .exec connection (settings.toolchain.emulateCommand workspace) limits ∈
          requests first := by
        rw [hfirst]
        simp [workPlan, preparePlan, workspaceCommands]
      obtain ⟨c, hc, hrequest⟩ := List.mem_map.mp hmem
      have hc := List.mem_append_left later hc
      exact absurd (hall c hc) (hemulation c (List.mem_cons_of_mem e hc) connection workspace hrequest)
    · push Not at hall
      obtain ⟨c, hc, hfailed⟩ := hall
      obtain ⟨f, hf⟩ := Option.ne_none_iff_exists'.mp hfailed
      exact ⟨f, hfollows.unchanged (fun _ _ _ h => h.performed.unchanged) c hc f hf,
        .inr ⟨c, List.mem_cons_of_mem e hc, hf⟩⟩

/-- No call before the release belongs to it. -/
theorem Ran.isCleanup (hran : Ran settings limits kernel calls cleanup outcome) :
    ∀ e ∈ calls, e.call.request.isCleanup = false := by
  intro e he
  cases hran with
  | unset _ => cases he
  | unconnected _ hconnect _ _ =>
    rw [List.mem_singleton.mp he, hconnect]
    rfl
  | connected _ _ hconnect _ _ hfollows _ _ =>
    rcases List.mem_cons.mp he with rfl | he
    · rw [hconnect]
      rfl
    · exact (working_of_follows hfollows e he).isCleanup

/-- A workspace is removed without limits. -/
theorem Ran.removed (hran : Ran settings limits kernel calls cleanup outcome) {e : Entry}
    (he : e ∈ calls ++ cleanup) {workspace : String}
    (hremoved : e.call.request.removed? = some workspace) :
    ∃ connection, e.call.request = removal connection workspace := by
  rcases List.mem_append.mp he with hearly | hlate
  · have hwork := hran.isCleanup e hearly
    rw [Request.isCleanup, hremoved] at hwork
    cases hwork
  cases hran with
  | unset _ => cases hlate
  | unconnected _ _ _ _ => cases hlate
  | @connected _ _ _ _ _ connection _ _ _ _ _ _ _ _ _ _ hcleanup =>
    rcases mem_requests_cleanup hcleanup hlate with ⟨workspace', h⟩ | h
    · rw [h, removal, Request.removed?_exec_removeCommand] at hremoved
      obtain rfl := Option.some.inj hremoved
      exact ⟨connection, h⟩
    · rw [h] at hremoved
      cases hremoved

end Ran

/-! ### How it was answered -/

/-- **What a run asked for, answered by a fake host that is interrupted.** -/
theorem Ran.stopped {settings : Settings} {limits : Limits}
    (hcancellable : limits.cancellable = true) {kernel : String} {calls cleanup : Record}
    {outcome : Outcome Source} (hran : Ran settings limits kernel calls cleanup outcome)
    {moment : Nat} {f f' : FakeHost} (hserved : Served moment f (calls ++ cleanup) f') :
    Stopped settings moment f f' (calls ++ cleanup) outcome := by
  -- an emulation that was not asked for before the moment is refused
  have hfails : Unemulated settings ((calls ++ cleanup).take moment) →
      ∃ f, outcome = .failed f ∧
      (calls ++ cleanup = [] ∨ ∃ e ∈ calls, e.call.failure? = some f) := by
    intro hunemulated
    refine hran.fails fun e he connection workspace hrequest hanswered => ?_
    have hall := List.mem_append_left cleanup he
    rw [← List.take_append_drop moment (calls ++ cleanup)] at hall
    rcases List.mem_append.mp hall with hearly | hlate
    · exact hunemulated e hearly connection workspace limits hrequest
    · obtain ⟨-, hrefused⟩ := hserved.cancelled hlate hrequest hcancellable
      rw [hanswered] at hrefused
      cases hrefused
  refine ⟨hserved.execs, ?_, ?_, ?_, hran.released, ?_, ?_⟩
  · intro e he workspace command hcommand hcarried
    obtain ⟨connection, limits', hrequest⟩ := Call.exists_request_of_carried hcarried
    obtain rfl := hran.limits_eq (List.mem_of_mem_drop he) hcommand hrequest
    obtain ⟨hnothing, -⟩ := hserved.cancelled he hrequest hcancellable
    rw [hnothing] at hcarried
    cases hcarried
  · intro hunemulated
    obtain ⟨f, houtcome, -⟩ := hfails hunemulated
    exact ⟨f, houtcome⟩
  · -- the failure is that of a call before the release, and only the user can have caused it
    intro hunemulated hbegun hother
    obtain ⟨f, rfl, hnone | ⟨e, he, hfailed⟩⟩ := hfails hunemulated
    · exact absurd hnone hbegun
    · rw [hother e (List.mem_append_left cleanup he) (hran.isCleanup e he) f hfailed]
  · -- the release asks for the removal without limits, so the flag does not stop it
    intro e he workspace hprovisioned
    have hmem : workspace ∈ (calls ++ cleanup).filterMap fun e => e.call.provisioned? :=
      List.mem_filterMap.mpr ⟨e, he, hprovisioned⟩
    rw [← hran.released.removes] at hmem
    obtain ⟨c, hc, hremoved⟩ := List.mem_filterMap.mp hmem
    obtain ⟨connection, hrequest⟩ := hran.removed hc hremoved
    exact List.mem_filterMap.mpr ⟨c, hc, hserved.unlimited hc hrequest⟩
  · rw [hserved.closes, hran.released.closes]

/-- Nothing is called exactly when there is nothing to call for. -/
theorem Ran.unset_of_nil {settings : Settings} {limits : Limits} {kernel : String}
    {calls cleanup : Record} {outcome : Outcome Source}
    (hran : Ran settings limits kernel calls cleanup outcome) (hnothing : calls ++ cleanup = []) :
    settings.hostProgram = none ∨ settings.target = none := by
  cases hran with
  | unset hunset => exact hunset
  | unconnected _ _ _ _ => cases hnothing
  | connected _ _ _ _ _ _ _ _ => cases hnothing

/-! ### Every run -/

/-- A run that calls nothing is one that the user stopped in vain. -/
theorem stopped_nil (settings : Settings) (moment : Nat) (f : FakeHost) (failure : Failure) :
    Stopped settings moment f f [] (.failed failure) where
  seen := (List.append_nil _).symm
  nothing_begun e he := by
    rw [List.drop_nil] at he
    cases he
  fails _ := ⟨failure, rfl⟩
  cancelled _ hbegun := absurd rfl hbegun
  released := released_nil
  removed _ he := nomatch he
  closed := rfl

/-- **The user may stop a run at any moment.** Take any settings, limits that heed the user, a fake
host that was prepared in any way, any input, and any number of calls; after that many calls of the
run the user asks to stop. From then on none of the commands in a workspace is carried out. Unless
the emulation was asked for before, the run fails, and with the failure that says that it was
stopped, if no call before the release failed for another reason. The workspace is removed by the
host if one was provisioned, and the connection closed once if it was opened. Nothing is called at
all only if the input does not convert or a setting is missing. -/
theorem stopped_at_any_moment (settings : Settings) {limits : Limits}
    (hcancellable : limits.cancellable = true) (moment : Nat) (input : Source)
    (host : Host (FakeHost × Record)) :
    ∃ calls outcome after,
      ((stage (((FakeHost.backend .first).interruptedAt .second
        (host.outside.2.length + moment)).recorded .second) settings limits).run input).run host =
          (outcome, after) ∧
      Writes .second host after calls ∧
      Stopped settings moment host.outside.1 after.outside.1 calls outcome ∧
      (calls = [] → (∃ cause files,
          Conversion.convert input info.input host.files = (.error cause, files)) ∨
        settings.hostProgram = none ∨ settings.target = none) := by
  generalize hb : (FakeHost.backend .first).interruptedAt .second
    (host.outside.2.length + moment) = b
  have hkept := keeps_run (hb ▸ keeps_servedSince host.outside moment) settings limits
    (hb ▸ keepsFetching_servedSince host.outside moment) (fun _ _ _ _ h => h) input
    (fun _ _ h => h) host ⟨[], (List.append_nil _).symm, .begun⟩
  rcases hconvert : Conversion.convert input info.input host.files with ⟨cause | converted, files⟩
  · rw [run_stage_of_unconverted (b.recorded .second) settings limits hconvert]
    exact ⟨[], _, _, rfl, (Writes.refl host).congr rfl rfl, stopped_nil settings moment _ _,
      fun _ => .inl ⟨cause, files, rfl⟩⟩
  · obtain ⟨kernel, rfl⟩ := exists_path_of_convert hconvert
    obtain ⟨houtcome, houtside⟩ := run_stage (b.recorded .second) settings limits hconvert
    obtain ⟨calls, cleanup, hwrites, hran⟩ :=
      run_course b .second settings limits kernel (begun host files)
    rw [← hran.delivered, ← houtcome] at hran
    have hwrites : Writes .second host _ (calls ++ cleanup) := hwrites.congr rfl houtside
    generalize ((stage (b.recorded .second) settings limits).run input).run host = ended
      at hkept hwrites hran ⊢
    obtain ⟨outcome, after⟩ := ended
    obtain ⟨served, hsame, hserved⟩ := hkept
    -- the calls that the fake host has answered are those that are on record
    obtain rfl : calls ++ cleanup = served := List.append_cancel_left (hwrites.symm.trans hsame)
    exact ⟨calls ++ cleanup, outcome, after, rfl, hwrites, hran.stopped hcancellable hserved,
      fun hnothing => .inr (hran.unset_of_nil hnothing)⟩

/-- Whether a run was stopped by the user. -/
def wasCancelled : Outcome Source → Bool
  | .failed (.transport .cancelled) => true
  | _ => false

theorem eq_of_wasCancelled {outcome : Outcome Source} (h : wasCancelled outcome = true) :
    outcome = .failed (.transport .cancelled) := by
  unfold wasCancelled at h
  split at h
  · rfl
  · cases h

/-- A run that the user stops after six calls. -/
def stoppedRun (settings : Settings) : Outcome Source × Host (FakeHost × Record) :=
  ((stage (((FakeHost.backend .first).interruptedAt .second 6).recorded .second) settings
    ⟨none, true⟩).run (.path "kernel.xclbin")).run
      { files := smallFiles, outside := (waitingHost, []) }

/-- What a host has carried out that was asked to compile the host program, and then to tidy up. -/
def compiledOnly (settings : Settings) : List String :=
  ["mktemp -d", settings.toolchain.compileCommand "/tmp/mock.1", "rm -rf /tmp/mock.1"]

/-- Stopped after six calls, when it has compiled the host program and nothing else, a run fails for
this reason, and the host carries out the removal of the workspace. -/
theorem stopped_after_six_calls :
    ∃ settings calls after, Settings.ofContext smallContext = .ok settings ∧
      stoppedRun settings = (.failed (.transport .cancelled), after) ∧
      after.outside.1.calls.execs = compiledOnly settings ∧
      Stopped settings 6 waitingHost after.outside.1 calls (.failed (.transport .cancelled)) := by
  obtain ⟨settings, hsettings⟩ : ∃ settings, Settings.ofContext smallContext = .ok settings :=
    ⟨_, rfl⟩
  have hevaluated : ((Settings.ofContext smallContext).map fun settings =>
      (wasCancelled (stoppedRun settings).1 &&
        (stoppedRun settings).2.outside.1.calls.execs == compiledOnly settings)).toOption =
      some true := by
    decide +kernel
  have hcancellable : (⟨none, true⟩ : Limits).cancellable = true := rfl
  obtain ⟨calls, outcome, after, hrun, -, hstopped, -⟩ := stopped_at_any_moment settings
    hcancellable 6 (.path "kernel.xclbin") { files := smallFiles, outside := (waitingHost, []) }
  have hrun : stoppedRun settings = (outcome, after) := hrun
  rw [hsettings, Except.map, hrun] at hevaluated
  obtain ⟨hcancelled, hexecs⟩ := (Bool.and_eq_true _ _).mp (Option.some.inj hevaluated)
  obtain rfl := eq_of_wasCancelled hcancelled
  exact ⟨settings, calls, after, hsettings, hrun, eq_of_beq hexecs, hstopped⟩

end ArtifactPipeline.Emulation
