import ArtifactPipeline.Proofs.Emulation.Calls
import ArtifactPipeline.Remote.FakeHost

/-!
# The session is released

Whatever a backend answers, and wherever a run of the emulation ends, the connection that was opened
is closed and the workspace that was provisioned is removed, once each, in this order, after
everything else. `Released` says so of the calls of one run, and `session_released` says it of every
run.

The proof reads the calls off `Ran`. The plan of the work holds nothing that belongs to a release
(`working_of_mem`), so what there is of a release in the record is what the release round wrote
down.
-/

namespace ArtifactPipeline.Emulation

open Remote

variable {ε : Type}

/-- **Everything that was acquired is released**, once and last. -/
structure Released (calls : Record) : Prop where
  /-- At most one connection is asked for. -/
  connects_once : calls.countP (fun e => e.call.request.isConnect) ≤ 1
  /-- What is closed is what was opened. -/
  closes : calls.filterMap (fun e => e.call.request.closed?) =
    calls.filterMap fun e => e.call.opened?
  /-- What is removed is what was provisioned. -/
  removes : calls.filterMap (fun e => e.call.request.removed?) =
    calls.filterMap fun e => e.call.provisioned?
  /-- At most one removal is asked for. -/
  removes_once : (calls.filterMap fun e => e.call.request.removed?).length ≤ 1
  /-- After a removal there is nothing but the closing. -/
  removal_late : calls.Pairwise fun c d =>
    c.call.request.removed?.isSome → d.call.request.closed?.isSome
  /-- After the closing there is nothing. -/
  close_last : calls.Pairwise fun c _ => c.call.request.closed? = none
  /-- Everything is done over the connection that was opened. -/
  over_opened : ∀ e ∈ calls, ∀ connection, e.call.request.over? = some connection →
    connection ∈ calls.filterMap fun e => e.call.opened?

/-! ### The work holds nothing of a release -/

/-- In calls that all work over a connection, nothing of a release is found. -/
theorem filterMap_of_working {connection : Nat} {calls : Record}
    (hworking : ∀ e ∈ calls, Working connection e.call.request) :
    calls.countP (fun e => e.call.request.isConnect) = 0 ∧
      calls.filterMap (fun e => e.call.request.closed?) = [] ∧
      calls.filterMap (fun e => e.call.request.removed?) = [] ∧
      calls.filterMap (fun e => e.call.opened?) = [] := by
  refine ⟨?_, ?_, ?_, ?_⟩
  · rw [List.countP_eq_zero]
    intro e he
    rw [(hworking e he).isConnect]
    exact Bool.false_ne_true
  · exact List.filterMap_eq_nil_iff.mpr fun e he => (hworking e he).closed?
  · exact List.filterMap_eq_nil_iff.mpr fun e he => (hworking e he).removed?
  · exact List.filterMap_eq_nil_iff.mpr fun e he =>
      Call.opened?_of_request (hworking e he).isConnect

/-! ### The release holds nothing else -/

/-- Reading requests off a record is reading the record. -/
theorem filterMap_requests {α : Type} (f : Request → Option α) (calls : Record) :
    (requests calls).filterMap f = calls.filterMap fun e => f e.call.request :=
  List.filterMap_map ..

section Cleanup

variable {connection : Nat} {workspaces : List String} {cleanup : Record}

/-- What the release round asks for: the removals, and the one closing. -/
theorem filterMap_cleanup
    (hcleanup : requests cleanup = workspaces.map (removal connection) ++ [.close connection]) :
    cleanup.countP (fun e => e.call.request.isConnect) = 0 ∧
      cleanup.filterMap (fun e => e.call.request.closed?) = [connection] ∧
      cleanup.filterMap (fun e => e.call.request.removed?) = workspaces ∧
      cleanup.filterMap (fun e => e.call.opened?) = [] ∧
      cleanup.filterMap (fun e => e.call.provisioned?) = [] := by
  -- a removal and a closing neither open nor provision anything
  have hconnect : ∀ e ∈ cleanup, e.call.request.isConnect = false := by
    intro e he
    rcases mem_requests_cleanup hcleanup he with ⟨workspace, h⟩ | h <;> rw [h] <;> rfl
  have hprovision : ∀ e ∈ cleanup, e.call.request.isProvision = false := by
    intro e he
    rcases mem_requests_cleanup hcleanup he with ⟨workspace, h⟩ | h
    · rw [h]
      exact isProvision_removal connection workspace
    · rw [h]
      rfl
  refine ⟨?_, ?_, ?_, ?_, ?_⟩
  · rw [List.countP_eq_zero]
    intro e he
    rw [hconnect e he]
    exact Bool.false_ne_true
  · have hremovals : workspaces.filterMap (fun w => (removal connection w).closed?) = [] :=
      List.filterMap_eq_nil_iff.mpr fun _ _ => rfl
    rw [← filterMap_requests, hcleanup, List.filterMap_append, List.filterMap_map]
    change workspaces.filterMap (fun w => (removal connection w).closed?) ++ [connection] = _
    rw [hremovals, List.nil_append]
  · have hremovals : workspaces.filterMap (fun w => (removal connection w).removed?) =
        workspaces := by
      simp only [removal, Request.removed?_exec_removeCommand, List.filterMap_some]
    rw [← filterMap_requests, hcleanup, List.filterMap_append, List.filterMap_map]
    change workspaces.filterMap (fun w => (removal connection w).removed?) ++ [] = _
    rw [hremovals, List.append_nil]
  · exact List.filterMap_eq_nil_iff.mpr fun e he => Call.opened?_of_request (hconnect e he)
  · exact List.filterMap_eq_nil_iff.mpr fun e he => Call.provisioned?_of_request (hprovision e he)

/-- The release round ends with the closing, and there is at most one removal before it. -/
theorem pairwise_cleanup
    (hcleanup : requests cleanup = workspaces.map (removal connection) ++ [.close connection])
    (honce : workspaces.length ≤ 1) :
    (cleanup.Pairwise fun c d => c.call.request.removed?.isSome → d.call.request.closed?.isSome) ∧
      cleanup.Pairwise fun c _ => c.call.request.closed? = none := by
  -- with at most one removal there is at most one pair to look at
  have hremovals : ∀ {R : Request → Request → Prop}, (∀ w, R (removal connection w)
      (.close connection)) → (requests cleanup).Pairwise R := by
    intro R hR
    rw [hcleanup]
    match workspaces, honce with
    | [], _ => exact List.pairwise_singleton _ _
    | [w], _ => exact List.pairwise_pair.mpr (hR w)
  have hlate : (requests cleanup).Pairwise fun c d => c.removed?.isSome → d.closed?.isSome :=
    hremovals fun _ _ => rfl
  have hlast : (requests cleanup).Pairwise fun c _ => c.closed? = none := hremovals fun _ => rfl
  exact ⟨List.pairwise_map.mp hlate, List.pairwise_map.mp hlast⟩

end Cleanup

/-! ### The calls of a run -/

/-- Where nothing is called, nothing is left to release. -/
theorem released_nil : Released [] :=
  ⟨Nat.zero_le 1, rfl, rfl, Nat.zero_le 1, .nil, .nil, fun _ he => nomatch he⟩

/-- Opening a connection neither releases nor provisions anything. -/
theorem unreleased_of_connect {target : Target} {e : Entry}
    (hrequest : e.call.request = .connect target) :
    e.call.request.closed? = none ∧ e.call.request.removed? = none ∧
      e.call.provisioned? = none := by
  refine ⟨?_, ?_, Call.provisioned?_of_request ?_⟩ <;>
    rw [hrequest] <;> rfl

/-- A connection that was opened, some work over it, and the release: all is released. -/
theorem released_of_calls {target : Target} {connection : Nat} {workspaces : List String}
    {e : Entry} {work cleanup : Record} (hrequest : e.call.request = .connect target)
    (hopened : e.call.opened? = some connection)
    (hworking : ∀ e ∈ work, Working connection e.call.request)
    (hprovisioned : work.filterMap (fun e => e.call.provisioned?) = workspaces)
    (honce : workspaces.length ≤ 1)
    (hcleanup : requests cleanup = workspaces.map (removal connection) ++ [.close connection]) :
    Released (e :: (work ++ cleanup)) := by
  obtain ⟨hconnects, hcloses, hremoves, hopens⟩ := filterMap_of_working hworking
  obtain ⟨hconnects', hcloses', hremoves', hopens', hprovisions'⟩ := filterMap_cleanup hcleanup
  obtain ⟨hlate, hlast⟩ := pairwise_cleanup hcleanup honce
  obtain ⟨hclosed, hremoved, hprovision⟩ := unreleased_of_connect hrequest
  have hallOpened : (e :: (work ++ cleanup)).filterMap (fun e => e.call.opened?) =
      [connection] := by
    simp [hopened, hopens, hopens']
  have hallRemoved : (e :: (work ++ cleanup)).filterMap (fun e => e.call.request.removed?) =
      workspaces := by
    simp [hremoved, hremoves, hremoves']
  -- each field is read off the three parts: the connecting, the work, and the release
  refine ⟨?_, ?_, ?_, ?_, ?_, ?_, ?_⟩
  · rw [List.countP_cons, List.countP_append, hconnects, hconnects', hrequest]
    exact Nat.le_refl 1
  · rw [hallOpened]
    simp [hclosed, hcloses, hcloses']
  · rw [hallRemoved]
    simp [hprovision, hprovisioned, hprovisions']
  · rw [hallRemoved]
    exact honce
  · -- neither the connecting nor the work removes anything
    refine List.pairwise_cons.mpr ⟨fun d _ h => ?_, List.pairwise_append.mpr ⟨?_, hlate, ?_⟩⟩
    · rw [hremoved] at h
      cases h
    · refine List.pairwise_iff_forall_sublist.mpr fun hsub h => ?_
      rw [(hworking _ (hsub.subset (List.mem_cons_self))).removed?] at h
      cases h
    · intro c hc d _ h
      rw [(hworking c hc).removed?] at h
      cases h
  · refine List.pairwise_cons.mpr ⟨fun _ _ => hclosed, List.pairwise_append.mpr ⟨?_, hlast, ?_⟩⟩
    · exact List.pairwise_iff_forall_sublist.mpr fun hsub =>
        (hworking _ (hsub.subset List.mem_cons_self)).closed?
    · exact fun c hc _ _ => (hworking c hc).closed?
  · -- the work and the release go over the one connection that was opened
    intro c hc n hover
    rw [hallOpened, List.mem_singleton]
    rcases List.mem_cons.mp hc with rfl | hc
    · rw [hrequest] at hover
      cases hover
    rcases List.mem_append.mp hc with hc | hc
    · rw [(hworking c hc).over?] at hover
      exact (Option.some.inj hover).symm
    · rcases mem_requests_cleanup hcleanup hc with ⟨workspace, h⟩ | h <;> rw [h] at hover <;>
        exact (Option.some.inj hover).symm

/-- A connection that was not opened leaves nothing to release. -/
theorem released_of_unopened {target : Target} {e : Entry}
    (hrequest : e.call.request = .connect target) (hopened : e.call.opened? = none) :
    Released [e] := by
  obtain ⟨hclosed, hremoved, hprovision⟩ := unreleased_of_connect hrequest
  refine ⟨List.countP_le_length, ?_, ?_, ?_, List.pairwise_singleton _ _,
    List.pairwise_singleton _ _, ?_⟩
  · simp [hclosed, hopened]
  · simp [hremoved, hprovision]
  · simp [hremoved]
  · intro c hc n hover
    rw [List.mem_singleton.mp hc, hrequest] at hover
    cases hover

/-- The calls of every run are released. -/
theorem Ran.released {settings : Settings} {limits : Limits} {kernel : String}
    {calls cleanup : Record} {outcome : Outcome Source}
    (hran : Ran settings limits kernel calls cleanup outcome) : Released (calls ++ cleanup) := by
  cases hran with
  | unset _ => exact released_nil
  | unconnected _ hrequest _ hopened => exact released_of_unopened hrequest hopened
  | connected _ _ hrequest _ hopened hfollows hprovisioned hcleanup =>
    exact released_of_calls hrequest hopened (working_of_follows hfollows) rfl
      hprovisioned.length_le hcleanup

/-- **The session is released.** Take any configuration that the stage accepts, any backend,
recorded, any input and any host. The calls that one run makes are such that at most one connection
is asked for; it is closed exactly once if it was opened, and otherwise never; the workspace is
removed exactly once if one was provisioned, by its name, and otherwise never; it is removed after
every other command and transfer and before the closing; and nothing comes after the closing. -/
theorem session_released (b : Backend ε) (part : Part ε Record) {limits : Limits}
    {c : Config.Context} {s : Stage ε} (hstage : stageOf (b.recorded part) limits c = .ok s)
    (input : Source) (host : Host ε) :
    ∃ calls, Writes part host ((s.run input).run host).2 calls ∧ Released calls := by
  obtain ⟨settings, -, rfl⟩ := exists_settings_of_stageOf hstage
  rcases hconvert : Conversion.convert input info.input host.files with ⟨cause | converted, files⟩
  · -- without an input that converts, nothing is called
    rw [run_stage_of_unconverted (b.recorded part) settings limits hconvert]
    exact ⟨[], (Writes.refl host).congr rfl rfl, released_nil⟩
  · obtain ⟨kernel, rfl⟩ := exists_path_of_convert hconvert
    obtain ⟨-, houtside⟩ := run_stage (b.recorded part) settings limits hconvert
    obtain ⟨calls, cleanup, hwrites, hran⟩ :=
      run_course b part settings limits kernel (begun host files)
    exact ⟨calls ++ cleanup, hwrites.congr rfl houtside, hran.released⟩

/-- The session is released on the fake host, for a configuration that names both hosts. -/
theorem session_released_on_fakeHost :
    ∃ s : Stage (FakeHost × Record),
      stageOf ((FakeHost.backend .first).recorded .second) .unlimited sampleContext = .ok s ∧
        ∀ input host, ∃ calls, Writes .second host ((s.run input).run host).2 calls ∧
          Released calls := by
  obtain ⟨s, hstage⟩ : ∃ s : Stage (FakeHost × Record),
      stageOf ((FakeHost.backend .first).recorded .second) .unlimited sampleContext = .ok s :=
    ⟨_, rfl⟩
  exact ⟨s, hstage, fun input host =>
    session_released (FakeHost.backend .first) .second hstage input host⟩

end ArtifactPipeline.Emulation
