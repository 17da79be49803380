import ArtifactPipeline.Proofs.Emulation.Protocol

/-!
# What can still go wrong once the connection is asked for

A run of the emulation checks its input and the settings that only the user can give before it asks
for a connection. From then on no check of the pipeline can fail any more: every step finds the
arguments that it declares, and yields what it declares. What is left are the failures that come
from outside (`Failure.FromOutside`): a command ended badly, the transport failed, or the local
system did.

* `Follows.fromOutside` says this of calls that follow a plan, since a call fails for no other
  reason (`Call.fromOutside`);
* `Ran.fromOutside` says it of a run that has made a call;
* `fromOutside_of_connect` says it of every run of the stage, and when a run asks for a connection.
-/

namespace ArtifactPipeline

/-- **A failure from outside the pipeline.** All other failures are raised by the checks of the
pipeline itself, by its conversions, or by the reading of its configuration. -/
inductive Failure.FromOutside : Failure → Prop
  | command (line stderr : String) : FromOutside (.command line stderr)
  | transport (cause : TransportFailure) : FromOutside (.transport cause)
  | io (fault : IoFault) : FromOutside (.io fault)

/-- A failure from outside is no fault of the configuration. -/
theorem Failure.FromOutside.category_ne {f : Failure} (h : f.FromOutside) :
    f.category ≠ .configuration := by
  cases h with
  | command _ _ => exact nofun
  | transport _ => exact nofun
  | io _ => exact nofun

namespace Remote

/-- An answer fails only because the transport does. -/
theorem fromOutside_of_answer {α : Type} {answer : Except TransportFailure α} {f : Failure}
    (hfailed : answerFailure? answer = some f) : f.FromOutside := by
  cases answer with
  | error cause =>
    obtain rfl := Option.some.inj hfailed
    exact .transport cause
  | ok _ => cases hfailed

/-- A command fails because the transport does, or because it ends badly. -/
theorem Delivery.fromOutside {command : String} {d : Delivery} {f : Failure}
    (hfailed : d.failure? command = some f) : f.FromOutside := by
  rw [failure?] at hfailed
  cases hresult : d.result with
  | error cause =>
    rw [hresult] at hfailed
    obtain rfl := Option.some.inj hfailed
    exact .transport cause
  | ok output =>
    rw [hresult] at hfailed
    dsimp only at hfailed
    -- only a bad end is a failure
    split at hfailed
    · cases hfailed
    · obtain rfl := Option.some.inj hfailed
      exact .command command output.stderr

/-- **A call fails only from outside.** -/
theorem Call.fromOutside {c : Call} {f : Failure} (hfailed : c.failure? = some f) :
    f.FromOutside := by
  cases c with
  | connect _ answer => exact fromOutside_of_answer hfailed
  | put _ _ _ answer => exact fromOutside_of_answer hfailed
  | get _ _ _ answer => exact fromOutside_of_answer hfailed
  | close _ answer => exact fromOutside_of_answer hfailed
  | exec _ command _ delivery =>
    rw [failure?] at hfailed
    cases hdelivery : delivery.failure? command with
    | some g =>
      rw [hdelivery] at hfailed
      obtain rfl := Option.some.inj hfailed
      exact Delivery.fromOutside hdelivery
    | none =>
      rw [hdelivery] at hfailed
      dsimp only at hfailed
      -- a provisioning may also fail for the name that it lacks, as a command does
      split at hfailed
      · obtain rfl := Option.some.inj hfailed
        exact .command _ _
      · cases hfailed

/-- Calls that follow a plan fail only from outside when what comes after the plan does. -/
theorem Follows.fromOutside {α : Type} {final : FileSystem → Record → Outcome α → Prop}
    {files : FileSystem} {plan : List Request} {calls : Record} {f : Failure}
    (hfollows : Follows final files plan calls (.failed f))
    (hfinal : ∀ files later, final files later (.failed f) → f.FromOutside) : f.FromOutside := by
  rcases hfollows.failed_cases with ⟨e, -, hfailed⟩ | ⟨files, later, h⟩
  · exact Call.fromOutside hfailed
  · exact hfinal files later h

end Remote

namespace Emulation

open Remote

variable {ε : Type}

/-- The download fails with its call, or because the local system does. -/
theorem Fetched.fromOutside {request : Request} {download : String} {files : FileSystem}
    {calls : Record} {f : Failure} (hfetched : Fetched request download files calls (.failed f)) :
    f.FromOutside := by
  cases hfetched with
  | noDirectory _ => exact .io _
  | broken _ hfailed => exact Call.fromOutside hfailed
  | notOpened _ _ _ => exact .io _

/-- **A run that has both settings asks for a connection first, and fails only from outside.** -/
theorem Ran.fromOutside {settings : Settings} {limits : Limits} {kernel : String}
    {calls cleanup : Record} {outcome : Outcome Source}
    (hran : Ran settings limits kernel calls cleanup outcome)
    (hset : ¬(settings.hostProgram = none ∨ settings.target = none)) :
    (∃ e ∈ calls, e.call.request.isConnect = true) ∧
      ∀ f, outcome = .failed f → f.FromOutside := by
  cases hran with
  | unset hunset => exact absurd hunset hset
  | @unconnected _ e g _ hrequest hfailed _ =>
    refine ⟨⟨e, List.mem_singleton_self e, by rw [hrequest]; rfl⟩, fun f hf => ?_⟩
    obtain rfl := Outcome.failed.inj hf
    exact Call.fromOutside hfailed
  | @connected _ _ _ _ e _ calls _ _ _ _ hrequest _ _ hfollows _ _ =>
    refine ⟨⟨e, List.mem_cons_self, by rw [hrequest]; rfl⟩, fun f hf => ?_⟩
    subst hf
    exact hfollows.fromOutside fun _ _ h => h.fromOutside

/-- A setting is missing exactly when the configuration does not give it. -/
theorem unset_iff {c : Config.Context} {settings : Settings}
    (hsettings : Settings.ofContext c = .ok settings) :
    (settings.hostProgram = none ∨ settings.target = none) ↔
      ¬((c.getString? stageName "host").isSome ∧ (c.getString? stageName "ssh_host").isSome) := by
  obtain ⟨hhost, hssh⟩ := hosts_of_ofContext hsettings
  rw [← hhost, ← hssh, Option.isSome_map, not_and_or, Option.not_isSome_iff_eq_none,
    Option.not_isSome_iff_eq_none]

/-- **Once a connection is asked for, no check of the pipeline fails any more.** Take any
configuration that the stage accepts, any backend, recorded, any input and any host. A run asks for
a connection exactly when its input converts and the configuration names the host program and the
remote host. When it fails with a fault of the configuration, it has called nothing; and when it
fails after it asked for a connection, the failure comes from outside. -/
theorem fromOutside_of_connect (b : Backend ε) (part : Part ε Record) {limits : Limits}
    {c : Config.Context} {s : Stage ε} (hstage : stageOf (b.recorded part) limits c = .ok s)
    (input : Source) (host : Host ε) :
    ∃ calls, Writes part host ((s.run input).run host).2 calls ∧
      ((∃ e ∈ calls, e.call.request.isConnect = true) ↔
        (∃ kernel files, Conversion.convert input info.input host.files = (.ok kernel, files)) ∧
          (c.getString? stageName "host").isSome ∧ (c.getString? stageName "ssh_host").isSome) ∧
      ∀ f, ((s.run input).run host).1 = .failed f →
        (f.category = .configuration → calls = []) ∧
          ((∃ e ∈ calls, e.call.request.isConnect = true) → f.FromOutside) := by
  obtain ⟨settings, hsettings, rfl⟩ := exists_settings_of_stageOf hstage
  have hunset := unset_iff hsettings
  -- a run that calls nothing has nothing left to show but that it had to be so
  have hnothing : ∀ f : Failure, (f.category = .configuration → ([] : Record) = []) ∧
      ((∃ e ∈ ([] : Record), e.call.request.isConnect = true) → f.FromOutside) :=
    fun f => ⟨fun _ => rfl, fun ⟨_, he, _⟩ => (nomatch he)⟩
  rcases hconvert : Conversion.convert input info.input host.files with ⟨cause | converted, files⟩
  · rw [run_stage_of_unconverted (b.recorded part) settings limits hconvert]
    refine ⟨[], (Writes.refl host).congr rfl rfl, ⟨fun ⟨_, he, _⟩ => (nomatch he), ?_⟩,
      fun f _ => hnothing f⟩
    rintro ⟨⟨kernel, files', hkernel⟩, -⟩
    cases hkernel
  obtain ⟨kernel, rfl⟩ := exists_path_of_convert hconvert
  obtain ⟨houtcome, houtside⟩ := run_stage (b.recorded part) settings limits hconvert
  by_cases hset : settings.hostProgram = none ∨ settings.target = none
  · obtain ⟨f, after, hrun, hafter⟩ :=
      course_of_unset (b.recorded part) limits kernel hset (begun host files)
    rw [hrun] at houtside
    refine ⟨[], (Writes.refl host).congr rfl (houtside.trans hafter),
      ⟨fun ⟨_, he, _⟩ => (nomatch he), fun h => absurd h.2 (hunset.mp hset)⟩, fun f _ => hnothing f⟩
  · obtain ⟨calls, cleanup, hwrites, hran⟩ :=
      run_course b part settings limits kernel (begun host files)
    obtain ⟨⟨e, he, hconnect⟩, hfailed⟩ := hran.fromOutside hset
    have hasked : ∃ e ∈ calls ++ cleanup, e.call.request.isConnect = true :=
      ⟨e, List.mem_append_left cleanup he, hconnect⟩
    refine ⟨calls ++ cleanup, hwrites.congr rfl houtside, ⟨fun _ => ?_, fun _ => hasked⟩, ?_⟩
    · exact ⟨⟨_, _, rfl⟩, not_not.mp fun hnot => hset (hunset.mpr hnot)⟩
    · intro f hf
      rw [houtcome, hran.delivered] at hf
      have hforeign := hfailed f hf
      exact ⟨fun hcategory => absurd hcategory hforeign.category_ne, fun _ => hforeign⟩

/-- On the fake host, for a configuration that names both hosts, no check fails once the connection
is asked for. -/
theorem fromOutside_of_connect_on_fakeHost :
    ∃ s : Stage (FakeHost × Record),
      stageOf ((FakeHost.backend .first).recorded .second) .unlimited sampleContext = .ok s ∧
        ∀ input host, ∃ calls, Writes .second host ((s.run input).run host).2 calls ∧
          ((∃ e ∈ calls, e.call.request.isConnect = true) ↔
            (∃ kernel files,
              Conversion.convert input info.input host.files = (.ok kernel, files)) ∧
              (sampleContext.getString? stageName "host").isSome ∧
              (sampleContext.getString? stageName "ssh_host").isSome) ∧
          ∀ f, ((s.run input).run host).1 = .failed f →
            (f.category = .configuration → calls = []) ∧
              ((∃ e ∈ calls, e.call.request.isConnect = true) → f.FromOutside) := by
  obtain ⟨s, hstage⟩ : ∃ s : Stage (FakeHost × Record),
      stageOf ((FakeHost.backend .first).recorded .second) .unlimited sampleContext = .ok s :=
    ⟨_, rfl⟩
  exact ⟨s, hstage, fun input host =>
    fromOutside_of_connect (FakeHost.backend .first) .second hstage input host⟩

end Emulation

end ArtifactPipeline
