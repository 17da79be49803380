import ArtifactPipeline.Proofs.Catalogue.Stages
import ArtifactPipeline.Proofs.Registry.Passage
import ArtifactPipeline.Remote.FakeHost

/-!
# What a fault of the configuration leaves behind

A run along a path of stages may fail for a fault of the configuration: there is no path, the input
is of a kind that no stage takes, or a setting of the emulation is missing. The first two are found
before anything is done. The third is found by the emulation itself, when its turn comes, and that
may be late: the stages before it have run their commands by then, and a stream has been put into a
file.

* `Fails` lists the ways in which such a run fails, and `fails_runStages` derives it from what single
  stages do (`Ends`);
* `untouched_iff` is the result: no connection is ever asked for, and the host is as it was exactly
  when the setting that is missing, if there is one, is found at once;
* `ran_command_before_missing_setting` is a run in which it is found late.
-/

namespace ArtifactPipeline.Catalogue

open Config Emulation Remote
open Registry (runStages)
open Shell (Runner)

variable {ε : Type}

/-! ### Along a path -/

/-- **How a run along some stages fails for a fault of the configuration**, and what has been done
by then. -/
inductive Fails (c : Context) (value : Source) (before after : Host ε) :
    List (Stage ε) → Failure → Prop
  /-- The input is neither a path nor a stream. -/
  | refused {p : List (Stage ε)} {cause : ConversionFailure} (hkind : value.kind ≠ .stream)
      (huntouched : before.Untouched after) : Fails c value before after p (.conversion cause)
  /-- The first stage is the emulation, and a setting is missing. -/
  | early {stage : Stage ε} {p : List (Stage ε)} {key : String}
      (hname : stage.info.name = stageName) (hunset : ¬Given c)
      (hjournal : before.journal <+: after.journal) (houtside : after.outside = before.outside)
      (huntouched : value.kind ≠ .stream → before.Untouched after)
      (hstored : value.kind = .stream → after.files ≠ before.files) :
      Fails c value before after (stage :: p) (missing key)
  /-- A command has been run before the emulation finds that a setting is missing. -/
  | late {stage : Stage ε} {p : List (Stage ε)} {key : String}
      (hname : stage.info.name ≠ stageName) (hunset : ¬Given c)
      (houtside : after.outside = before.outside) (hran : before.RanCommand after) :
      Fails c value before after (stage :: p) (missing key)

variable {c : Context} {p : List (Stage ε)} {value : Source} {host after : Host ε} {f : Failure}

/-- **Where every stage ends in one of the known ways, so does the path.** After the first stage the
value is a stream, so that no input is refused any more; and behind an emulation that is done no
setting is missing. -/
theorem fails_runStages
    (hends : ∀ stage ∈ p, ∀ value (host : Host ε),
      Ends c stage.info value host ((stage.run value).run host).2 ((stage.run value).run host).1)
    (hrun : (runStages p value).run host = (.failed f, after))
    (hcategory : f.category = .configuration) : Fails c value host after p f := by
  induction p generalizing value host with
  | nil => cases hrun
  | cons stage p ih =>
    have hstage := hends stage List.mem_cons_self value host
    have hrest : ∀ value host, (runStages p value).run host = (.failed f, after) →
        Fails c value host after p f :=
      fun _ _ => ih fun stage hmem => hends stage (List.mem_cons_of_mem _ hmem)
    rw [runStages, Action.run_bind] at hrun
    generalize (stage.run value).run host = ended at hstage hrun
    obtain ⟨outcome, middle⟩ := ended
    cases hstage with
    | refused hkind huntouched =>
      cases hrun
      exact .refused hkind huntouched
    | unset hname hunset hjournal houtside huntouched hstored =>
      cases hrun
      exact .early hname hunset hjournal houtside huntouched hstored
    | failed hother =>
      cases hrun
      exact absurd hcategory hother
    | crashed => cases hrun
    | carried hname houtside hran =>
      -- a stream is handed on, so the rest can only fail over a setting
      cases hrest _ _ hrun with
      | refused hkind _ => exact absurd rfl hkind
      | early _ hunset hjournal hout _ _ =>
        exact .late hname hunset (hout.trans houtside) (hran.later hjournal)
      | late _ hunset hout hmore =>
        exact .late hname hunset (hout.trans houtside) (hran.later hmore.journal)
    | emulated hgiven =>
      -- no setting was missing a moment ago, and the configuration is the same
      cases hrest _ _ hrun with
      | refused hkind _ => exact absurd rfl hkind
      | early _ hunset _ _ _ _ => exact absurd hgiven hunset
      | late _ hunset _ _ => exact absurd hgiven hunset

/-! ### Registries of configurations -/

/-- Whether the path from one state to another begins with the emulation. -/
def beginsWithEmulation (r : Registry ε) (source target : String) : Bool :=
  match r.path source target with
  | .ok (stage :: _) => stage.info.name == stageName
  | _ => false

/-- A stage on a path is registered. -/
theorem mem_of_path {r : Registry ε} {source target : String}
    (hpath : r.path source target = .ok p) {stage : Stage ε} (hmem : stage ∈ p) :
    stage ∈ r.stages := by
  obtain ⟨places, -, rfl⟩ := Registry.path_eq_ok_iff.mp hpath
  obtain ⟨i, -, hi⟩ := List.mem_filterMap.mp hmem
  exact List.mem_of_getElem? hi

/-- **When a fault of the configuration comes before any side effect.** Take the registry of any
configuration over any backend, recorded, any two states, any input and any host, and a run that
fails for a fault of the configuration. It has not called the backend. Nothing at all has happened,
no command was run and the files are as they were, unless the fault is a setting of the emulation
that is missing, which the user can give, and either the emulation is not the first stage on the
path or the input is a stream; then something has happened. -/
theorem untouched_iff (b : Backend ε) (part : Part ε Record) {cancellable : Bool}
    {r : Registry ε} {fresh made : Host ε}
    (hregistry : (registry (b.recorded part) cancellable c).run fresh = (.done r, made))
    (source target : String) (input : Source)
    (hrun : (r.runPath source target input).run host = (.failed f, after))
    (hcategory : f.category = .configuration) :
    Writes part host after [] ∧
      (host.Untouched after ↔ ((∃ key, f = .missingSetting key) →
        input.kind ≠ .stream ∧ beginsWithEmulation r source target = true)) ∧
      ((∃ key, f = .missingSetting key) → ¬Given c) := by
  have hwrites : after.outside = host.outside → Writes part host after [] :=
    fun houtside => (Writes.refl host).congr rfl houtside
  cases hpath : r.path source target with
  | error g =>
    obtain ⟨-, rfl⟩ := Registry.path_eq_error_iff.mp hpath
    rw [Registry.runPath, hpath] at hrun
    cases hrun
    exact ⟨hwrites rfl, iff_of_true (.refl host) (by simp), by simp⟩
  | ok p =>
    rw [Registry.run_runPath hpath] at hrun
    have hfails := fails_runStages
      (fun stage hmem => ends_run b part hregistry (mem_of_path hpath hmem)) hrun hcategory
    have hnoted : host.Untouched (host.note (Registry.pathEvent source target p)) :=
      (Host.Untouched.refl host).note (show "running stage path" ≠ "shell" by decide)
    cases hfails with
    | refused _ huntouched =>
      exact ⟨hwrites huntouched.outside, iff_of_true (hnoted.trans huntouched) (by simp), by simp⟩
    | early hname hunset hjournal houtside huntouched hstored =>
      have hbegins : beginsWithEmulation r source target = true := by
        rw [beginsWithEmulation, hpath]
        exact beq_iff_eq.mpr hname
      -- the one thing that may have been done is to put the input into a file
      refine ⟨hwrites houtside, ⟨fun hnothing _ => ⟨fun hkind => ?_, hbegins⟩, fun hearly => ?_⟩,
        fun _ => hunset⟩
      · exact hstored hkind hnothing.files
      · exact hnoted.trans (huntouched (hearly ⟨_, rfl⟩).1)
    | late hname hunset houtside hran =>
      have hbegins : beginsWithEmulation r source target ≠ true := by
        rw [beginsWithEmulation, hpath]
        exact fun h => hname (beq_iff_eq.mp h)
      refine ⟨hwrites houtside, iff_of_false ?_ fun hearly => hbegins (hearly ⟨_, rfl⟩).2,
        fun _ => hunset⟩
      exact (hran.earlier (Host.prefix_note _ host)).not_untouched

/-- A configuration that makes kernels by a command and does not say where to emulate them. -/
def unsettledContext : Context :=
  .ofValue (.table [("stages", .table
    [("xclbin", .table [("src", .string "text"), ("exec", .string "echo a >ran; true")])])])

/-- A host with a file to begin with, on which nothing was noted. -/
def freshHost : Host (FakeHost × Record) :=
  { files := (FileSystem.empty.addDirectory ["tmp"]).addFile ["in"] [1], outside := ({}, []) }

/-- The registry of that configuration over the fake host, which writes down what it is asked for. -/
def unsettledRegistry : Action (Host (FakeHost × Record)) (Registry (FakeHost × Record)) :=
  registry ((FakeHost.backend .first).recorded .second) false unsettledContext

/-- Why a run from one state to the waveforms fails, if it does, and the host after it. -/
def unsettledRun (source : String) : Option Failure × Host (FakeHost × Record) :=
  match unsettledRegistry.run freshHost with
  | (.done r, _) =>
    match (r.runPath source stageName (.path "in")).run freshHost with
    | (.failed f, after) => (some f, after)
    | (_, after) => (none, after)
  | (_, made) => (none, made)

/-- A run that fails in the registry. -/
theorem exists_run_of_unsettled {source : String} {f : Failure}
    (hfailed : (unsettledRun source).1 = some f) :
    ∃ r made, unsettledRegistry.run freshHost = (.done r, made) ∧
      (r.runPath source stageName (.path "in")).run freshHost =
        (.failed f, (unsettledRun source).2) := by
  obtain ⟨r, made, hregistry⟩ : ∃ r made, unsettledRegistry.run freshHost = (.done r, made) :=
    ⟨_, _, rfl⟩
  refine ⟨r, made, hregistry, ?_⟩
  rw [unsettledRun, hregistry] at hfailed ⊢
  dsimp only at hfailed ⊢
  rcases hrun : (r.runPath source stageName (.path "in")).run freshHost with ⟨_ | g | _, after⟩ <;>
    rw [hrun] at hfailed <;> cases hfailed
  rfl

/-- From a kernel on, the missing setting is found before anything has happened. -/
theorem untouched_of_kernel :
    ∃ r made after, unsettledRegistry.run freshHost = (.done r, made) ∧
      (r.runPath "xclbin" stageName (.path "in")).run freshHost =
        (.failed (missing "host"), after) ∧
      (missing "host").category = .configuration ∧ Writes .second freshHost after [] ∧
      freshHost.Untouched after := by
  have hfailed : (unsettledRun "xclbin").1 = some (missing "host") := by decide +kernel
  obtain ⟨r, made, hregistry, hrun⟩ := exists_run_of_unsettled hfailed
  obtain ⟨hwrites, hiff, -⟩ := untouched_iff (FakeHost.backend .first) .second hregistry "xclbin"
    stageName (.path "in") hrun rfl
  have hbegins : (unsettledRegistry.run freshHost).1.map (beginsWithEmulation · "xclbin" stageName) =
      .done true := by decide +kernel
  rw [hregistry, Outcome.map_done, Outcome.done.injEq] at hbegins
  exact ⟨r, made, _, hregistry, hrun, rfl, hwrites, hiff.mpr fun _ => ⟨by decide, hbegins⟩⟩

/-- **From a text on, a command is run first**, which leaves a file behind, and the missing setting
is found after that: a fault of the configuration comes after a side effect. -/
theorem ran_command_before_missing_setting :
    ∃ r made after, unsettledRegistry.run freshHost = (.done r, made) ∧
      (r.runPath "text" stageName (.path "in")).run freshHost = (.failed (missing "host"), after) ∧
      (missing "host").category = .configuration ∧ freshHost.RanCommand after ∧
      (freshHost.files.read "ran").toOption = none ∧
      (after.files.read "ran").toOption = some [97, 10] := by
  have hlate : (unsettledRun "text").1 = some (missing "host") ∧
      Runner.commandEvent "echo a >ran; true in" ∈ (unsettledRun "text").2.journal ∧
      (freshHost.files.read "ran").toOption = none ∧
      ((unsettledRun "text").2.files.read "ran").toOption = some [97, 10] := by decide +kernel
  obtain ⟨hfailed, hnoted, habsent, hpresent⟩ := hlate
  obtain ⟨r, made, hregistry, hrun⟩ := exists_run_of_unsettled hfailed
  exact ⟨r, made, _, hregistry, hrun, rfl, ⟨_, rfl, _, hnoted⟩, habsent, hpresent⟩

end ArtifactPipeline.Catalogue
