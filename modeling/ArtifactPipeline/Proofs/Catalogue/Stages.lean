import ArtifactPipeline.Catalogue
import ArtifactPipeline.Proofs.CommandStage.Run
import ArtifactPipeline.Proofs.Conversion.Content
import ArtifactPipeline.Proofs.Except

/-!
# What the stages of a configuration have done when they end

A stage of a configuration is the emulation or a command stage. Both take a path, so that a stream
is put into a temporary file before either begins; then the one checks its settings and goes on over
a connection, and the other runs its command. What matters for a caller who sees a failure is how
far a stage has come by then.

* `Host.Untouched` and `Host.RanCommand` say of two hosts that nothing but notes, or a local
  command, lies between them;
* `Catalogue.Ends` lists the ways in which a run of a stage ends;
* `Catalogue.ends_run` says that the list is complete, for every stage of every registry that a
  configuration makes.
-/

namespace ArtifactPipeline

open Shell (Runner)

variable {ε α : Type}

/-! ### Notes -/

namespace Host

variable {before middle after : Host ε}

/-- **Nothing has happened but that notes were made**, and none of them is of a local command. -/
def Untouched (before after : Host ε) : Prop :=
  ∃ events, after = { before with journal := before.journal ++ events } ∧
    ∀ line, Runner.commandEvent line ∉ events

/-- **A local command was run**: its note was added to those from before. -/
def RanCommand (before after : Host ε) : Prop :=
  ∃ events, after.journal = before.journal ++ events ∧
    ∃ line, Runner.commandEvent line ∈ events

theorem Untouched.refl (host : Host ε) : host.Untouched host :=
  ⟨[], by rw [List.append_nil], fun _ => List.not_mem_nil⟩

theorem Untouched.trans (hfirst : before.Untouched middle) (hsecond : middle.Untouched after) :
    before.Untouched after := by
  obtain ⟨events, rfl, hevents⟩ := hfirst
  obtain ⟨more, rfl, hmore⟩ := hsecond
  refine ⟨events ++ more, by rw [List.append_assoc], fun line hline => ?_⟩
  exact (List.mem_append.mp hline).elim (hevents line) (hmore line)

/-- A note that is not of a command changes nothing. -/
theorem Untouched.note (h : before.Untouched after) {event : Event}
    (hevent : event.message ≠ "shell") : before.Untouched (after.note event) := by
  refine h.trans ⟨[event], rfl, fun line hline => hevent ?_⟩
  obtain rfl := List.mem_singleton.mp hline
  rfl

theorem Untouched.noteEnd (h : before.Untouched after) (name : String) (outcome : Outcome α) :
    before.Untouched (Step.noteEnd name outcome after) := by
  cases outcome with
  | done _ => exact h.note (show "finished" ≠ "shell" by decide)
  | failed _ => exact h.note (show "failed" ≠ "shell" by decide)
  | crashed => exact h

theorem Untouched.outside (h : before.Untouched after) : after.outside = before.outside := by
  obtain ⟨_, rfl, -⟩ := h
  rfl

theorem Untouched.files (h : before.Untouched after) : after.files = before.files := by
  obtain ⟨_, rfl, -⟩ := h
  rfl

theorem prefix_note (event : Event) (host : Host ε) : host.journal <+: (host.note event).journal :=
  List.prefix_append _ _

theorem prefix_noteEnd (name : String) (outcome : Outcome α) (host : Host ε) :
    host.journal <+: (Step.noteEnd name outcome host).journal := by
  cases outcome with
  | done _ => exact prefix_note _ host
  | failed _ => exact prefix_note _ host
  | crashed => exact List.prefix_rfl

theorem RanCommand.journal (h : before.RanCommand after) : before.journal <+: after.journal := by
  obtain ⟨events, hevents, -⟩ := h
  exact ⟨events, hevents.symm⟩

/-- What is noted later does not undo a command. -/
theorem RanCommand.later (h : before.RanCommand middle) (hlater : middle.journal <+: after.journal) :
    before.RanCommand after := by
  obtain ⟨events, hevents, line, hline⟩ := h
  obtain ⟨more, hmore⟩ := hlater
  exact ⟨events ++ more, by rw [← hmore, hevents, List.append_assoc],
    line, List.mem_append_left more hline⟩

/-- What was noted earlier does not hide a command. -/
theorem RanCommand.earlier (hearlier : before.journal <+: middle.journal)
    (h : middle.RanCommand after) : before.RanCommand after := by
  obtain ⟨events, hevents⟩ := hearlier
  obtain ⟨more, hmore, line, hline⟩ := h
  exact ⟨events ++ more, by rw [hmore, ← hevents, List.append_assoc],
    line, List.mem_append_right events hline⟩

/-- A host on which a command was run is not untouched. -/
theorem RanCommand.not_untouched (h : before.RanCommand after) : ¬before.Untouched after := by
  rintro ⟨others, rfl, hothers⟩
  obtain ⟨events, hevents, line, hline⟩ := h
  rw [List.append_cancel_left_eq] at hevents
  exact hothers line (hevents ▸ hline)

end Host

/-! ### Conversions to a path -/

namespace Conversion

/-- **How a conversion to a path ends**: with the files as they were, unless the value is a
stream. -/
inductive ToPath (value : Source) (before : FileSystem) :
    Except ConversionFailure Source → FileSystem → Prop
  /-- The value is a path. -/
  | same {name : String} (hkind : value.kind ≠ .stream) : ToPath value before (.ok (.path name)) before
  /-- The value is a stream, and is in a file now. -/
  | stored {name : String} {after : FileSystem} (hkind : value.kind = .stream)
      (hchanged : after ≠ before) : ToPath value before (.ok (.path name)) after
  /-- The local system failed. -/
  | broken {fault : IoFault} {after : FileSystem} : ToPath value before (.error (.io fault)) after
  /-- The value is neither. -/
  | refused (hkind : value.kind ≠ .stream) :
      ToPath value before (.error (.unsupported value.kind .path)) before

theorem filled_ne (fs : FileSystem) (l : Location) (bytes : Bytes) : filled fs l bytes ≠ fs := by
  intro hsame
  have hlength := congrArg (fun fs : FileSystem => fs.contents.length) hsame
  simp [filled, FileSystem.addFile, FileSystem.extend] at hlength

theorem toPath (value : Source) (fs : FileSystem) :
    ToPath value fs (convert value .path fs).1 (convert value .path fs).2 := by
  cases value with
  | path name => exact .same nofun
  | directory name => exact .refused nofun
  | string text => exact .refused nofun
  | untyped p => exact .refused nofun
  | stream s =>
    change ToPath _ fs (streamToPath s fs).1 (streamToPath s fs).2
    rw [streamToPath]
    split
    · exact .broken
    · dsimp only
      split
      · exact .stored rfl (filled_ne fs _ _)
      · exact .broken

end Conversion

theorem Stage.untouched_entered (info : StageInfo) (host : Host ε) :
    host.Untouched (entered info host host.files) :=
  (Host.Untouched.refl host).note (show "running stage" ≠ "shell" by decide)

/-! ### How runs end -/

namespace Catalogue

open Config Emulation Remote

/-- The configuration gives the two settings that only the user can give. -/
def Given (c : Context) : Prop :=
  (c.getString? stageName "host").isSome ∧ (c.getString? stageName "ssh_host").isSome

/-- **How a run of a stage of a configuration ends**, and what it has done by then. -/
inductive Ends (c : Context) (info : StageInfo) (value : Source) (before after : Host ε) :
    Outcome Source → Prop
  /-- The input is neither a path nor a stream. -/
  | refused {cause : ConversionFailure} (hkind : value.kind ≠ .stream)
      (huntouched : before.Untouched after) :
      Ends c info value before after (.failed (.conversion cause))
  /-- The emulation finds that a setting is missing. A stream is in a file by then. -/
  | unset {key : String} (hname : info.name = stageName) (hunset : ¬Given c)
      (hjournal : before.journal <+: after.journal) (houtside : after.outside = before.outside)
      (huntouched : value.kind ≠ .stream → before.Untouched after)
      (hstored : value.kind = .stream → after.files ≠ before.files) :
      Ends c info value before after (.failed (missing key))
  /-- The run fails, and not for a fault of the configuration. -/
  | failed {f : Failure} (hcategory : f.category ≠ .configuration) :
      Ends c info value before after (.failed f)
  | crashed : Ends c info value before after .crashed
  /-- A command has ended well. -/
  | carried {stream : Stream} (hname : info.name ≠ stageName)
      (houtside : after.outside = before.outside) (hran : before.RanCommand after) :
      Ends c info value before after (.done (.stream stream))
  /-- The kernel was emulated. -/
  | emulated {stream : Stream} (hgiven : Given c) :
      Ends c info value before after (.done (.stream stream))

variable {c : Context}

/-- A stage that takes a path is known by its runs on inputs that convert to one. -/
theorem ends_of_converted (stage : Stage ε) (hinput : stage.info.input = .path) {value : Source}
    {host : Host ε}
    (hconverted : ∀ name files,
      Conversion.convert value stage.info.input host.files = (.ok (.path name), files) →
        (value.kind ≠ .stream → files = host.files) →
        (value.kind = .stream → files ≠ host.files) →
          Ends c stage.info value host ((stage.run value).run host).2
            ((stage.run value).run host).1) :
    Ends c stage.info value host ((stage.run value).run host).2 ((stage.run value).run host).1 := by
  have hends := Conversion.toPath value host.files
  rw [← hinput] at hends
  rcases hconvert : Conversion.convert value stage.info.input host.files with ⟨ended, files⟩
  rw [hconvert] at hends
  cases hends with
  | same hkind => exact hconverted _ _ hconvert (fun _ => rfl) fun h => absurd h hkind
  | stored hkind hchanged => exact hconverted _ _ hconvert (absurd hkind) fun _ => hchanged
  | broken =>
    rw [Stage.run_of_unconverted stage hconvert]
    exact .failed nofun
  | refused hkind =>
    rw [Stage.run_of_unconverted stage hconvert]
    exact .refused hkind (Stage.untouched_entered _ host)

/-- A run of a command stage. -/
theorem ends_command {s : CommandStage.Settings} (hname : s.name ≠ stageName) (value : Source)
    (host : Host ε) :
    Ends c (CommandStage.info s) value host (((CommandStage.linear s).stage.run value).run host).2
      (((CommandStage.linear s).stage.run value).run host).1 := by
  refine ends_of_converted (CommandStage.linear s).stage rfl ?_
  intro name files hconvert _ _
  rw [CommandStage.run_stage s hconvert, run_announced]
  obtain ⟨outcome, after, hrun, houtside, hjournal, hended⟩ := s.runner.run_run
    (CommandStage.commandLine s name)
    ((Stage.entered (CommandStage.info s) host files).note (Step.startEvent s.exec))
  have hran : host.RanCommand after :=
    .earlier ((Host.prefix_note _ host).trans (Host.prefix_note _ _))
      ⟨_, hjournal, _, List.mem_singleton_self _⟩
  -- a command that ends badly is a fault of the tool or of the system
  rw [hrun]
  rcases hended with ⟨stdout, rfl⟩ | ⟨f, rfl, hf⟩
  · exact .carried hname houtside
      (hran.later ((Host.prefix_noteEnd _ _ after).trans (Host.prefix_note _ _)))
  · exact .failed hf.category_ne

/-- A run of the emulation. It looks at its settings before it calls anything, but not before its
input has been converted. -/
theorem ends_emulation (b : Backend ε) (part : Part ε Record) {settings : Settings}
    (limits : Limits) (hsettings : Settings.ofContext c = .ok settings) (value : Source)
    (host : Host ε) :
    Ends c info value host (((stage (b.recorded part) settings limits).run value).run host).2
      (((stage (b.recorded part) settings limits).run value).run host).1 := by
  refine ends_of_converted (stage (b.recorded part) settings limits) rfl ?_
  intro kernel files hconvert hsame hchanged
  have hunset := unset_iff hsettings
  by_cases hset : settings.hostProgram = none ∨ settings.target = none
  · obtain ⟨key, hrun⟩ := run_stage_of_unset (b.recorded part) limits hset hconvert
    rw [hrun, run_announced, Action.run_fail]
    dsimp only
    refine .unset rfl (hunset.mp hset) ?_ rfl (fun hkind => ?_) hchanged
    · have hbegun : host.journal <+: (begun host files).journal := Host.prefix_note _ host
      exact (hbegun.trans (Host.prefix_note _ _)).trans (Host.prefix_noteEnd _ _ _)
    · -- the files are as they were, and the two notes of the step are no command
      obtain rfl := hsame hkind
      have hstarted : host.Untouched
          ((begun host host.files).note (Step.startEvent "check_config")) :=
        (Stage.untouched_entered info host).note (show "starting" ≠ "shell" by decide)
      exact hstarted.noteEnd _ _
  · have hgiven : Given c := not_not.mp fun hnot => hset (hunset.mpr hnot)
    -- from here on every failure comes from a call, and none is a fault of the configuration
    obtain ⟨calls, cleanup, -, hran⟩ :=
      run_course b part settings limits kernel (begun host files)
    obtain ⟨-, hfailed⟩ := hran.fromOutside hset
    have hdelivered := hran.delivered
    rw [run_stage_eq (b.recorded part) settings limits hconvert]
    generalize (course (b.recorded part) settings limits kernel).run _ = ended
      at hfailed hdelivered ⊢
    obtain ⟨outcome, after⟩ := ended
    dsimp only at hfailed hdelivered ⊢
    rw [hdelivered]
    cases outcome with
    | failed f => exact .failed (hfailed f rfl).category_ne
    | crashed => exact .crashed
    | done output =>
      have hchecked : Stage.checkOutcome info (.done output) = .done output := hdelivered
      obtain ⟨-, haccepts⟩ := Stage.checkOutcome_eq_done_iff.mp hchecked
      cases output with
      | stream s => exact .emulated hgiven
      | _ => cases haccepts

/-! ### The stages of a configuration -/

/-- The settings of a command stage are those of its table. -/
theorem settings_of_table {name : String} {s : CommandStage.Settings}
    (hsettings : CommandStage.Settings.ofContext c name = .ok s) :
    c.require name "exec" = .ok s.exec ∧ c.require name "src" = .ok s.source ∧
      CommandStage.flagsOf (c.get? name "flags") = some s.flags ∧ s.name = name := by
  rw [CommandStage.Settings.ofContext] at hsettings
  obtain ⟨exec, hexec, hsettings⟩ := bind_eq_ok_iff.mp hsettings
  obtain ⟨source, hsource, hsettings⟩ := bind_eq_ok_iff.mp hsettings
  cases hflags : CommandStage.flagsOf (c.get? name "flags") with
  | none =>
    rw [hflags] at hsettings
    cases hsettings
  | some flags =>
    rw [hflags] at hsettings
    obtain rfl := Except.ok.inj hsettings
    exact ⟨hexec, hsource, rfl, rfl⟩

/-- A command stage is the stage of some settings. -/
theorem exists_settings_of_ofContext {name : String} {stage : Stage ε}
    (hstage : CommandStage.ofContext c name = .ok stage) :
    ∃ s, CommandStage.Settings.ofContext c name = .ok s ∧
      stage = (CommandStage.linear s).stage := by
  rw [CommandStage.ofContext] at hstage
  cases hsettings : CommandStage.Settings.ofContext c name with
  | error f =>
    rw [hsettings] at hstage
    cases hstage
  | ok s =>
    rw [hsettings] at hstage
    exact ⟨s, rfl, (Except.ok.inj hstage).symm⟩

theorem mem_of_registerCommands {names : List String} {r r' : Registry ε} {host after : Host ε}
    (hrun : (registerCommands c names r).run host = (.done r', after)) {stage : Stage ε}
    (hmem : stage ∈ r'.stages) :
    stage ∈ r.stages ∨ ∃ name ∈ names, CommandStage.ofContext c name = .ok stage := by
  induction names generalizing r host with
  | nil =>
    obtain ⟨hsame, -⟩ := Prod.mk.inj hrun
    exact .inl (Outcome.done.inj hsame ▸ hmem)
  | cons name names ih =>
    rw [registerCommands, Action.run_bind, Action.run_ofExcept] at hrun
    cases hmade : (CommandStage.ofContext c name : Except Failure (Stage ε)) with
    | error f =>
      rw [hmade] at hrun
      cases hrun
    | ok made =>
      rw [hmade] at hrun
      rcases ih hrun with hmem | ⟨other, hother, hstage⟩
      · rcases List.mem_append.mp hmem with hmem | hmem
        · exact .inl hmem
        · exact .inr ⟨name, List.mem_cons_self, List.mem_singleton.mp hmem ▸ hmade⟩
      · exact .inr ⟨other, List.mem_cons_of_mem name hother, hstage⟩

/-- **The stages of a configuration** are the emulation and command stages of other names. -/
theorem mem_of_registry {b : Backend ε} {cancellable : Bool} {r : Registry ε} {host after : Host ε}
    (hrun : (registry b cancellable c).run host = (.done r, after)) {stage : Stage ε}
    (hmem : stage ∈ r.stages) :
    stageOf b (limitsOf c cancellable) c = .ok stage ∨
      ∃ name, name ≠ stageName ∧ CommandStage.ofContext c name = .ok stage := by
  rw [registry, Action.run_bind, Action.run_ofExcept] at hrun
  cases hmade : stageOf b (limitsOf c cancellable) c with
  | error f =>
    rw [hmade] at hrun
    cases hrun
  | ok made =>
    rw [hmade] at hrun
    rcases mem_of_registerCommands hrun hmem with hmem | ⟨name, hname, hstage⟩
    · exact .inl (List.mem_singleton.mp hmem ▸ rfl)
    · refine .inr ⟨name, fun hsame => ?_, hstage⟩
      obtain ⟨-, hname⟩ := List.mem_filter.mp hname
      simp [hsame] at hname

/-- **How the stages of a configuration end**, whatever the backend, the input and the host. -/
theorem ends_run (b : Backend ε) (part : Part ε Record) {cancellable : Bool} {r : Registry ε}
    {fresh made : Host ε}
    (hregistry : (registry (b.recorded part) cancellable c).run fresh = (.done r, made))
    {stage : Stage ε} (hmem : stage ∈ r.stages) (value : Source) (host : Host ε) :
    Ends c stage.info value host ((stage.run value).run host).2 ((stage.run value).run host).1 := by
  rcases mem_of_registry hregistry hmem with hstage | ⟨name, hname, hstage⟩
  · obtain ⟨settings, hsettings, rfl⟩ := exists_settings_of_stageOf hstage
    exact ends_emulation b part _ hsettings value host
  · obtain ⟨s, hsettings, rfl⟩ := exists_settings_of_ofContext hstage
    obtain ⟨-, -, -, rfl⟩ := settings_of_table hsettings
    exact ends_command hname value host

end Catalogue

end ArtifactPipeline
