import ArtifactPipeline.Proofs.Catalogue.Stages
import ArtifactPipeline.Proofs.Config.Keys
import ArtifactPipeline.Proofs.Emulation.Port
import ArtifactPipeline.Proofs.Registry.Makers

/-!
# What a configuration registers

A registry is made of a configuration as it is: any setting may be missing, null or of the wrong
kind. `Accepted` says which configurations make one. Apart from the settings of the emulation it asks
something of those tables only that have the key `exec`.

What is registered is then decided by the configuration (`Registered`): the emulation, and after it a
command stage for each of these tables, in the order of their names. A stage makes the state that
has its name, so no state is made by two stages, and the ways through the registry are those of
`Registry.path_eq_of_chain`.
-/

namespace ArtifactPipeline.Catalogue

open Config Emulation Remote

variable {ε : Type} {c : Context} {name : String}

/-! ### The configurations that make a registry -/

/-- A setting that is a text. -/
def IsText (v : Option Value) : Prop := ∃ text, v = some (.string text)

/-- Flags: none, one text or a list of texts. -/
inductive IsFlags : Option Value → Prop
  | none : IsFlags none
  | text (flag : String) : IsFlags (some (.string flag))
  | texts (flags : List String) : IsFlags (some (.array (flags.map .string)))

/-- The parts of the tool chain. -/
def toolchainKeys : List String :=
  ["device", "setup_commands", "runtime_include", "vendor_include", "runtime_lib", "emconfigutil"]

/-- **The settings that make a command stage.** -/
structure AcceptedCommand (c : Context) (name : String) : Prop where
  exec : IsText (c.get? name "exec")
  source : IsText (c.get? name "src")
  flags : IsFlags (c.get? name "flags")

/-- **The configurations that make a registry.** -/
structure Accepted (c : Context) : Prop where
  port : ∀ v, c.get? stageName "ssh_port" = some v → ∃ n, SpellsPort v n
  toolchain : ∀ key ∈ toolchainKeys, IsText (c.get? stageName key)
  command : ∀ name, name ≠ stageName → c.get? name "exec" ≠ none → AcceptedCommand c name

/-! ### Settings that can be read -/

theorem getString?_eq_some_iff {stage key text : String} :
    c.getString? stage key = some text ↔ c.get? stage key = some (.string text) := by
  unfold Context.getString?
  rw [Option.bind_eq_some_iff]
  constructor
  · rintro ⟨v, hv, htext⟩
    cases v <;> cases htext
    exact hv
  · intro h
    exact ⟨.string text, h, rfl⟩

theorem exists_require_iff {stage key : String} :
    (∃ text, c.require stage key = .ok text) ↔ IsText (c.get? stage key) := by
  simp only [c.require_eq_ok_iff, getString?_eq_some_iff, IsText]

theorem exists_sshPort_iff :
    (∃ port, sshPort c = .ok port) ↔
      ∀ v, c.get? stageName "ssh_port" = some v → ∃ n, SpellsPort v n := by
  unfold sshPort
  cases c.get? stageName "ssh_port" with
  | none => simp
  | some v =>
    simp only [Option.some.injEq, forall_eq', ← portOf?_eq_some_iff]
    cases portOf? v <;> simp

theorem exists_toolchain_iff :
    (∃ t, Toolchain.ofContext c = .ok t) ↔
      ∀ key ∈ toolchainKeys, IsText (c.get? stageName key) := by
  simp only [toolchainKeys, List.forall_mem_cons, ← exists_require_iff]
  constructor
  · rintro ⟨t, ht⟩
    unfold Toolchain.ofContext at ht
    obtain ⟨device, hdevice, ht⟩ := bind_eq_ok_iff.mp ht
    obtain ⟨setup, hsetup, ht⟩ := bind_eq_ok_iff.mp ht
    obtain ⟨runtime, hruntime, ht⟩ := bind_eq_ok_iff.mp ht
    obtain ⟨vendor, hvendor, ht⟩ := bind_eq_ok_iff.mp ht
    obtain ⟨lib, hlib, ht⟩ := bind_eq_ok_iff.mp ht
    obtain ⟨emconfig, hemconfig, -⟩ := bind_eq_ok_iff.mp ht
    exact ⟨⟨device, hdevice⟩, ⟨setup, hsetup⟩, ⟨runtime, hruntime⟩, ⟨vendor, hvendor⟩, ⟨lib, hlib⟩,
      ⟨emconfig, hemconfig⟩, fun _ hkey => absurd hkey List.not_mem_nil⟩
  · rintro ⟨⟨device, hdevice⟩, ⟨setup, hsetup⟩, ⟨runtime, hruntime⟩, ⟨vendor, hvendor⟩, ⟨lib, hlib⟩,
      ⟨emconfig, hemconfig⟩, -⟩
    refine ⟨⟨device, setup, runtime, vendor, lib, emconfig⟩, ?_⟩
    unfold Toolchain.ofContext
    rw [hdevice, hsetup, hruntime, hvendor, hlib, hemconfig]
    rfl

/-- **The emulation stage can be built** when its port, if given, is one and its tool chain is
complete. -/
theorem exists_stageOf_iff (b : Backend ε) (limits : Limits) :
    (∃ stage, stageOf b limits c = .ok stage) ↔
      (∀ v, c.get? stageName "ssh_port" = some v → ∃ n, SpellsPort v n) ∧
        ∀ key ∈ toolchainKeys, IsText (c.get? stageName key) := by
  rw [← exists_sshPort_iff, ← exists_toolchain_iff]
  constructor
  · rintro ⟨stage, hstage⟩
    obtain ⟨settings, hsettings, -⟩ := exists_settings_of_stageOf hstage
    unfold Settings.ofContext at hsettings
    obtain ⟨port, hport, hsettings⟩ := bind_eq_ok_iff.mp hsettings
    obtain ⟨toolchain, htoolchain, -⟩ := bind_eq_ok_iff.mp hsettings
    exact ⟨⟨port, hport⟩, ⟨toolchain, htoolchain⟩⟩
  · rintro ⟨⟨port, hport⟩, ⟨toolchain, htoolchain⟩⟩
    unfold stageOf Settings.ofContext
    rw [hport, htoolchain]
    exact ⟨_, rfl⟩

theorem texts?_eq_some_iff {items : List Value} {texts : List String} :
    CommandStage.texts? items = some texts ↔ items = texts.map .string := by
  unfold CommandStage.texts?
  induction items generalizing texts with
  | nil => cases texts <;> simp
  | cons item items ih =>
    rw [List.mapM_cons, Option.bind_eq_bind, Option.bind_eq_some_iff]
    constructor
    · rintro ⟨text, htext, hread⟩
      obtain ⟨rest, hrest, htexts⟩ := Option.bind_eq_some_iff.mp hread
      obtain rfl := Option.some.inj htexts
      cases item <;> cases htext
      rw [List.map_cons, ih.mp hrest]
    · intro h
      cases texts with
      | nil => cases h
      | cons text texts =>
        obtain ⟨rfl, hrest⟩ := List.cons.inj h
        exact ⟨text, rfl, Option.bind_eq_some_iff.mpr ⟨texts, ih.mpr hrest, rfl⟩⟩

theorem exists_flagsOf_iff {v : Option Value} :
    (∃ flags, CommandStage.flagsOf v = some flags) ↔ IsFlags v := by
  constructor
  · rintro ⟨flags, hflags⟩
    cases v with
    | none => exact .none
    | some v =>
      cases v with
      | string s => exact .text s
      | array items =>
        obtain rfl := texts?_eq_some_iff.mp hflags
        exact .texts flags
      | _ => cases hflags
  · rintro (_ | ⟨flag⟩ | ⟨flags⟩)
    · exact ⟨[], rfl⟩
    · -- a text of blanks is no flag, and any other text is one
      by_cases hblank : Text.trimmed flag = ""
      · exact ⟨[], if_pos hblank⟩
      · exact ⟨[Text.trimmed flag], if_neg hblank⟩
    · exact ⟨flags, texts?_eq_some_iff.mpr rfl⟩

/-- **The built-in settings make a registry**, with the emulation alone. -/
theorem accepted_base : Accepted Context.base where
  port v hv := by cases hv
  toolchain key hkey := by
    simp only [toolchainKeys, List.mem_cons, List.not_mem_nil, or_false] at hkey
    rcases hkey with rfl | rfl | rfl | rfl | rfl | rfl <;> exact ⟨_, rfl⟩
  command name hname hexec := by
    refine absurd ?_ hexec
    have htable : ∃ emulation, Context.base.config.get? Override.stagesTable =
        some (.object [(stageName, emulation)]) := ⟨_, rfl⟩
    obtain ⟨emulation, htable⟩ := htable
    unfold Context.get?
    rw [Value.getPath?_cons, htable, Option.bind_some, Value.getPath?_cons, Value.get?_object,
      Entries.lookup, if_neg hname]
    rfl

/-! ### Command stages -/

/-- **The command stage of a table**, and the two states that it connects. -/
structure Makes (c : Context) (name : String) (stage : Stage ε) : Prop where
  made : CommandStage.ofContext c name = .ok stage
  source : c.get? name "src" = some (.string stage.info.source)
  target : stage.info.target = name

theorem exists_ofContext_of_accepted (h : AcceptedCommand c name) :
    ∃ stage : Stage ε, CommandStage.ofContext c name = .ok stage := by
  obtain ⟨exec, hexec⟩ := exists_require_iff.mpr h.exec
  obtain ⟨source, hsource⟩ := exists_require_iff.mpr h.source
  obtain ⟨flags, hflags⟩ := exists_flagsOf_iff.mpr h.flags
  unfold CommandStage.ofContext CommandStage.Settings.ofContext
  rw [hexec, hsource, hflags]
  exact ⟨_, rfl⟩

/-- A command stage that is made has the settings for it. -/
theorem makes_of_ofContext {stage : Stage ε} (hstage : CommandStage.ofContext c name = .ok stage) :
    AcceptedCommand c name ∧ Makes c name stage := by
  obtain ⟨s, hsettings, rfl⟩ := exists_settings_of_ofContext hstage
  obtain ⟨hexec, hsource, hflags, hname⟩ := settings_of_table hsettings
  refine ⟨⟨exists_require_iff.mp ⟨_, hexec⟩, exists_require_iff.mp ⟨_, hsource⟩,
    exists_flagsOf_iff.mp ⟨_, hflags⟩⟩, hstage, ?_, hname⟩
  exact getString?_eq_some_iff.mp ((c.require_eq_ok_iff name "src" _).mp hsource)

section Makes

variable {names : List String} {commands : List (Stage ε)}

/-- Where a command stage is made for each name, each of the tables is one that makes one. -/
theorem accepted_of_makes (h : List.Forall₂ (Makes c) names commands) :
    ∀ name ∈ names, AcceptedCommand c name := by
  induction h with
  | nil => exact fun name hname => absurd hname List.not_mem_nil
  | cons hfirst hrest ih =>
    exact List.forall_mem_cons.mpr ⟨(makes_of_ofContext hfirst.made).1, ih⟩

/-- Command stages make the states that have their names. -/
theorem targets_of_makes (h : List.Forall₂ (Makes c) names commands) :
    commands.map (fun stage => stage.info.target) = names := by
  induction h with
  | nil => rfl
  | cons hfirst hrest ih => rw [List.map_cons, hfirst.target, ih]

end Makes

/-- **Registering command stages** adds one for each name, in order, or fails at a name whose table
does not make one. -/
theorem run_registerCommands (names : List String) (r : Registry ε) (host : Host ε) :
    (∃ stages, List.Forall₂ (Makes c) names stages ∧
      ∃ after, (registerCommands c names r).run host = (.done ⟨r.stages ++ stages⟩, after)) ∨
    (∃ name ∈ names, ¬AcceptedCommand c name) ∧
      ∃ f after, (registerCommands c names r).run host = (.failed f, after) := by
  induction names generalizing r host with
  | nil =>
    refine .inl ⟨[], .nil, host, ?_⟩
    rw [List.append_nil]
    rfl
  | cons name names ih =>
    rw [registerCommands, Action.run_bind, Action.run_ofExcept]
    cases hstage : (CommandStage.ofContext c name : Except Failure (Stage ε)) with
    | error f =>
      refine .inr ⟨⟨name, List.mem_cons_self, fun haccepted => ?_⟩, f, host, rfl⟩
      obtain ⟨stage, hmade⟩ := exists_ofContext_of_accepted (ε := ε) haccepted
      rw [hstage] at hmade
      cases hmade
    | ok stage =>
      -- the stage is added behind those that are there, and the others come after it
      rcases ih ⟨r.stages ++ [stage]⟩ (host.note (Registry.registeredEvent stage.info)) with
        ⟨stages, hmade, after, hrun⟩ | ⟨⟨other, hother, hrefused⟩, hfailed⟩
      · refine .inl ⟨stage :: stages, .cons (makes_of_ofContext hstage).2 hmade, after, ?_⟩
        rw [List.append_cons r.stages stage stages]
        exact hrun
      · exact .inr ⟨⟨other, List.mem_cons_of_mem name hother, hrefused⟩, hfailed⟩

/-! ### The registry -/

theorem mem_commandNames_iff :
    name ∈ commandNames c ↔ name ≠ stageName ∧ c.get? name "exec" ≠ none := by
  unfold commandNames
  rw [List.mem_filter, Bool.and_eq_true, bne_iff_ne, ← Option.isSome_iff_ne_none]
  constructor
  · exact And.right
  · rintro ⟨hne, hexec⟩
    obtain ⟨v, hv⟩ := Option.isSome_iff_exists.mp hexec
    exact ⟨Context.mem_stageNames_of_get? hv, hne, hexec⟩

theorem pairwise_commandNames (c : Context) : (commandNames c).Pairwise (· < ·) :=
  c.pairwise_stageNames.filter _

/-- **Making a registry** registers the emulation and then the commands, or fails. -/
theorem run_registry (b : Backend ε) (cancellable : Bool) (c : Context) (host : Host ε) :
    (∃ emulation commands, stageOf b (limitsOf c cancellable) c = .ok emulation ∧
      List.Forall₂ (Makes c) (commandNames c) commands ∧ Accepted c ∧
      ∃ after, (registry b cancellable c).run host = (.done ⟨emulation :: commands⟩, after)) ∨
    ¬Accepted c ∧ ∃ f after, (registry b cancellable c).run host = (.failed f, after) := by
  have hemulation := exists_stageOf_iff (c := c) b (limitsOf c cancellable)
  rw [registry, Action.run_bind, Action.run_ofExcept]
  cases hstage : stageOf b (limitsOf c cancellable) c with
  | error f =>
    refine .inr ⟨fun haccepted => ?_, f, host, rfl⟩
    obtain ⟨stage, hmade⟩ := hemulation.mpr ⟨haccepted.port, haccepted.toolchain⟩
    rw [hstage] at hmade
    cases hmade
  | ok emulation =>
    obtain ⟨hport, htoolchain⟩ := hemulation.mp ⟨emulation, hstage⟩
    rcases run_registerCommands (c := c) (commandNames c) ⟨[emulation]⟩
        (host.note (Registry.registeredEvent emulation.info)) with
      ⟨commands, hcommands, after, hrun⟩ | ⟨⟨name, hname, hrefused⟩, hfailed⟩
    · refine .inl ⟨emulation, commands, rfl, hcommands, ⟨hport, htoolchain, ?_⟩, after, hrun⟩
      exact fun name hne hexec =>
        accepted_of_makes hcommands name (mem_commandNames_iff.mpr ⟨hne, hexec⟩)
    · refine .inr ⟨fun haccepted => ?_, hfailed⟩
      obtain ⟨hne, hexec⟩ := mem_commandNames_iff.mp hname
      exact hrefused (haccepted.command name hne hexec)

/-- **What is registered.** -/
structure Registered (b : Backend ε) (cancellable : Bool) (c : Context) (r : Registry ε) :
    Prop where
  /-- The emulation, and a command stage for each table with the key `exec`, in order. -/
  stages : ∃ emulation commands names, r.stages = emulation :: commands ∧
    stageOf b (limitsOf c cancellable) c = .ok emulation ∧ emulation.info = Emulation.info ∧
    List.Forall₂ (Makes c) names commands ∧ names.Pairwise (· < ·) ∧
    ∀ name, name ∈ names ↔ name ≠ stageName ∧ c.get? name "exec" ≠ none
  /-- No state is made by two stages. -/
  targets : r.targets.Nodup
  /-- There is one way at most from one state to another without a state visited twice. -/
  unique : ∀ source target p q, r.Chain source p target → r.Chain source q target →
    (Registry.visited source p).Nodup → (Registry.visited source q).Nodup → p = q
  /-- If there is one, it is the path that is found. -/
  found : ∀ source target p, r.Chain source p target → (Registry.visited source p).Nodup →
    r.path source target = .ok p

theorem registered_of_makes {b : Backend ε} {cancellable : Bool} {emulation : Stage ε}
    {commands : List (Stage ε)}
    (hemulation : stageOf b (limitsOf c cancellable) c = .ok emulation)
    (hcommands : List.Forall₂ (Makes c) (commandNames c) commands) :
    Registered b cancellable c ⟨emulation :: commands⟩ := by
  have hinfo : emulation.info = Emulation.info := by
    obtain ⟨settings, -, rfl⟩ := exists_settings_of_stageOf hemulation
    rfl
  -- the states made are the names of the stages, and no table has the name of the emulation
  have htargets : (Registry.mk (emulation :: commands)).targets = stageName :: commandNames c := by
    unfold Registry.targets
    rw [List.map_cons, targets_of_makes hcommands, hinfo]
    rfl
  have hmakers : (Registry.mk (emulation :: commands)).targets.Nodup := by
    rw [htargets, List.nodup_cons]
    refine ⟨fun hname => (mem_commandNames_iff.mp hname).1 rfl, ?_⟩
    exact (pairwise_commandNames c).imp (S := (· ≠ ·)) String.ne_of_lt
  refine ⟨⟨emulation, commands, commandNames c, rfl, hemulation, hinfo, hcommands,
    pairwise_commandNames c, fun name => mem_commandNames_iff⟩, hmakers, ?_, ?_⟩
  · intro source target p q hp hq hpNodup hqNodup
    exact hp.eq_of_nodup hmakers hq hpNodup hqNodup
  · intro source target p hp hnodup
    exact Registry.path_eq_of_chain hmakers hp hnodup

/-- **What a configuration registers.** A registry is made of the accepted configurations, and of no
others: there the making fails. It holds the emulation and then the commands, one for each table that
asks for one. So there is one way at most from one state to another without a state visited twice, and
it is found where there is one. -/
theorem registry_decided (b : Backend ε) (cancellable : Bool) (c : Context) (host : Host ε) :
    ((∃ r after, (registry b cancellable c).run host = (.done r, after)) ↔ Accepted c) ∧
    (¬Accepted c → ∃ f after, (registry b cancellable c).run host = (.failed f, after)) ∧
    ∀ r after, (registry b cancellable c).run host = (.done r, after) →
      Registered b cancellable c r := by
  rcases run_registry b cancellable c host with
    ⟨emulation, commands, hemulation, hcommands, haccepted, after, hrun⟩ |
    ⟨hrefused, f, after, hrun⟩
  · refine ⟨⟨fun _ => haccepted, fun _ => ⟨_, after, hrun⟩⟩, absurd haccepted, ?_⟩
    intro r others hdone
    rw [hrun, Prod.mk.injEq, Outcome.done.injEq] at hdone
    obtain ⟨rfl, -⟩ := hdone
    exact registered_of_makes hemulation hcommands
  · -- a registry that could not be made is none that has been made
    have hnone : ¬∃ r others, (registry b cancellable c).run host = (.done r, others) := by
      rintro ⟨r, others, hdone⟩
      rw [hrun] at hdone
      cases hdone
    refine ⟨iff_of_false hnone hrefused, fun _ => ⟨f, after, hrun⟩, ?_⟩
    intro r others hdone
    exact absurd ⟨r, others, hdone⟩ hnone

end ArtifactPipeline.Catalogue
