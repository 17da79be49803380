import ArtifactPipeline.Proofs.Emulation.Causes
import ArtifactPipeline.Proofs.Emulation.Port

/-!
# The setting of the port

A configuration may give the port of the remote host, and whatever it gives is decided when the stage
is built. `GivesPort` says which port a setting gives: the usual one where it is absent or null, and
otherwise the one that it spells.

* `sshPort_of_givesPort`, `sshPort_of_refused` : how the setting is read;
* `Ran.target_eq` : a run asks for no connection but to the target of its settings;
* `port_setting_decided` : a setting that gives a port makes a stage whose connections use that port,
  and any other one makes none, and nothing is called.

A text may have a plus sign before its digits, which `plus_sign_accepted` has an example of.
-/

namespace ArtifactPipeline.Emulation

open Config Remote

variable {ε : Type} {c : Context} {n : Nat} {v : Value}

/-! ### Reading the setting -/

/-- What a configuration says of the port. -/
def portSetting (c : Context) : Option Value :=
  c.config.getPath? ["stages", "wdb", "ssh_port"]

/-- **The port that a setting gives.** -/
inductive GivesPort : Option Value → Nat → Prop
  | absent : GivesPort none 22
  | null : GivesPort (some .null) 22
  | spelled {v : Value} {n : Nat} (hspells : SpellsPort v n) : GivesPort (some v) n

/-- The failure of a setting that gives no port. -/
def noPort (v : Value) : Failure :=
  .config (.invalidValue "wdb.ssh_port" "a port number between 1 and 65535" v.compact)

theorem sshPort_eq (c : Context) :
    sshPort c = match Context.given (portSetting c) with
      | none => .ok none
      | some v =>
        match portOf? v with
        | some port => .ok (some port)
        | none => .error (noPort v) := rfl

/-- A value that is not null counts as given. -/
theorem given_some (hnull : v ≠ .null) : Context.given (some v) = some v := by
  cases v with
  | null => exact absurd rfl hnull
  | _ => rfl

theorem ne_null_of_spellsPort (h : SpellsPort v n) : v ≠ .null := by
  rintro rfl
  cases h

/-- A setting that gives a port is read, and the port is the one that is used. -/
theorem sshPort_of_givesPort (h : GivesPort (portSetting c) n) :
    ∃ port, sshPort c = .ok port ∧ port.getD 22 = n := by
  rw [sshPort_eq]
  generalize portSetting c = setting at h ⊢
  cases h with
  | absent => exact ⟨none, rfl, rfl⟩
  | null => exact ⟨none, rfl, rfl⟩
  | spelled hspells =>
    rw [given_some (ne_null_of_spellsPort hspells)]
    dsimp only
    rw [portOf?_eq_some_iff.mpr hspells]
    exact ⟨some n, rfl, rfl⟩

/-- A setting that gives no port is a value, and it is refused. -/
theorem sshPort_of_refused (h : ¬∃ n, GivesPort (portSetting c) n) :
    ∃ v, portSetting c = some v ∧ sshPort c = .error (noPort v) := by
  rw [sshPort_eq]
  generalize portSetting c = setting at h ⊢
  cases setting with
  | none => exact absurd ⟨22, .absent⟩ h
  | some v =>
    have hnull : v ≠ .null := by
      rintro rfl
      exact h ⟨22, .null⟩
    have hnone : portOf? v = none := by
      rw [Option.eq_none_iff_forall_ne_some]
      exact fun n hn => h ⟨n, .spelled (portOf?_eq_some_iff.mp hn)⟩
    refine ⟨v, rfl, ?_⟩
    rw [given_some hnull]
    dsimp only
    rw [hnone]

/-! ### Building the stage -/

section Building

variable {toolchain : Toolchain} (htoolchain : Toolchain.ofContext c = .ok toolchain)

include htoolchain

/-- The settings of a configuration that gives a port. -/
theorem exists_settings_of_givesPort (h : GivesPort (portSetting c) n) :
    ∃ settings, Settings.ofContext c = .ok settings ∧
      ∀ target, settings.target = some target → target.port = n := by
  obtain ⟨port, hport, hused⟩ := sshPort_of_givesPort h
  rw [Settings.ofContext, hport, htoolchain]
  refine ⟨_, rfl, fun target htarget => ?_⟩
  obtain ⟨host, -, rfl⟩ := Option.map_eq_some_iff.mp htarget
  exact hused

omit htoolchain in
/-- The port is read first, so it is what is complained about. -/
theorem stageOf_of_refused (b : Backend ε) (limits : Limits)
    (h : ¬∃ n, GivesPort (portSetting c) n) :
    ∃ v, portSetting c = some v ∧ stageOf b limits c = .error (noPort v) := by
  obtain ⟨v, hsetting, hport⟩ := sshPort_of_refused h
  refine ⟨v, hsetting, ?_⟩
  rw [stageOf, Settings.ofContext, hport]
  rfl

/-- **The stage is built** exactly when the setting gives a port. -/
theorem exists_stage_iff (b : Backend ε) (limits : Limits) :
    (∃ s, stageOf b limits c = .ok s) ↔ ∃ n, GivesPort (portSetting c) n := by
  constructor
  · rintro ⟨s, hs⟩
    by_contra hnone
    obtain ⟨v, -, hrefused⟩ := stageOf_of_refused b limits hnone
    rw [hs] at hrefused
    cases hrefused
  · rintro ⟨n, hn⟩
    obtain ⟨settings, hsettings, -⟩ := exists_settings_of_givesPort htoolchain hn
    exact ⟨stage b settings limits, by rw [stageOf, hsettings]; rfl⟩

end Building

/-- Build the stage and run it. -/
def buildAndRun (b : Backend ε) (limits : Limits) (c : Context) (input : Source) :
    Action (Host ε) Source := do
  let s ← .ofExcept (stageOf b limits c)
  s.run input

/-! ### The connection -/

/-- **A run asks for no connection** but to the target of its settings. -/
theorem Ran.target_eq {settings : Settings} {limits : Limits} {kernel : String}
    {calls cleanup : Record} {outcome : Outcome Source}
    (hran : Ran settings limits kernel calls cleanup outcome) {e : Entry}
    (he : e ∈ calls ++ cleanup) {target : Target} (hrequest : e.call.request = .connect target) :
    settings.target = some target := by
  cases hran with
  | unset hunset => cases he
  | unconnected htarget hrequest' =>
    rw [List.append_nil, List.mem_singleton] at he
    subst he
    rw [hrequest'] at hrequest
    rw [htarget, Request.connect.inj hrequest]
  | @connected _ _ workspace _ _ _ _ _ _ hset htarget hrequest' hanswered hopened hfollows
      hprovisioned hcleanup =>
    rw [List.cons_append, List.mem_cons, List.mem_append] at he
    rcases he with rfl | he | he
    · rw [hrequest'] at hrequest
      rw [htarget, Request.connect.inj hrequest]
    · -- neither the work nor the release opens a connection
      have hworking := (working_of_follows hfollows e he).isConnect
      rw [hrequest] at hworking
      cases hworking
    · have hclean := isCleanup_of_mem hcleanup he
      rw [hrequest] at hclean
      cases hclean

/-- The calls of a run ask for connections to the target of the settings only, and for one exactly
when the input converts and the settings name both hosts. -/
theorem exists_calls_of_run (b : Backend ε) (part : Part ε Record) (settings : Settings)
    (limits : Limits) (input : Source) (host : Host ε) :
    ∃ calls, Writes part host (((stage (b.recorded part) settings limits).run input).run host).2 calls ∧
      (∀ e ∈ calls, ∀ target, e.call.request = .connect target →
        settings.target = some target) ∧
      ((∃ kernel files, Conversion.convert input info.input host.files = (.ok kernel, files)) →
        settings.hostProgram.isSome → settings.target.isSome →
        ∃ e ∈ calls, e.call.request.isConnect = true) := by
  rcases hconvert : Conversion.convert input info.input host.files with ⟨cause | converted, files⟩
  · rw [run_stage_of_unconverted (b.recorded part) settings limits hconvert]
    refine ⟨[], (Writes.refl host).congr rfl rfl, fun _ he => absurd he List.not_mem_nil, ?_⟩
    rintro ⟨kernel, files', hkernel⟩
    cases hkernel
  · obtain ⟨kernel, rfl⟩ := exists_path_of_convert hconvert
    obtain ⟨-, houtside⟩ := run_stage (b.recorded part) settings limits hconvert
    obtain ⟨calls, cleanup, hwrites, hran⟩ :=
      run_course b part settings limits kernel (begun host files)
    refine ⟨calls ++ cleanup, hwrites.congr rfl houtside,
      fun e he target hrequest => hran.target_eq he hrequest, fun _ hprogram htarget => ?_⟩
    have hset : ¬(settings.hostProgram = none ∨ settings.target = none) := by
      rw [not_or]
      exact ⟨Option.isSome_iff_ne_none.mp hprogram, Option.isSome_iff_ne_none.mp htarget⟩
    obtain ⟨⟨e, he, hconnect⟩, -⟩ := hran.fromOutside hset
    exact ⟨e, List.mem_append_left cleanup he, hconnect⟩

/-! ### Every configuration -/

/-- **The setting of the port is decided when the stage is built.** Take any configuration with a
complete tool chain, and any backend, recorded. The stage is built exactly when the setting gives a
port; an absent setting and null give the usual one.

A run of the stage then asks for connections at this port only, and for one when its input converts and
both hosts are named. Any other value is refused, with its name and its text, and whoever goes on to
run the stage finds the host as it was: nothing has been called. -/
theorem port_setting_decided (b : Backend ε) (part : Part ε Record) (limits : Limits)
    {toolchain : Toolchain} (htoolchain : Toolchain.ofContext c = .ok toolchain) :
    ((∃ s, stageOf (b.recorded part) limits c = .ok s) ↔ ∃ n, GivesPort (portSetting c) n) ∧
    (∀ n s, GivesPort (portSetting c) n → stageOf (b.recorded part) limits c = .ok s →
      ∀ input host, ∃ calls, Writes part host ((s.run input).run host).2 calls ∧
        (∀ e ∈ calls, ∀ target, e.call.request = .connect target → target.port = n) ∧
        ((∃ kernel files, Conversion.convert input info.input host.files = (.ok kernel, files)) →
          (c.getString? stageName "host").isSome → (c.getString? stageName "ssh_host").isSome →
          ∃ e ∈ calls, e.call.request.isConnect = true)) ∧
    ∀ v, portSetting c = some v → (¬∃ n, GivesPort (some v) n) →
      stageOf (b.recorded part) limits c = .error (noPort v) ∧
        ∀ input host, (buildAndRun (b.recorded part) limits c input).run host =
          (.failed (noPort v), host) := by
  refine ⟨exists_stage_iff htoolchain (b.recorded part) limits, ?_, ?_⟩
  · intro n s hgives hstage input host
    obtain ⟨settings, hsettings, rfl⟩ := exists_settings_of_stageOf hstage
    obtain ⟨settings', hsettings', hport⟩ := exists_settings_of_givesPort htoolchain hgives
    obtain rfl := Except.ok.inj (hsettings.symm.trans hsettings')
    obtain ⟨hhost, hssh⟩ := hosts_of_ofContext hsettings
    obtain ⟨calls, hwrites, htargets, hasked⟩ :=
      exists_calls_of_run b part settings limits input host
    refine ⟨calls, hwrites, fun e he target hrequest => hport target (htargets e he target hrequest),
      fun hconverts hgiven hnamed => hasked hconverts ?_ ?_⟩
    · rwa [hhost]
    · rwa [← hssh, Option.isSome_map] at hnamed
  · intro v hsetting hnone
    obtain ⟨v', hsetting', hrefused⟩ :=
      stageOf_of_refused (b.recorded part) limits (hsetting ▸ hnone)
    obtain rfl := Option.some.inj (hsetting.symm.trans hsetting')
    refine ⟨hrefused, fun input host => ?_⟩
    rw [buildAndRun, hrefused]
    rfl

/-- A configuration that names both hosts and gives a port. -/
def contextWithPort (v : Value) : Context :=
  .ofValue (.table [("stages", .table [("wdb", .table
    [("host", .string "host.cpp"), ("ssh_host", .string "fpga"), ("ssh_port", v)])])])

/-- A port may be given as a text with blanks around its digits and zeros before them. -/
theorem port_setting_decided_of_text :
    ∃ s : Stage (FakeHost × Record), stageOf ((FakeHost.backend .first).recorded .second)
        .unlimited (contextWithPort (.string " 02200 ")) = .ok s ∧
      ∀ input host, ∃ calls, Writes .second host ((s.run input).run host).2 calls ∧
        ∀ e ∈ calls, ∀ target, e.call.request = .connect target → target.port = 2200 := by
  have hsetting : portSetting (contextWithPort (.string " 02200 ")) = some (.string " 02200 ") := rfl
  have hgives : GivesPort (portSetting (contextWithPort (.string " 02200 "))) 2200 := by
    have htrim : Text.trim " 02200 ".toList = "02200".toList := by decide
    have hdigits : "02200".toList.all Char.isDigit = true := by decide
    rw [hsetting]
    exact .spelled (.text ⟨.inl htrim, by decide, List.all_eq_true.mp hdigits⟩ ⟨by decide, by decide⟩)
  obtain ⟨toolchain, htoolchain⟩ : ∃ toolchain,
      Toolchain.ofContext (contextWithPort (.string " 02200 ")) = .ok toolchain := ⟨_, rfl⟩
  obtain ⟨hbuilt, huses, -⟩ :=
    port_setting_decided (FakeHost.backend .first) .second .unlimited htoolchain
  obtain ⟨s, hs⟩ := hbuilt.mpr ⟨2200, hgives⟩
  refine ⟨s, hs, fun input host => ?_⟩
  obtain ⟨calls, hwrites, hport, -⟩ := huses 2200 s hgives hs input host
  exact ⟨calls, hwrites, hport⟩

/-- A text with a plus sign is no text of digits, and the stage is built for all that. -/
theorem plus_sign_accepted :
    (¬∀ d ∈ Text.trim "+22".toList, d.isDigit = true) ∧
      ∃ s : Stage (FakeHost × Record), stageOf ((FakeHost.backend .first).recorded .second)
        .unlimited (contextWithPort (.string "+22")) = .ok s :=
  ⟨fun h => absurd (h '+' (by decide)) (by decide), _, rfl⟩

end ArtifactPipeline.Emulation
