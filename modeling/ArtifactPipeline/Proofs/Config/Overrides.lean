import ArtifactPipeline.Proofs.Config.Layers
import Mathlib.Data.String.Basic

/-!
# Overrides as point updates

An override is laid over a configuration as a layer that holds one value under a path of keys. This
file says what such a layer does to the whole: it sets the value at the path, leaves every path that
leads elsewhere as it was, and does not mind another such layer that leads elsewhere.

* `merge_nest_cons` : along its path, the layer is an insertion at each table, and makes the tables
  that are missing;
* `merge_nest_comm` : layers whose paths lead apart may be exchanged;
* `overrides_update_points` : the configurations that are built from a file and overrides.

Exchanging two layers gives the same value, not only the same answers to every path: `Entries.insert`
puts a key in its place, and that place does not depend on what was inserted before.
-/

namespace ArtifactPipeline.Config

open Value

/-! ### Insertions -/

namespace Entries

variable {key other : String}

/-- Of two insertions of a key the later one counts. -/
theorem insert_insert_self (key : String) (v w : Value) (entries : Entries) :
    insert key w (insert key v entries) = insert key w entries := by
  induction entries with
  | nil => simp [insert]
  | cons entry rest ih =>
    obtain ⟨k, u⟩ := entry
    by_cases hsame : key = k
    · simp [insert, hsame]
    by_cases hless : key < k
    · simp [insert, hsame, hless]
    · simp [insert, hsame, hless, ih]

theorem insert_insert_of_lt (hlt : key < other) (v w : Value) (entries : Entries) :
    insert key v (insert other w entries) = insert other w (insert key v entries) := by
  have hne : key ≠ other := ne_of_lt hlt
  have hle : ¬other < key := not_lt_of_gt hlt
  induction entries with
  | nil => simp [insert, hlt, hne, hne.symm, hle]
  | cons entry rest ih =>
    obtain ⟨k, u⟩ := entry
    -- the first entry stands before both keys, between them, behind both, or is one of the two
    rcases lt_trichotomy k key with hk | rfl | hk
    · have hko := hk.trans hlt
      simp [insert, hk.ne', not_lt_of_gt hk, hko.ne', not_lt_of_gt hko, ih]
    · simp [insert, hne.symm, hle]
    · rcases lt_trichotomy k other with ho | rfl | ho
      · simp [insert, hk, hk.ne, ho.ne', not_lt_of_gt ho, hne.symm, hle]
      · simp [insert, hlt, hne, hne.symm, hle]
      · simp [insert, hk, hk.ne, hlt, hne, hne.symm, hle, ho, ho.ne]

/-- Insertions of two keys may be exchanged, whether the entries are in order or not. -/
theorem insert_insert_comm (hne : key ≠ other) (v w : Value) (entries : Entries) :
    insert key v (insert other w entries) = insert other w (insert key v entries) := by
  rcases lt_or_gt_of_ne hne with hlt | hgt
  · exact insert_insert_of_lt hlt v w entries
  · exact (insert_insert_of_lt hgt w v entries).symm

end Entries

/-! ### Layers with one value -/

/-- The entries that a value has; only tables have any. -/
def entriesOf (v : Value) : Entries := v.asEntries?.getD []

/-- **A value under a path, laid over anything**, is an insertion of the first key: what stands there
gets the rest laid over it, and what is missing or no table counts as nothing. -/
theorem merge_nest_cons (base : Value) (key : String) (path : List String) (v : Value) :
    base.merge (Override.nest (key :: path) v) =
      .object (Entries.insert key
        (((Entries.lookup key (entriesOf base)).getD .null).merge (Override.nest path v))
        (entriesOf base)) := by
  have hnest : Override.nest (key :: path) v = .object [(key, Override.nest path v)] := rfl
  have hnothing : Value.null.merge (Override.nest path v) = Override.nest path v :=
    merge_of_not_object (.inl rfl)
  cases hobject : base.isObject with
  | false =>
    have hentries : entriesOf base = [] := by
      cases base with
      | object _ => cases hobject
      | _ => rfl
    rw [merge_of_not_object (.inl hobject), hentries, Entries.lookup, Option.getD_none, hnothing,
      hnest, Entries.insert]
  | true =>
    obtain ⟨entries, rfl⟩ := exists_entries hobject
    have hentries : entriesOf (.object entries) = entries := rfl
    rw [hnest, merge_object_object, mergeEntries, mergeEntries, hentries]
    cases Entries.lookup key entries with
    | none => rw [Option.getD_none, hnothing]
    | some below => rfl

/-- **Layers whose paths lead apart may be exchanged.** -/
theorem merge_nest_comm {p q : List String} (hp : ¬p <+: q) (hq : ¬q <+: p) (base v w : Value) :
    (base.merge (Override.nest p v)).merge (Override.nest q w) =
      (base.merge (Override.nest q w)).merge (Override.nest p v) := by
  induction p generalizing q base with
  | nil => exact absurd List.nil_prefix hp
  | cons key p ih =>
    cases q with
    | nil => exact absurd List.nil_prefix hq
    | cons other q =>
      have hentries : ∀ entries : Entries, entriesOf (.object entries) = entries := fun _ => rfl
      simp only [merge_nest_cons, hentries]
      by_cases hkey : key = other
      · -- the paths go the same way, and part further on
        subst hkey
        have hp : ¬p <+: q := fun h => hp (List.cons_prefix_cons.mpr ⟨rfl, h⟩)
        have hq : ¬q <+: p := fun h => hq (List.cons_prefix_cons.mpr ⟨rfl, h⟩)
        simp only [Entries.lookup_insert_self, Option.getD_some, Entries.insert_insert_self,
          ih hp hq]
      · -- the paths part here, and each layer leaves the other's key alone
        rw [Entries.lookup_insert_of_ne (Ne.symm hkey), Entries.lookup_insert_of_ne hkey,
          Entries.insert_insert_comm (Ne.symm hkey)]

/-- Two neighbours among the layers may be exchanged when they may be exchanged over anything. -/
theorem mergeLayers_exchange {layer layer' : Value}
    (hcomm : ∀ base : Value, (base.merge layer).merge layer' = (base.merge layer').merge layer)
    (below above : List Value) :
    mergeLayers (below ++ layer :: layer' :: above) =
      mergeLayers (below ++ layer' :: layer :: above) := by
  simp only [mergeLayers, List.foldl_append, List.foldl_cons, hcomm]

/-! ### One more override -/

namespace Override

variable {o o' : Override}

/-- Laid over anything, an override has its value at its path. -/
theorem getPath?_merge_layer (hvalue : o.value.isObject = false) (base : Value) :
    (base.merge o.layer).getPath? o.path = some o.value := by
  have hgiven : o.layer.verdict o.path = .given o.value :=
    verdict_eq_given_iff.mpr (getPath?_nest o.path o.value)
  rw [getPath?_merge, hgiven, Verdict.over, (laidOver_eq_iff hvalue _).mpr rfl]

/-- Laid over anything, an override leaves the paths that lead elsewhere. -/
theorem getPath?_merge_layer_of_apart {p : List String} (habove : ¬p <+: o.path)
    (hbelow : ¬o.path <+: p) (base : Value) :
    (base.merge o.layer).getPath? p = base.getPath? p := by
  rw [getPath?_merge, verdict_eq_silent_iff.mpr (o.silent_layer habove hbelow), Verdict.over]

end Override

namespace Context

variable {fs : FileSystem} {path : Option String} {overrides : List String} {text : String}
  {o : Override} {c : Context}

/-- The layers of one more override are the layers before and its own on top. -/
theorem stack_concat (file : Option (Value × Layer)) (settings : List Override) (o : Override) :
    stack file (settings ++ [o]) = stack file settings ++ [o.layer] := by
  rw [stack, stack, List.map_append, ← List.append_assoc]
  rfl

/-- **One more override** is laid over the configuration that is built without it. -/
theorem exists_build_concat (hbuild : build fs path overrides = .ok c)
    (hparse : Override.parse text = .ok o) :
    ∃ c', build fs path (overrides ++ [text]) = .ok c' ∧
      c'.config = c.config.merge o.layer := by
  obtain ⟨file, settings, hfile, hsettings, rfl⟩ := build_eq_ok_iff.mp hbuild
  refine ⟨_, build_eq_ok_iff.mpr ⟨file, settings ++ [o], hfile, ?_, rfl⟩, ?_⟩
  · exact List.rel_append hsettings (.cons hparse .nil)
  · rw [stack_concat, mergeLayers_concat]

/-- Neighbouring overrides whose layers may be exchanged may be exchanged themselves. The outcome is
the same also where the build fails. -/
theorem build_exchange {text' : String} {o' : Override} (hparse : Override.parse text = .ok o)
    (hparse' : Override.parse text' = .ok o')
    (hcomm : ∀ base : Value,
      (base.merge o.layer).merge o'.layer = (base.merge o'.layer).merge o.layer)
    (before after : List String) :
    build fs path (before ++ text :: text' :: after) =
      build fs path (before ++ text' :: text :: after) := by
  have hconfig : ∀ file settings more,
      mergeLayers (stack file (settings ++ o :: o' :: more)) =
        mergeLayers (stack file (settings ++ o' :: o :: more)) := by
    intro file settings more
    simp only [stack, List.map_append, List.map_cons, ← List.append_assoc]
    exact mergeLayers_exchange hcomm _ _
  have hgiven : ∀ first more, (before ++ first :: more).isEmpty = false := by simp
  have hread : ∀ o : Override, (Except.ok o : Except ConfigFailure Override) = pure o := fun _ => rfl
  -- the file and the other overrides are read as before, and the two are known to be read
  simp only [build_eq, List.mapM_append, List.mapM_cons, hparse, hparse', hread, bind_assoc,
    pure_bind, hgiven, hconfig]

end Context

/-! ### Configurations built from a file and the command line -/

/-- **An override updates one point**, and overrides of different points do not mind each other.

Take any configuration that is built from a file and overrides, and one more override whose value is
no table. Then the configuration with that override is built as well, it has the value at the path of
the override, and it says the same as before, a value or nothing, at every path that leads elsewhere.

Two neighbouring overrides whose paths lead apart, with any values, may be exchanged: what is built,
or why nothing is, stays the same. -/
theorem overrides_update_points (fs : FileSystem) (path : Option String) :
    (∀ overrides text o c, Context.build fs path overrides = .ok c →
      Override.parse text = .ok o → o.value.isObject = false →
      ∃ c', Context.build fs path (overrides ++ [text]) = .ok c' ∧
        c'.config.getPath? o.path = some o.value ∧
        ∀ p, ¬p <+: o.path → ¬o.path <+: p → c'.config.getPath? p = c.config.getPath? p) ∧
    ∀ before text text' after o o', Override.parse text = .ok o → Override.parse text' = .ok o' →
      ¬o.path <+: o'.path → ¬o'.path <+: o.path →
      Context.build fs path (before ++ text :: text' :: after) =
        Context.build fs path (before ++ text' :: text :: after) := by
  constructor
  · intro overrides text o c hbuild hparse hvalue
    obtain ⟨c', hbuild', hconfig⟩ := Context.exists_build_concat hbuild hparse
    refine ⟨c', hbuild', ?_, fun p habove hbelow => ?_⟩
    · rw [hconfig]
      exact Override.getPath?_merge_layer hvalue c.config
    · rw [hconfig]
      exact Override.getPath?_merge_layer_of_apart habove hbelow c.config
  · intro before text text' after o o' hparse hparse' happart happart'
    exact Context.build_exchange hparse hparse'
      (fun base => merge_nest_comm happart happart' base o.value o'.value) before after

/-- A text that spells no value is kept as a text. -/
theorem Override.readValue_of_plain {text : String} (hplain : Toml.parse ("v = " ++ text) = none) :
    readValue text = .string text := by
  rw [readValue, hplain]

/-- A device and a host from the command line: each is set, neither hides the other, and their order
does not matter. -/
theorem overrides_update_points_of_device_and_host :
    ∃ c, Context.build .empty none ["wdb.device=u280", "wdb.ssh_host=fpga"] = .ok c ∧
      Context.build .empty none ["wdb.ssh_host=fpga", "wdb.device=u280"] = .ok c ∧
      c.config.getPath? ["stages", "wdb", "ssh_host"] = some (.string "fpga") ∧
      ∃ c', Context.build .empty none ["wdb.device=u280"] = .ok c' ∧
        c.config.getPath? ["stages", "wdb", "device"] =
          c'.config.getPath? ["stages", "wdb", "device"] := by
  have hdevice : Override.parse "wdb.device=u280" =
      .ok ⟨["stages", "wdb", "device"], .string "u280"⟩ := by
    rw [← Override.readValue_of_plain (Option.isNone_iff_eq_none.mp (by decide +kernel))]
    rfl
  have hhost : Override.parse "wdb.ssh_host=fpga" =
      .ok ⟨["stages", "wdb", "ssh_host"], .string "fpga"⟩ := by
    rw [← Override.readValue_of_plain (Option.isNone_iff_eq_none.mp (by decide +kernel))]
    rfl
  obtain ⟨c', hbuild⟩ : ∃ c', Context.build .empty none ["wdb.device=u280"] = .ok c' :=
    ⟨_, Context.build_eq_ok_iff.mpr ⟨none, _, rfl, .cons hdevice .nil, rfl⟩⟩
  obtain ⟨hupdate, hexchange⟩ := overrides_update_points .empty none
  obtain ⟨c, hc, hset, helsewhere⟩ := hupdate _ _ _ c' hbuild hhost rfl
  refine ⟨c, hc, ?_, hset, c', hbuild, helsewhere _ (by decide) (by decide)⟩
  exact (hexchange [] _ _ [] _ _ hdevice hhost (by decide) (by decide)).symm.trans hc

end ArtifactPipeline.Config
