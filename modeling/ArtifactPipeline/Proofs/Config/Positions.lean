import ArtifactPipeline.Proofs.Config.Redaction
import Mathlib.Data.List.Basic

/-!
# What redaction changes

A *position* in a configuration is reached by a path of keys and of indices of lists
(`Value.at?`). Redaction changes exactly the positions that hold a scalar directly under a key that
names a secret:

* `select?_redact` says what one step finds in a redacted value, and `at?_redact`, by induction on
  the path, what a whole path finds there: what it found before, in the form in which its last key
  lets it be seen;
* `redact_redact` says that there is nothing left to redact afterwards;
* `redact_only_conceals` puts them together: off the secret keys shapes and scalars stay, the
  scalars under these keys become the mark, and no path is new.

That the path of a scalar ends at its key carries the induction: the mark is a scalar as well, so no
path that goes on through a concealed value leads anywhere, before or after.
-/

namespace ArtifactPipeline.Config

open Value

/-! ### Positions -/

/-- One step of a path: a key of a table, or an index of a list. -/
inductive Selector where
  | key (name : String)
  | index (i : Nat)
deriving Repr, DecidableEq

/-- What one step finds in a value. -/
def Value.select? : Selector → Value → Option Value
  | .key name, .object entries => Entries.lookup name entries
  | .index i, .array items => items[i]?
  | _, _ => none

/-- What is at the end of a path. -/
def Value.at? : List Selector → Value → Option Value
  | [], v => some v
  | selector :: path, v => (v.select? selector).bind (at? path)

/-- A path on which no key names a secret. -/
def AvoidsSecrets (path : List Selector) : Prop :=
  ∀ name, .key name ∈ path → isSecretKey name = false

/-- **The same shape**: tables with the same keys, lists of the same length, or the same scalar. -/
inductive SameShape : Value → Value → Prop where
  | object {es fs : List (String × Value)} (keys : fs.map Prod.fst = es.map Prod.fst) :
    SameShape (.object es) (.object fs)
  | array {vs ws : List Value} (length : ws.length = vs.length) : SameShape (.array vs) (.array ws)
  | scalar {v : Value} (h : IsScalar v) : SameShape v v

variable {v w : Value} {path : List Selector}

theorem at?_cons (selector : Selector) (path : List Selector) (v : Value) :
    v.at? (selector :: path) = (v.select? selector).bind (at? path) := rfl

/-- A scalar holds nothing. -/
theorem select?_of_isScalar (h : IsScalar v) (selector : Selector) : v.select? selector = none := by
  cases v with
  | object => exact nomatch h.not_object
  | array => exact nomatch h.not_array
  | _ => cases selector <;> rfl

/-- No path goes on through a scalar. -/
theorem at?_of_isScalar (h : IsScalar v) (hpath : path ≠ []) : v.at? path = none := by
  cases path with
  | nil => exact absurd rfl hpath
  | cons selector path => rw [at?_cons, select?_of_isScalar h, Option.bind_none]

/-! ### Redaction, position by position -/

/-- What the redaction shows of a value that one step has found. -/
def Selector.shown : Selector → Value → Value
  | .key name, v => Config.shown name v
  | .index _, v => v.redact

/-- What the redaction shows of a value at the end of a path: the last step decides. -/
def shownAt (path : List Selector) (v : Value) : Value :=
  match path.getLast? with
  | some selector => selector.shown v
  | none => v.redact

theorem shownAt_append (path : List Selector) (selector : Selector) (v : Value) :
    shownAt (path ++ [selector]) v = selector.shown v := by
  rw [shownAt, List.getLast?_append]
  rfl

theorem lookup_redactEntries (name : String) (entries : List (String × Value)) :
    Entries.lookup name (redactEntries entries) =
      (Entries.lookup name entries).map (Config.shown name) := by
  induction entries with
  | nil => rfl
  | cons entry rest ih =>
    obtain ⟨key, v⟩ := entry
    rw [redactEntries_cons, Entries.lookup, Entries.lookup]
    by_cases hkey : name = key
    · rw [if_pos hkey, if_pos hkey, hkey]
      rfl
    · rw [if_neg hkey, if_neg hkey, ih]

theorem map_fst_redactEntries (entries : List (String × Value)) :
    (redactEntries entries).map Prod.fst = entries.map Prod.fst := by
  induction entries with
  | nil => rfl
  | cons entry rest ih => rw [redactEntries_cons, List.map_cons, List.map_cons, ih]

theorem redactItems_eq_map (items : List Value) : redactItems items = items.map Value.redact := by
  induction items with
  | nil => rfl
  | cons v rest ih => rw [redactItems, List.map_cons, ih]

/-- Redaction keeps the shape of a value. -/
theorem sameShape_redact (v : Value) : SameShape v v.redact := by
  cases v with
  | object entries => exact .object (map_fst_redactEntries entries)
  | array items => exact .array (by rw [redactItems_eq_map, List.length_map])
  | _ => exact .scalar ⟨rfl, rfl⟩

/-- **What one step finds** in a redacted value. -/
theorem select?_redact (selector : Selector) (v : Value) :
    v.redact.select? selector = (v.select? selector).map selector.shown := by
  cases v with
  | object entries =>
    cases selector with
    | key name => exact lookup_redactEntries name entries
    | index => rfl
  | array items =>
    cases selector with
    | key => rfl
    | index i =>
      change (redactItems items)[i]? = items[i]?.map Value.redact
      rw [redactItems_eq_map, List.getElem?_map]
  | _ => cases selector <;> rfl

/-- What was found is redacted in its turn, or it is a scalar and becomes the mark. -/
theorem Selector.shown_cases (selector : Selector) (v : Value) :
    selector.shown v = v.redact ∨ IsScalar v ∧ selector.shown v = redactionMark := by
  cases selector with
  | index => exact .inl rfl
  | key name =>
    by_cases h : isSecretKey name = true ∧ IsScalar v
    · exact .inr ⟨h.2, shown_of_concealed h.1 h.2⟩
    · exact .inl (shown_of_kept h)

/-- **What a path finds** in a redacted value. -/
theorem at?_redact (path : List Selector) (v : Value) :
    v.redact.at? path = (v.at? path).map (shownAt path) := by
  induction path generalizing v with
  | nil => rfl
  | cons selector path ih =>
    rw [at?_cons, at?_cons, select?_redact]
    cases v.select? selector with
    | none => rfl
    | some w =>
      change (selector.shown w).at? path = (w.at? path).map (shownAt (selector :: path))
      cases path with
      | nil => rfl
      | cons next path =>
        have hlast : shownAt (selector :: next :: path) = shownAt (next :: path) := by
          funext x
          rw [shownAt, shownAt, List.getLast?_cons_cons]
        rw [hlast]
        rcases selector.shown_cases w with hkept | ⟨hscalar, hmark⟩
        · rw [hkept, ih]
        · -- the path goes on through a scalar, and so it leads nowhere
          rw [hmark, at?_of_isScalar isScalar_redactionMark (by simp),
            at?_of_isScalar hscalar (by simp)]
          rfl

/-- Off the secret keys, what a path finds is redacted in its turn. -/
theorem shownAt_of_avoidsSecrets (h : AvoidsSecrets path) (v : Value) :
    shownAt path v = v.redact := by
  rw [shownAt]
  cases hlast : path.getLast? with
  | none => rfl
  | some selector =>
    cases selector with
    | index => rfl
    | key name =>
      refine shown_of_kept fun hsecret => ?_
      rw [h name (List.mem_of_getLast? hlast)] at hsecret
      exact absurd hsecret.1 (by simp)

/-! ### Nothing is left to redact -/

/-- What is shown under a key is shown so once more. -/
theorem shown_shown {key : String} (h : v.redact.redact = v.redact) :
    shown key (shown key v) = shown key v := by
  by_cases hv : isSecretKey key = true ∧ IsScalar v
  · rw [shown_of_concealed hv.1 hv.2, shown_of_concealed hv.1 isScalar_redactionMark]
  · rw [shown_of_kept hv, shown_of_kept fun hshown => hv ⟨hshown.1, isScalar_redact.mp hshown.2⟩, h]

mutual

theorem redact_redact : (v : Value) → v.redact.redact = v.redact
  | .object entries => congrArg Value.object (redactEntries_redactEntries entries)
  | .array items => congrArg Value.array (redactItems_redactItems items)
  | .null => rfl
  | .bool _ => rfl
  | .int _ => rfl
  | .float _ => rfl
  | .string _ => rfl

theorem redactItems_redactItems : (items : List Value) →
    redactItems (redactItems items) = redactItems items
  | [] => rfl
  | v :: rest => congrArg₂ List.cons (redact_redact v) (redactItems_redactItems rest)

theorem redactEntries_redactEntries : (entries : List (String × Value)) →
    redactEntries (redactEntries entries) = redactEntries entries
  | [] => rfl
  | (key, v) :: rest => by
    rw [redactEntries_cons, redactEntries_cons, redactEntries_redactEntries rest,
      shown_shown (redact_redact v)]

end

/-! ### Only secrets change -/

/-- **Redaction conceals scalars under secret keys, and that is all it does.** On a path without
secret keys the redacted value has the shape of the value, and its scalars; a scalar directly under
a secret key becomes the mark, wherever it is; the paths are the same; and redacting once more
changes nothing. -/
theorem redact_only_conceals (v : Value) :
    (∀ path w, AvoidsSecrets path → v.at? path = some w →
      ∃ shown, v.redact.at? path = some shown ∧ SameShape w shown) ∧
    (∀ path name w, isSecretKey name = true → IsScalar w →
      v.at? (path ++ [.key name]) = some w →
      v.redact.at? (path ++ [.key name]) = some redactionMark) ∧
    (∀ path, (v.redact.at? path).isSome ↔ (v.at? path).isSome) ∧
    v.redact.redact = v.redact := by
  refine ⟨fun path w hpath hw => ?_, fun path name w hname hscalar hw => ?_, fun path => ?_,
    redact_redact v⟩
  · refine ⟨w.redact, ?_, sameShape_redact w⟩
    rw [at?_redact, hw, Option.map_some, shownAt_of_avoidsSecrets hpath]
  · rw [at?_redact, hw, Option.map_some, shownAt_append]
    exact congrArg some (shown_of_concealed hname hscalar)
  · rw [at?_redact, Option.isSome_map]

/-- A port beside a list of tokens, the first of which is null. -/
def portAndTokens : Value :=
  .object [("port", .int 22),
    ("tokens", .array [.object [("name", .string "ci"), ("token", .null)]])]

/-- The port stays, and the token in the list becomes the mark, though the list itself stands under
a secret key. -/
theorem redact_only_conceals_in_list :
    (∃ shown, portAndTokens.redact.at? [.key "port"] = some shown ∧ SameShape (.int 22) shown) ∧
    portAndTokens.redact.at? [.key "tokens", .index 0, .key "token"] = some redactionMark ∧
    portAndTokens.redact.at? [.key "tokens", .index 1] = none := by
  obtain ⟨hkept, hconcealed, hpaths, -⟩ := redact_only_conceals portAndTokens
  have hport : AvoidsSecrets [.key "port"] := by
    intro name hname
    obtain rfl : name = "port" := by simpa using hname
    decide +kernel
  have htoken : isSecretKey "token" = true := by decide +kernel
  refine ⟨hkept [.key "port"] _ hport rfl,
    hconcealed [.key "tokens", .index 0] "token" .null htoken ⟨rfl, rfl⟩ rfl, ?_⟩
  have hnone := (hpaths [.key "tokens", .index 1]).not.mpr (by decide +kernel)
  exact Option.not_isSome_iff_eq_none.mp hnone

end ArtifactPipeline.Config
