import ArtifactPipeline.Config.Context
import Mathlib.Data.List.Induction

/-!
# The keys of a table

A table is a list of entries, and what counts of it is which key has which value. So its keys are
listed in ascending order and once each (`Entries.pairwise_keys`), whatever the list is; the keys are
those that have a value (`Entries.mem_keys_iff`); and where the list is in that order already, as
that of every table built with `insert` is, its keys are listed as they stand
(`Entries.keys_of_pairwise`).
-/

namespace ArtifactPipeline.Config

namespace Entries

variable {key other : String} {value : Value} {entries : Entries}

/-- What stands neither before nor at a text stands after it. -/
theorem lt_of_ne_of_not_lt {a b : String} (hne : a ≠ b) (hlt : ¬a < b) : b < a :=
  String.not_le.mp fun hle => hne (String.le_antisymm hle (String.not_lt.mp hlt))

theorem mem_map_fst_insert :
    other ∈ (insert key value entries).map Prod.fst ↔
      other = key ∨ other ∈ entries.map Prod.fst := by
  induction entries with
  | nil => simp [insert]
  | cons entry rest ih =>
    obtain ⟨k, v⟩ := entry
    rw [insert]
    split
    · next hsame =>
      subst hsame
      simp
    · split
      · simp
      · rw [List.map_cons, List.map_cons, List.mem_cons, List.mem_cons, ih]
        exact or_left_comm

/-- **An insertion keeps the order** of the keys. -/
theorem pairwise_insert (h : (entries.map Prod.fst).Pairwise (· < ·)) :
    ((insert key value entries).map Prod.fst).Pairwise (· < ·) := by
  induction entries with
  | nil => exact List.pairwise_singleton _ key
  | cons entry rest ih =>
    obtain ⟨k, v⟩ := entry
    obtain ⟨hfirst, hrest⟩ := List.pairwise_cons.mp h
    rw [insert]
    split
    · next hsame => exact hsame ▸ h
    · next hne =>
      split
      · next hlt =>
        refine List.pairwise_cons.mpr ⟨fun other hother => ?_, h⟩
        rcases List.mem_cons.mp hother with rfl | hother
        · exact hlt
        · exact String.lt_trans hlt (hfirst other hother)
      · next hnot =>
        refine List.pairwise_cons.mpr ⟨fun other hother => ?_, ih hrest⟩
        rcases mem_map_fst_insert.mp hother with rfl | hother
        · exact lt_of_ne_of_not_lt hne hnot
        · exact hfirst other hother

/-- An entry whose key comes after all others is put last. -/
theorem insert_of_last (h : ∀ other ∈ entries.map Prod.fst, other < key) :
    insert key value entries = entries ++ [(key, value)] := by
  induction entries with
  | nil => rfl
  | cons entry rest ih =>
    obtain ⟨k, v⟩ := entry
    have hlt : k < key := h k List.mem_cons_self
    have hne : key ≠ k := by
      rintro rfl
      exact String.lt_irrefl key hlt
    rw [insert, if_neg hne, if_neg (String.lt_asymm hlt),
      ih fun other hother => h other (List.mem_cons_of_mem k hother), List.cons_append]

theorem ofList_append_singleton (entries : List (String × Value)) (key : String) (value : Value) :
    ofList (entries ++ [(key, value)]) = insert key value (ofList entries) := by
  rw [ofList, List.foldl_append]
  rfl

/-- **The keys are in ascending order**, and no key is listed twice. -/
theorem pairwise_keys (entries : Entries) : (keys entries).Pairwise (· < ·) := by
  unfold keys
  induction entries using List.reverseRecOn with
  | nil => exact List.Pairwise.nil
  | append_singleton entries entry ih =>
    rw [ofList_append_singleton]
    exact pairwise_insert ih

/-- Building a table forgets no key. -/
theorem mem_keys : key ∈ keys entries ↔ key ∈ entries.map Prod.fst := by
  unfold keys
  induction entries using List.reverseRecOn with
  | nil => exact Iff.rfl
  | append_singleton entries entry ih =>
    rw [ofList_append_singleton, mem_map_fst_insert, ih, List.map_append, List.mem_append, or_comm,
      List.map_singleton, List.mem_singleton]

/-- **The keys are those that have a value.** -/
theorem mem_keys_iff : key ∈ keys entries ↔ (lookup key entries).isSome := by
  rw [mem_keys]
  induction entries with
  | nil => simp [lookup]
  | cons entry rest ih =>
    obtain ⟨k, v⟩ := entry
    rw [List.map_cons, List.mem_cons, lookup]
    by_cases hsame : key = k
    · simp [hsame]
    · simp [hsame, ih]

/-- Entries in ascending order are a table as they stand. -/
theorem ofList_of_pairwise (h : (entries.map Prod.fst).Pairwise (· < ·)) :
    ofList entries = entries := by
  induction entries using List.reverseRecOn with
  | nil => rfl
  | append_singleton entries entry ih =>
    rw [List.map_append, List.pairwise_append] at h
    obtain ⟨hordered, -, hlast⟩ := h
    rw [ofList_append_singleton, ih hordered]
    exact insert_of_last fun other hother => hlast other hother entry.1 (List.mem_singleton_self _)

/-- **Of a table in order the keys are listed as they stand.** -/
theorem keys_of_pairwise (h : (entries.map Prod.fst).Pairwise (· < ·)) :
    keys entries = entries.map Prod.fst := by
  rw [keys, ofList_of_pairwise h]

end Entries

namespace Context

variable (c : Context)

/-- The names of the stages are in ascending order, and no name is listed twice. -/
theorem pairwise_stageNames : c.stageNames.Pairwise (· < ·) := by
  unfold stageNames
  split
  · next entries _ => exact Entries.pairwise_keys entries
  · exact List.Pairwise.nil

variable {c}

/-- A stage that is given a setting is one of those that have settings. -/
theorem mem_stageNames_of_get? {stage key : String} {v : Value} (h : c.get? stage key = some v) :
    stage ∈ c.stageNames := by
  unfold get? given at h
  obtain ⟨hpath, -⟩ := Option.filter_eq_some_iff.mp h
  obtain ⟨stages, hstages, hpath⟩ := Option.bind_eq_some_iff.mp hpath
  obtain ⟨table, htable, -⟩ := Option.bind_eq_some_iff.mp hpath
  cases stages with
  | object entries =>
    unfold stageNames
    rw [hstages]
    exact Entries.mem_keys_iff.mpr (Option.isSome_of_eq_some htable)
  | _ => cases htable

end Context

end ArtifactPipeline.Config
