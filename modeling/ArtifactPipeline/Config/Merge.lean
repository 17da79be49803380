import ArtifactPipeline.Config.Value

/-!
# Merging layers

A configuration is laid together from layers, the later one deciding. Tables are merged key by key
at every depth; anything else replaces what lay below it. An absent value in a later layer
replaces too, which is how a layer takes a setting away.

* `lookup_mergeEntries` gives the merged table key by key;
* `merge_of_not_object` says that anything but a table over a table replaces.
-/

namespace ArtifactPipeline.Config

mutual

/-- Lay one value over another. -/
def Value.merge : Value → Value → Value
  | .object base, .object overlay => .object (mergeEntries base overlay)
  | .null, overlay => overlay
  | .bool _, overlay => overlay
  | .int _, overlay => overlay
  | .float _, overlay => overlay
  | .string _, overlay => overlay
  | .array _, overlay => overlay
  | .object _, overlay => overlay

/-- Lay entries over those of a table. -/
def mergeEntries (base : List (String × Value)) : List (String × Value) → List (String × Value)
  | [] => base
  | (key, v) :: rest =>
    Entries.insert key
      (match Entries.lookup key base with
        | some below => below.merge v
        | none => v)
      (mergeEntries base rest)

end

/-- Lay layers over each other, the first at the bottom. -/
def mergeLayers (layers : List Value) : Value := layers.foldl Value.merge .null

theorem merge_object_object (base overlay : Entries) :
    (Value.object base).merge (.object overlay) = .object (mergeEntries base overlay) := by
  rw [Value.merge]

/-- Only a table over a table is merged; anything else replaces. -/
theorem merge_of_not_object {base overlay : Value}
    (h : base.isObject = false ∨ overlay.isObject = false) : base.merge overlay = overlay := by
  cases base <;> cases overlay <;> simp_all [Value.merge, Value.isObject]

/-- The merged table, key by key: a key of the overlay is laid over the same key below, and the
other keys stay. -/
theorem lookup_mergeEntries (key : String) (base overlay : Entries) :
    Entries.lookup key (mergeEntries base overlay) =
      match Entries.lookup key overlay with
      | none => Entries.lookup key base
      | some v =>
        match Entries.lookup key base with
        | some below => some (below.merge v)
        | none => some v := by
  induction overlay with
  | nil => simp [mergeEntries, Entries.lookup]
  | cons entry rest ih =>
    obtain ⟨k, v⟩ := entry
    rw [mergeEntries, Entries.lookup_insert, Entries.lookup]
    by_cases h : key = k
    · subst h
      cases Entries.lookup key base <;> simp
    · simp [h, ih]

@[simp] theorem mergeLayers_nil : mergeLayers [] = .null := rfl

/-- One more layer on top. -/
theorem mergeLayers_concat (layers : List Value) (top : Value) :
    mergeLayers (layers ++ [top]) = (mergeLayers layers).merge top := by
  simp [mergeLayers]

end ArtifactPipeline.Config
