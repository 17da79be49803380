import ArtifactPipeline.Proofs.Files.Growth

/-!
# A file that is opened for writing

To open a path name for writing makes a file where there is none and drops what is in one that is
there. Either way the name leads to an empty file afterwards, and no other file has changed; only a
device stays what it is (`Opened`, `opened_of_openToWrite`). What is then written is what the name
reads (`Opened.read_append`).

Who has opened the same file before, under this name or another, finds it empty as well.
-/

namespace ArtifactPipeline.FileSystem

variable {fs opened : FileSystem} {path : String} {node : Node} {l : Location} {id : Nat}

/-- **What opening for writing leads to**, when old contents are dropped: an empty file, and all
others as they were, or a device, and nothing has changed. -/
inductive Opened (fs : FileSystem) (path : String) : Node → FileSystem → Prop
  | file {opened : FileSystem} {l : Location} {id : Nat}
      (hfind : opened.find path = .ok (l, .file id))
      (hnodes : ∀ k, opened.node? k = if k = l then some (.file id) else fs.node? k)
      (hcontents : ∀ k, opened.contentsOf k = if k = id then [] else fs.contentsOf k) :
      Opened fs path (.file id) opened
  | device {node : Node} (hdirectory : node ≠ .directory) (hfile : ∀ id, node ≠ .file id) :
      Opened fs path node fs

/-- Where a file may be put, the name leads. -/
theorem locate_of_place (hplace : fs.place path = .ok l) : fs.locate path = .ok l := by
  rw [place] at hplace
  split at hplace
  · -- a name that ends with a slash is good for no file
    dsimp only at hplace
    split at hplace <;> cases hplace
  · exact hplace

theorem opened_of_openToWrite (hopen : fs.openToWrite false path = .ok (node, opened)) :
    Opened fs path node opened := by
  rw [openToWrite] at hopen
  cases hplace : fs.place path with
  | error fault =>
    rw [hplace] at hopen
    cases hopen
  | ok l =>
    have hlocate := locate_of_place hplace
    rw [hplace] at hopen
    dsimp only at hopen
    cases hnode : fs.node? l with
    | none =>
      -- a new file
      rw [hnode, Except.ok.injEq, Prod.mk.injEq] at hopen
      obtain ⟨rfl, rfl⟩ := hopen
      have hne : l ≠ [] := by
        rintro rfl
        cases hnode
      have hnodes := fun k => fs.node?_addFile k l [] hne
      refine .file (find_eq_ok_iff.2 ⟨(widened_addFile hnode []).locate hlocate, ?_⟩) hnodes
        (fs.contentsOf_addFile l [])
      rw [hnodes, if_pos rfl]
    | some held =>
      rw [hnode] at hopen
      cases held with
      | directory => cases hopen
      | file id =>
        -- a file that is there
        rw [Except.ok.injEq, Prod.mk.injEq, if_neg Bool.false_ne_true] at hopen
        obtain ⟨rfl, rfl⟩ := hopen
        have hid := fs.id_lt_of_node? hnode
        have hwidened : Widened fs (fs.overwrite id []) := .of_node? (fun _ => rfl) rfl
        refine .file (find_eq_ok_iff.2 ⟨hwidened.locate hlocate, hnode⟩) (fun k => ?_) fun k => ?_
        · split
          · next hk => rw [hk, node?_overwrite, hnode]
          · rfl
        · simp only [contentsOf_overwrite, and_iff_left hid]
      | _ =>
        rw [Except.ok.injEq, Prod.mk.injEq] at hopen
        obtain ⟨rfl, rfl⟩ := hopen
        exact .device nofun nofun

/-- An empty file is read as such. -/
theorem read_of_find (hfind : opened.find path = .ok (l, .file id)) :
    opened.read path = .ok (opened.contentsOf id) := by
  rw [FileSystem.read, hfind]
  rfl

/-- **What is written is what the name reads.** -/
theorem read_append (hfind : opened.find path = .ok (l, .file id))
    (hempty : opened.contentsOf id = []) (bytes : Bytes) :
    (opened.append (.file id) bytes).find path = .ok (l, .file id) ∧
      (opened.append (.file id) bytes).read path = .ok bytes := by
  have hid := opened.id_lt_of_node? (find_eq_ok_iff.1 hfind).2
  have hwidened : Widened opened (opened.append (.file id) bytes) := .of_node? (fun _ => rfl) rfl
  have hfound := hwidened.find hfind
  refine ⟨hfound, (read_of_find hfound).trans ?_⟩
  rw [append, contentsOf_extend, if_pos ⟨rfl, hid⟩, hempty, List.nil_append]

/-- What a name reads after it was written, if it leads to a file and not to a device. -/
theorem read_of_write {bytes : Bytes} {written : FileSystem}
    (hwrite : fs.write path bytes = .ok written) (hfind : written.find path = .ok (l, .file id)) :
    written.read path = .ok bytes := by
  rw [write] at hwrite
  cases hopen : fs.openToWrite false path with
  | error fault =>
    rw [hopen] at hwrite
    cases hwrite
  | ok result =>
    obtain ⟨node, opened⟩ := result
    rw [hopen] at hwrite
    obtain rfl : opened.append node bytes = written := Except.ok.inj hwrite
    cases opened_of_openToWrite hopen with
    | file hfound _ hcontents =>
      exact (read_append hfound (by rw [hcontents, if_pos rfl]) bytes).2
    | device _ hfile =>
      -- nothing has changed, so the name leads where the device was opened
      have hsame : fs.append node bytes = fs := by
        cases node with
        | file other => exact absurd rfl (hfile other)
        | _ => rfl
      rw [hsame] at hfind
      obtain ⟨hlocate, hnode⟩ := find_eq_ok_iff.1 hfind
      rw [openToWrite] at hopen
      cases hplace : fs.place path with
      | error fault =>
        rw [hplace] at hopen
        cases hopen
      | ok other =>
        obtain rfl : other = l := Except.ok.inj ((locate_of_place hplace).symm.trans hlocate)
        rw [hplace] at hopen
        simp only [hnode, Except.ok.injEq, Prod.mk.injEq] at hopen
        exact absurd hopen.1.symm (hfile id)

end ArtifactPipeline.FileSystem
