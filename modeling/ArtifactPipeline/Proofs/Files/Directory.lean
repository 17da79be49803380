import ArtifactPipeline.Proofs.Files.Growth

/-!
# A file in a new directory

In a file system that is *rooted* nothing lies below a name that is not in use (`Rooted`). A
directory that is made at a fresh location is then empty (`Clear`), also when temporary files were
added before (`Grown.clear`), and a file that is written into it is found there with what was
written (`write_into_fresh`).
-/

namespace ArtifactPipeline.FileSystem

variable {fs fs' before after : FileSystem} {l : Location} {part name beginning : String}

/-! ### Path names -/

theorem pathOf_append (hne : l ≠ []) (name : String) :
    pathOf (l ++ [name]) = pathOf l ++ "/" ++ name := by
  have hparts : ∀ l : Location, l ≠ [] →
      String.intercalate "/" (l ++ [name]) = String.intercalate "/" l ++ "/" ++ name := by
    intro l hne
    induction l with
    | nil => exact absurd rfl hne
    | cons part rest ih =>
      cases rest with
      | nil =>
        rw [List.singleton_append, String.intercalate_cons_cons, String.intercalate_singleton,
          String.intercalate_singleton]
      | cons next rest =>
        rw [List.cons_append, List.cons_append, String.intercalate_cons_cons, ← List.cons_append,
          ih (List.cons_ne_nil next rest), String.intercalate_cons_cons]
        simp only [String.append_assoc]
  rw [pathOf, pathOf, hparts l hne]
  simp only [String.append_assoc]

/-- The path name of a location does not end with a slash. -/
theorem endsWithSlash_pathOf (hne : l ≠ []) (hname : IsPart name) :
    Path.endsWithSlash (pathOf (l ++ [name])) = false := by
  have hchars : name.toList ≠ [] := fun hnil => hname.ne_empty (String.toList_eq_nil_iff.mp hnil)
  rw [Path.endsWithSlash, pathOf_append hne, String.toList_append,
    List.getLast?_append_of_ne_nil _ hchars]
  refine beq_eq_false_iff_ne.mpr fun hlast => ?_
  exact hname.no_slash (List.mem_of_getLast? hlast)

/-- A part that is put behind the path name of a location leads below the location. -/
theorem join_pathOf (hne : l ≠ []) (hpart : IsPart part) (hname : IsPart name) :
    Path.join (pathOf (l ++ [part])) name = pathOf (l ++ [part] ++ [name]) := by
  have hrelative : Path.isAbsolute name = false := by
    refine beq_eq_false_iff_ne.mpr fun hfirst => ?_
    exact hname.no_slash (List.mem_of_head? hfirst)
  have hbase : (pathOf (l ++ [part])).isEmpty = false := by
    simp [pathOf]
  rw [Path.join, hrelative, hbase, Bool.or_false, if_neg Bool.false_ne_true,
    endsWithSlash_pathOf hne hpart, if_neg Bool.false_ne_true,
    pathOf_append (List.append_ne_nil_of_left_ne_nil hne _)]

/-- Plain parts take at most as many octets as there is room for, and one for the slash. -/
theorem utf8ByteSize_pathOf_le (hparts : ∀ part ∈ l, IsPart part) :
    (pathOf l).utf8ByteSize ≤ 1 + l.length * (partLimit + 1) := by
  have hsize : (String.intercalate "/" l).utf8ByteSize ≤ l.length * (partLimit + 1) := by
    induction l with
    | nil => simp
    | cons part rest ih =>
      obtain ⟨hpart, hrest⟩ := List.forall_mem_cons.1 hparts
      have hshort := hpart.short
      have ih := ih hrest
      have hslash : "/".utf8ByteSize = 1 := rfl
      cases rest with
      | nil =>
        rw [String.intercalate_singleton, List.length_singleton]
        omega
      | cons next rest =>
        rw [String.intercalate_cons_cons, String.utf8ByteSize_append, String.utf8ByteSize_append,
          List.length_cons, Nat.add_mul]
        omega
  have hslash : "/".utf8ByteSize = 1 := rfl
  rw [pathOf, String.utf8ByteSize_append]
  omega

/-! ### Everything lies in something -/

/-- **A rooted file system**: below a location that holds nothing there is nothing. -/
def Rooted (fs : FileSystem) : Prop :=
  ∀ l name, fs.node? l = none → fs.node? (l ++ [name]) = none

/-- A file system is rooted when each of its nodes lies in another. -/
theorem rooted_of_nodes (h : ∀ entry ∈ fs.nodes, fs.node? entry.1.dropLast ≠ none) :
    fs.Rooted := by
  intro l name hl
  refine Option.eq_none_iff_forall_ne_some.mpr fun n hn => ?_
  rw [node?, if_neg (List.append_ne_nil_of_right_ne_nil l (List.cons_ne_nil name []))] at hn
  have hparent := h _ (mem_of_lookup hn)
  rw [List.dropLast_concat] at hparent
  exact hparent hl

/-- The directories of every machine make a rooted file system. -/
example : standard.Rooted := rooted_of_nodes (by decide)

/-- **New directories are empty**: below a fresh location there is nothing. -/
def Clear (beginning : String) (fs : FileSystem) : Prop :=
  ∀ l name, fs.freshLocation beginning = .ok l → fs.node? (l ++ [name]) = none

/-- New directories are empty in a rooted file system, also after temporary files were added: these
lie beside the new directory and not below it. -/
theorem Grown.clear (hgrown : Grown beginning before after) (hrooted : before.Rooted)
    (beginning' : String) : after.Clear beginning' := by
  intro l name hfresh
  obtain ⟨-, hfree, number, -, hl⟩ := of_freshLocation hfresh
  refine Option.eq_none_iff_forall_ne_some.mpr fun n hn => ?_
  cases hbefore : before.node? (l ++ [name]) with
  | none =>
    -- what was added has two parts, and this has three
    obtain ⟨⟨k, hk⟩, -⟩ := hgrown.added hn hbefore
    have hlength := congrArg List.length hk
    simp [hl, temporaryDirectory] at hlength
  | some m =>
    cases hparent : before.node? l with
    | none =>
      rw [hrooted l name hparent] at hbefore
      cases hbefore
    | some parent =>
      rw [hgrown.kept hparent] at hfree
      cases hfree

/-! ### Writing into a new directory -/

@[simp] theorem node?_addDirectory (l k : Location) (hk : k ≠ []) :
    (fs.addDirectory k).node? l = if l = k then some .directory else fs.node? l :=
  fs.node?_bindPlain l k .directory (by simp) hk

/-- Directories are still reached when none is taken away. -/
theorem Reaches.mono {here : Location} (h : fs.Reaches here l)
    (hkept : ∀ {k}, fs.node? k = some .directory → fs'.node? k = some .directory) :
    fs'.Reaches here l :=
  fun before after hsplit hne => hkept (h before after hsplit hne)

/-- What lies in a directory that is reached is reached. -/
theorem Reaches.concat (h : fs.Reaches [] l) (hdir : fs.node? l = some .directory)
    (name : String) : fs.Reaches [] (l ++ [name]) := by
  intro before after hsplit hne
  obtain ⟨rest, last, rfl⟩ : ∃ rest last, after = rest ++ [last] :=
    ⟨_, _, (List.dropLast_append_getLast hne).symm⟩
  rw [← List.append_assoc] at hsplit
  obtain ⟨rfl, -⟩ := List.append_inj' hsplit rfl
  rw [List.nil_append]
  cases rest with
  | nil => rwa [List.append_nil] at hdir
  | cons next rest => exact h before (next :: rest) rfl (List.cons_ne_nil next rest)

/-- **A new file**: what is written under a name that leads nowhere yet, in a directory that is
reached, is found there. -/
theorem write_new (hne : l ≠ []) (hname : IsPart name) (hparts : ∀ part ∈ l, IsPart part)
    (hreaches : fs.Reaches [] (l ++ [name]))
    (hsize : (pathOf (l ++ [name])).utf8ByteSize ≤ pathLimit)
    (hvacant : fs.node? (l ++ [name]) = none) (bytes : Bytes) :
    ∃ written id, fs.write (pathOf (l ++ [name])) bytes = .ok written ∧
      written.find (pathOf (l ++ [name])) = .ok (l ++ [name], .file id) ∧
      written.contentsOf id = bytes := by
  have hbelow : l ++ [name] ≠ [] := List.append_ne_nil_of_left_ne_nil hne _
  have hparts : ∀ part ∈ l ++ [name], IsPart part :=
    List.forall_mem_append.mpr ⟨hparts, List.forall_mem_singleton.mpr hname⟩
  have hlocate : fs.locate (pathOf (l ++ [name])) = .ok (l ++ [name]) := by
    refine bind_eq_ok_iff.2 ⟨_, resolve_pathOf hbelow hparts hreaches hsize, ?_⟩
    rw [hvacant]
  refine ⟨(fs.addFile (l ++ [name]) []).extend fs.contents.length bytes, fs.contents.length,
    ?_, ?_, ?_⟩
  · rw [write, openToWrite, place, endsWithSlash_pathOf hne hname, if_neg Bool.false_ne_true,
      hlocate]
    simp only [hvacant]
    rfl
  · -- the new file takes no directory away
    refine find_pathOf hbelow hparts (hreaches.mono fun {k} hk => ?_) hsize ?_
      fun target => Node.noConfusion
    · rw [node?_extend, node?_addFile _ _ _ _ hbelow, if_neg, hk]
      rintro rfl
      rw [hvacant] at hk
      cases hk
    · rw [node?_extend, node?_addFile _ _ _ _ hbelow, if_pos rfl]
  · rw [contentsOf_extend, if_pos ⟨rfl, by simp [addFile]⟩, contentsOf_addFile, if_pos rfl,
      List.nil_append]

/-- **A file that is written into a new directory** is found there, with what was written. -/
theorem write_into_fresh (hbeginning : IsBeginning beginning)
    (hclear : fs.Clear beginning) (hfresh : fs.freshLocation beginning = .ok l)
    (hname : IsPart name) (bytes : Bytes) :
    ∃ written id, (fs.addDirectory l).write (Path.join (pathOf l) name) bytes = .ok written ∧
      written.find (Path.join (pathOf l) name) = .ok (l ++ [name], .file id) ∧
      written.contentsOf id = bytes := by
  obtain ⟨htemporary, -, number, hnumber, hl⟩ := of_freshLocation hfresh
  have hpart := isPart_temporaryName hbeginning hnumber
  have htop : temporaryDirectory ≠ [] := List.cons_ne_nil _ _
  have hne : l ≠ [] := hl ▸ List.append_ne_nil_of_left_ne_nil htop _
  have hparts : ∀ part ∈ l, IsPart part := by
    rw [hl]
    exact List.forall_mem_append.mpr
      ⟨List.forall_mem_singleton.mpr isPart_tmp, List.forall_mem_singleton.mpr hpart⟩
  have hsize : (pathOf (l ++ [name])).utf8ByteSize ≤ pathLimit := by
    have hall : ∀ part ∈ l ++ [name], IsPart part :=
      List.forall_mem_append.mpr ⟨hparts, List.forall_mem_singleton.mpr hname⟩
    refine Nat.le_trans (utf8ByteSize_pathOf_le hall) ?_
    simp [hl, temporaryDirectory, partLimit, pathLimit]
  have hjoin : Path.join (pathOf l) name = pathOf (l ++ [name]) := by
    rw [hl, join_pathOf htop hpart hname]
  -- the new directory takes no directory away
  have hreaches : (fs.addDirectory l).Reaches [] (l ++ [name]) := by
    refine Reaches.concat (Reaches.mono (hl ▸ reaches_temporary htemporary _) fun {k} hk => ?_) ?_ _
    · rw [node?_addDirectory _ _ hne, hk, ite_self]
    · rw [node?_addDirectory _ _ hne, if_pos rfl]
  have hvacant : (fs.addDirectory l).node? (l ++ [name]) = none := by
    rw [node?_addDirectory _ _ hne, if_neg (by simp), hclear l name hfresh]
  rw [hjoin]
  exact write_new hne hname hparts hreaches hsize hvacant bytes

end ArtifactPipeline.FileSystem
