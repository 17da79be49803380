import ArtifactPipeline.Proofs.Files.Names

/-!
# Growth of a file system

A file system *widens* when every location keeps what it holds and no link is new (`Widened`). What a
path name led to before, it leads to afterwards. It *grows* when nothing happens to it but that fresh
files with temporary names are added (`Grown`), and then what was read is read again, too:

* `Widened.locate` and `Widened.find` carry over where a path name leads and what it finds there;
* `Grown.refl`, `Grown.trans`, `grown_addFile`, `Grown.extend` and `Grown.forget` build growth up
  from what is done to single files, and `Grown.read` carries over what was read.

A new file can stand in nobody's way. A location on the way of a path name that led somewhere was a
directory or a link, and these are kept; a location at its end that held nothing can have become a
file, which is no link and leads nowhere else.
-/

namespace ArtifactPipeline.FileSystem

variable {before after : FileSystem}

/-! ### Path names -/

/-- Where a way that ends at a location goes on: a link there is followed. -/
def onward (fs : FileSystem) (visit : Location → String → Except IoFault Location) (k : Location) :
    Except IoFault Location :=
  match fs.node? k with
  | some (.link next) => visit k.dropLast next
  | _ => .ok k

/-- **A file system widens** when locations keep what they hold and no link is new. -/
structure Widened (before after : FileSystem) : Prop where
  /-- What a location held, it holds. -/
  kept : ∀ {l n}, before.node? l = some n → after.node? l = some n
  /-- Links are not new. -/
  link : ∀ {l target}, after.node? l = some (.link target) → before.node? l = some (.link target)
  workingDirectory : after.workingDirectory = before.workingDirectory

namespace Widened

variable {here k l : Location}

/-- What happens to the contents of files does not matter. -/
theorem of_node? (hnodes : ∀ l, after.node? l = before.node? l)
    (hdirectory : after.workingDirectory = before.workingDirectory) : Widened before after where
  kept hnode := (hnodes _).trans hnode
  link hlink := (hnodes _).symm.trans hlink
  workingDirectory := hdirectory

section Way

variable {visit visit' : Location → String → Except IoFault Location}
  (hvisit : ∀ {here target l}, visit here target = .ok l → visit' here target = .ok l)

include hvisit

/-- A directory that was reached is reached. -/
theorem directoryAt (h : Widened before after)
    (hdir : before.directoryAt visit here = .ok l) : after.directoryAt visit' here = .ok l := by
  rw [FileSystem.directoryAt] at hdir ⊢
  cases hnode : before.node? here with
  | none =>
    rw [hnode] at hdir
    cases hdir
  | some n =>
    rw [hnode] at hdir
    rw [h.kept hnode]
    cases n with
    | link target =>
      obtain ⟨k, hlink, hk⟩ := bind_eq_ok_iff.1 hdir
      refine bind_eq_ok_iff.2 ⟨k, hvisit hlink, ?_⟩
      cases hm : before.node? k with
      | none =>
        rw [hm] at hk
        cases hk
      | some m =>
        rw [hm] at hk
        rw [h.kept hm]
        exact hk
    | _ => exact hdir

/-- A way that led somewhere leads there. -/
theorem walk (h : Widened before after) {parts : List String}
    (hwalk : before.walk visit here parts = .ok l) : after.walk visit' here parts = .ok l := by
  induction parts generalizing here with
  | nil => exact hwalk
  | cons part rest ih =>
    obtain ⟨next, hdir, hrest⟩ := bind_eq_ok_iff.1 hwalk
    refine bind_eq_ok_iff.2 ⟨next, h.directoryAt hvisit hdir, ?_⟩
    -- both file systems read the part in the same way, and go on from the same directory
    split_ifs at hrest ⊢
    · exact ih hrest
    · exact ih hrest
    · exact ih hrest

/-- A way goes on as it did. -/
theorem onward (h : Widened before after) (hlast : before.onward visit k = .ok l) :
    after.onward visit' k = .ok l := by
  rw [FileSystem.onward] at hlast ⊢
  split at hlast
  · next next hlink =>
    rw [h.kept hlink]
    exact hvisit hlast
  · next hplain =>
    -- what held nothing may hold a file by now, but no link
    split
    · next next hlink => exact absurd (h.link hlink) (hplain next)
    · exact hlast

end Way

/-- A link that led somewhere leads there. -/
theorem follow (h : Widened before after) {count : Nat} {target : String}
    (hfollow : before.follow count here target = .ok l) :
    after.follow count here target = .ok l := by
  induction count generalizing here target l with
  | zero => cases hfollow
  | succ count ih =>
    obtain ⟨k, hwalk, hlast⟩ := bind_eq_ok_iff.1 hfollow
    exact bind_eq_ok_iff.2 ⟨k, h.walk ih hwalk, h.onward ih hlast⟩

variable {path : String} {n : Node}

/-- A path name that led to a location leads to it. -/
theorem resolve (h : Widened before after) (hpath : before.resolve path = .ok l) :
    after.resolve path = .ok l := by
  rw [FileSystem.resolve] at hpath ⊢
  rw [h.workingDirectory]
  split_ifs at hpath ⊢
  exact h.walk h.follow hpath

/-- The same, where a link at the end is followed. -/
theorem locate (h : Widened before after) (hpath : before.locate path = .ok l) :
    after.locate path = .ok l := by
  obtain ⟨k, hresolve, hlast⟩ := bind_eq_ok_iff.1 hpath
  exact bind_eq_ok_iff.2 ⟨k, h.resolve hresolve, h.onward h.follow hlast⟩

/-- What a path name found, it finds. -/
theorem find (h : Widened before after) (hpath : before.find path = .ok (l, n)) :
    after.find path = .ok (l, n) := by
  obtain ⟨hlocate, hnode⟩ := find_eq_ok_iff.1 hpath
  exact find_eq_ok_iff.2 ⟨h.locate hlocate, h.kept hnode⟩

end Widened

/-- A file that is added where nothing is widens the file system. -/
theorem widened_addFile {fs : FileSystem} {l : Location} (hvacant : fs.node? l = none)
    (bytes : Bytes) : Widened fs (fs.addFile l bytes) := by
  have hne : l ≠ [] := by
    rintro rfl
    cases hvacant
  refine ⟨fun {k n} hnode => ?_, fun {k target} hlink => ?_, rfl⟩
  · rw [node?_addFile _ _ _ _ hne, if_neg, hnode]
    rintro rfl
    rw [hvacant] at hnode
    cases hnode
  · rw [node?_addFile _ _ _ _ hne] at hlink
    split at hlink
    · cases hlink
    · exact hlink

/-! ### Growth -/

/-- Locations of temporary files whose names have a beginning. -/
def IsTemporary (beginning : String) (l : Location) : Prop :=
  ∃ k, l = temporaryDirectory ++ [temporaryName beginning k]

/-- One file system holds all that another holds, and more only in fresh temporary files. -/
structure Grown (beginning : String) (before after : FileSystem) : Prop where
  /-- What a location held, it holds. -/
  kept : ∀ {l n}, before.node? l = some n → after.node? l = some n
  /-- What is new is a file with a temporary name and with contents of its own. -/
  added : ∀ {l n}, after.node? l = some n → before.node? l = none →
    IsTemporary beginning l ∧ ∃ id, n = .file id ∧ before.contents.length ≤ id
  /-- Contents are not taken away. -/
  length_le : before.contents.length ≤ after.contents.length
  /-- Files hold what they held. -/
  contentsOf : ∀ {id}, id < before.contents.length → after.contentsOf id = before.contentsOf id
  /-- Who may do what with a file is as it was. -/
  modeOf : ∀ {id}, id < before.contents.length → after.modeOf id = before.modeOf id
  /-- Who may do what with a directory is as it was. -/
  directoryModes : after.directoryModes = before.directoryModes
  umask : after.umask = before.umask
  workingDirectory : after.workingDirectory = before.workingDirectory

variable {beginning : String}

namespace Grown

theorem refl (fs : FileSystem) : Grown beginning fs fs where
  kept h := h
  added h hfree := absurd (hfree.symm.trans h) (by simp)
  length_le := Nat.le_refl _
  contentsOf _ := rfl
  modeOf _ := rfl
  directoryModes := rfl
  umask := rfl
  workingDirectory := rfl

theorem trans {middle : FileSystem} (h : Grown beginning before middle)
    (h' : Grown beginning middle after) : Grown beginning before after where
  kept hnode := h'.kept (h.kept hnode)
  added {l n} hnode hfree := by
    -- a location that is new was filled by the first growth or by the second
    cases hmiddle : middle.node? l with
    | none =>
      obtain ⟨htemporary, id, rfl, hid⟩ := h'.added hnode hmiddle
      exact ⟨htemporary, id, rfl, Nat.le_trans h.length_le hid⟩
    | some m =>
      obtain rfl : m = n := Option.some.inj ((h'.kept hmiddle).symm.trans hnode)
      exact h.added hmiddle hfree
  length_le := Nat.le_trans h.length_le h'.length_le
  contentsOf hid := (h'.contentsOf (Nat.lt_of_lt_of_le hid h.length_le)).trans (h.contentsOf hid)
  modeOf hid := (h'.modeOf (Nat.lt_of_lt_of_le hid h.length_le)).trans (h.modeOf hid)
  directoryModes := h'.directoryModes.trans h.directoryModes
  umask := h'.umask.trans h.umask
  workingDirectory := h'.workingDirectory.trans h.workingDirectory

end Grown

/-- A file that is added at a fresh location makes the file system grow. -/
theorem grown_addFile {fs : FileSystem} {l : Location} (h : fs.freshLocation beginning = .ok l)
    (bytes : Bytes) : Grown beginning fs (fs.addFile l bytes) where
  kept := (widened_addFile (fs.node?_of_freshLocation h).1 bytes).kept
  added {k n} hnode hfree := by
    obtain ⟨-, hne⟩ := fs.node?_of_freshLocation h
    rw [node?_addFile _ _ _ _ hne] at hnode
    split at hnode
    · next heq =>
      obtain ⟨-, -, number, -, hl⟩ := of_freshLocation h
      exact ⟨⟨number, heq.trans hl⟩, _, (Option.some.inj hnode).symm, Nat.le_refl _⟩
    · exact absurd (hfree.symm.trans hnode) (by simp)
  length_le := by simp [addFile]
  contentsOf hid := by rw [contentsOf_addFile, if_neg (Nat.ne_of_lt hid)]
  modeOf {id} hid := by
    simp only [FileSystem.modeOf, addFile]
    split
    · rfl
    · rw [List.lookup_cons, beq_eq_false_iff_ne.2 (Nat.ne_of_lt hid)]
  directoryModes := rfl
  umask := rfl
  workingDirectory := rfl

/-- Looking up among the keys without a property. -/
theorem lookup_filter_not {α β : Type} [BEq α] [LawfulBEq α] (gone : α → Bool) (l : α)
    (entries : List (α × β)) :
    (entries.filter fun entry => !gone entry.1).lookup l =
      if gone l then none else entries.lookup l := by
  induction entries with
  | nil => simp
  | cons entry entries ih =>
    obtain ⟨k, n⟩ := entry
    cases hgone : gone k <;> cases hk : l == k
    · simp [List.lookup_cons, hgone, hk, ih]
    · obtain rfl := eq_of_beq hk
      simp [hgone]
    · simp [List.lookup_cons, hgone, hk, ih]
    · obtain rfl := eq_of_beq hk
      simp [hgone, ih]

@[simp] theorem node?_forget (fs : FileSystem) (gone : Location → Bool) (l : Location) :
    (fs.forget gone).node? l = if l ≠ [] ∧ gone l = true then none else fs.node? l := by
  by_cases hl : l = []
  · simp [node?, hl]
  · simp [node?, forget, hl, lookup_filter_not]

namespace Grown

/-- Writing to a file that was added is growth. -/
theorem extend (h : Grown beginning before after) {id : Nat} (hid : before.contents.length ≤ id)
    (bytes : Bytes) : Grown beginning before (after.extend id bytes) where
  kept hnode := h.kept hnode
  added hnode hfree := h.added hnode hfree
  length_le := by simpa [FileSystem.extend] using h.length_le
  contentsOf hother := by
    rw [contentsOf_extend, if_neg, h.contentsOf hother]
    rintro ⟨rfl, -⟩
    omega
  modeOf hother := h.modeOf hother
  directoryModes := h.directoryModes
  umask := h.umask
  workingDirectory := h.workingDirectory

/-- Dropping what was added is growth. -/
theorem forget (h : Grown beginning before after) {gone : Location → Bool}
    (hgone : ∀ l, gone l = true → before.node? l = none) :
    Grown beginning before (after.forget gone) where
  kept {l n} hnode := by
    rw [node?_forget, if_neg, h.kept hnode]
    rintro ⟨-, hl⟩
    exact absurd (hgone l hl ▸ hnode) (by simp)
  added hnode hfree := by
    rw [node?_forget] at hnode
    split at hnode
    · cases hnode
    · exact h.added hnode hfree
  length_le := h.length_le
  contentsOf hid := h.contentsOf hid
  modeOf hid := h.modeOf hid
  directoryModes := h.directoryModes
  umask := h.umask
  workingDirectory := h.workingDirectory

/-- Growth widens a file system: what is new is a file, and no link. -/
theorem widened (h : Grown beginning before after) : Widened before after where
  kept := h.kept
  link {l target} hlink := by
    cases hbefore : before.node? l with
    | none =>
      obtain ⟨-, id, hfile, -⟩ := h.added hlink hbefore
      cases hfile
    | some n => rw [← h.kept hbefore, hlink]
  workingDirectory := h.workingDirectory

/-- What was read from a file is read from it. -/
theorem read (h : Grown beginning before after) {path : String} {bytes : Bytes}
    (hpath : before.read path = .ok bytes) :
    after.read path = .ok bytes := by
  rw [FileSystem.read] at hpath ⊢
  cases hfind : before.find path with
  | error fault =>
    rw [hfind] at hpath
    cases hpath
  | ok found =>
    obtain ⟨l, n⟩ := found
    rw [hfind] at hpath
    rw [h.widened.find hfind]
    cases n with
    | file id =>
      have hid := before.id_lt_of_node? (find_eq_ok_iff.1 hfind).2
      simpa only [readNode, h.contentsOf hid] using hpath
    | _ => exact hpath

end Grown

end ArtifactPipeline.FileSystem
