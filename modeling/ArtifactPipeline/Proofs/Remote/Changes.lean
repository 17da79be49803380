import ArtifactPipeline.Proofs.Files.Output
import ArtifactPipeline.Proofs.Remote.Invariant

/-!
# What a backend changes on the local host

A backend is free to change the local files in every operation, and fetching a file is for the sake
of it. `Backend.Changes` bounds these changes by a relation, which may be any preorder: the finer it
is, the more it says. `Passed` says of a part of a run that the files have changed by the operations
of the backend alone, and that none of them fetched anything; `keeps_since` makes an invariant of
such properties, so that they can be followed through a session by the rules for invariants.

The fake host is an example. It may write a file, but it never makes a directory
(`changes_fakeHost`).
-/

namespace ArtifactPipeline.Remote

variable {ε : Type} {R : FileSystem → FileSystem → Prop} {part : Part ε Record}

/-- **A bound on what a backend changes.** Every operation leaves files that are related to those
that it has found, and a relation bounds several operations as soon as it bounds each. -/
structure Backend.Changes (R : FileSystem → FileSystem → Prop) (b : Backend ε) : Prop where
  refl : ∀ files, R files files
  trans : ∀ {before middle after}, R before middle → R middle after → R before after
  connect : ∀ target host, R host.files (b.connect target host).2.files
  exec : ∀ connection command limits listen, Quiet listen → ∀ host,
    R host.files (b.exec connection command limits listen host).2.files
  put : ∀ connection localPath remotePath host,
    R host.files (b.put connection localPath remotePath host).2.files
  get : ∀ connection remotePath localPath host,
    R host.files (b.get connection remotePath localPath host).2.files
  close : ∀ connection host, R host.files (b.close connection host).2.files

/-- Whether a file is to be fetched. -/
def Request.isFetch : Request → Bool
  | get _ _ _ => true
  | _ => false

/-- **Calls have passed, and nothing else.** None of them fetched a file, and the files have changed
as the backend changes them. -/
structure Passed (R : FileSystem → FileSystem → Prop) (before : FileSystem) (calls : Record)
    (after : FileSystem) : Prop where
  unfetched : ∀ e ∈ calls, e.call.request.isFetch = false
  changes : R before after

/-- A property of calls and files that holds on as long as calls pass. -/
def Persists (R : FileSystem → FileSystem → Prop) (F : Record → FileSystem → Prop) : Prop :=
  ∀ calls files e files', F calls files → e.call.request.isFetch = false → R files files' →
    F (calls ++ [e]) files'

/-- Since a given state, calls were written down, and they have a property together with the
files. -/
def Since (part : Part ε Record) (start : ε) (F : Record → FileSystem → Prop)
    (files : FileSystem) (e : ε) : Prop :=
  ∃ calls, part.get e = part.get start ++ calls ∧ F calls files

section Changes

variable {b : Backend ε} (hb : b.Changes R)

include hb

theorem Passed.refl (files : FileSystem) : Passed R files [] files := ⟨nofun, hb.refl files⟩

theorem persists_passed (before : FileSystem) : Persists R (Passed R before) := by
  intro calls files e files' hpassed hrequest hchange
  exact ⟨List.forall_mem_append.mpr ⟨hpassed.unfetched, List.forall_mem_singleton.mpr hrequest⟩,
    hb.trans hpassed.changes hchange⟩

/-- **What holds on as long as calls pass is an invariant** of every operation but fetching. -/
theorem keeps_since {F : Record → FileSystem → Prop} (hF : Persists R F) (start : ε) :
    (b.recorded part).Keeps (Since part start F) := by
  have hwritten : ∀ (host after : Host ε) (call : Call), call.request.isFetch = false →
      R host.files after.files → On (Since part start F) host →
      On (Since part start F) (writeDown part host call after) := by
    rintro host after call hrequest hchange ⟨calls, hcalls, h⟩
    refine ⟨calls ++ [⟨call, after.files⟩], ?_, hF _ _ ⟨call, after.files⟩ _ h hrequest hchange⟩
    rw [writeDown, part.get_set, hcalls, List.append_assoc]
  constructor
  · exact fun target host => hwritten host _ _ rfl (hb.connect target host)
  · exact fun connection command limits listen hlisten host =>
      hwritten host _ _ rfl (hb.exec connection command limits listen hlisten host)
  · exact fun connection localPath remotePath host =>
      hwritten host _ _ rfl (hb.put connection localPath remotePath host)
  · exact fun connection host => hwritten host _ _ rfl (hb.close connection host)

/-- To write calls down changes no files. -/
theorem changes_recorded (part : Part ε Record) : (b.recorded part).Changes R where
  refl := hb.refl
  trans := hb.trans
  connect := hb.connect
  exec := hb.exec
  put := hb.put
  get := hb.get
  close := hb.close

/-- Fetching a file takes the files no further than the bound. -/
theorem keepsFetching_of_changes (before : FileSystem) :
    b.KeepsFetching fun files _ => R before files :=
  fun connection remotePath localPath host h =>
    hb.trans h (hb.get connection remotePath localPath host)

end Changes

/-! ### The fake host -/

/-- No directory is new. -/
def NoNewDirectory (before after : FileSystem) : Prop :=
  ∀ l, after.node? l = some .directory → before.node? l = some .directory

/-- Writing makes no directory: what is new is a file. -/
theorem noNewDirectory_write {files files' : FileSystem} {path : String} {bytes : Bytes}
    (hwrite : files.write path bytes = .ok files') : NoNewDirectory files files' := by
  rw [FileSystem.write] at hwrite
  cases hopen : files.openToWrite false path with
  | error fault =>
    rw [hopen] at hwrite
    cases hwrite
  | ok found =>
    obtain ⟨node, opened⟩ := found
    rw [hopen] at hwrite
    obtain rfl := Except.ok.inj hwrite
    intro l hl
    cases FileSystem.opened_of_openToWrite hopen with
    | @file _ k _ hfind hnodes hcontents =>
      have hl : opened.node? l = some .directory := hl
      rw [hnodes] at hl
      split at hl
      · cases hl
      · exact hl
    | device hdirectory hfile =>
      cases node with
      | file id => exact absurd rfl (hfile id)
      | _ => exact hl

/-- A command of the fake host leaves the local files alone. -/
theorem FakeHost.files_exec (part : Part ε FakeHost) {listen : String → Host ε → Host ε}
    (hlisten : Quiet listen) (command : String) (limits : Limits) (host : Host ε) :
    (FakeHost.exec part command limits listen host).2.files = host.files := by
  rw [FakeHost.exec]
  split
  · rfl
  · exact (hlisten.foldl _ _).1

/-- **The fake host makes no directory** on the local host. -/
theorem changes_fakeHost (part : Part ε FakeHost) :
    (FakeHost.backend part).Changes NoNewDirectory where
  refl _ _ h := h
  trans hfirst hsecond l h := hfirst l (hsecond l h)
  connect _ _ _ h := h
  exec _ command limits _ hlisten host l h := by
    rw [← FakeHost.files_exec part hlisten command limits host]
    exact h
  put _ _ _ _ _ h := h
  get connection remotePath localPath host l h := by
    rw [FakeHost.backend] at h
    dsimp only at h
    split at h
    · exact h
    · split at h
      · exact h
      · next hwrite => exact noNewDirectory_write hwrite l h
  close _ _ _ h := h

end ArtifactPipeline.Remote
