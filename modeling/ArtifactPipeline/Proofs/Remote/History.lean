import ArtifactPipeline.Proofs.Remote.FakeSession
import Mathlib.Data.List.Nodup

/-!
# What the files of a fake host owe to its history

A *history* lists what happened at a fake host: the calls of its clients, with their answers, and
the files that were placed there from outside. For a path, one thing that happened counts in one of
three ways (`Effect`): it has stored octets there (`Stores`), it has removed what was there
(`Clears`), or it has done neither. What a path holds after a history follows from what it held
before, one effect after the other (`Course`):

* `Course.eq_some_of_last` : the octets that were stored last, unless they were removed since;
* `Course.eq_none_of_unstored` and `Course.eq_none_of_cleared` : nothing, where nothing was stored,
  or not since the last removal.

The second half finds the effect of each operation: `performed` lists what a command can come to,
whatever its text, and `accepted` what an upload can come to. A host *accounts* for a history
(`Accounts`) when all its files follow from it, and the names that it has given out are those of the
directories that it has made.
-/

namespace ArtifactPipeline.Remote.FakeHost

/-! ### Histories -/

/-- Something that happened at a fake host. -/
inductive Happening where
  /-- A client made a call. -/
  | call (entry : Entry)
  /-- A file was placed on the host from outside. -/
  | placed (path : String) (bytes : Bytes)

/-- **A path is at another one or below it**: it goes on with a slash there, if it goes on. -/
def Under (top path : String) : Prop := path = top ∨ ∃ rest, path = top ++ "/" ++ rest

/-- **Octets were stored at a path**: they were placed there, or a client has uploaded a local file
that held them. -/
inductive Stores (path : String) : Happening → Bytes → Prop where
  | placed (bytes : Bytes) : Stores path (.placed path bytes) bytes
  | uploaded {connection : Nat} {localPath : String} {files : FileSystem} {bytes : Bytes}
      (hread : files.read localPath = .ok bytes) :
      Stores path (.call ⟨.put connection localPath path (.ok ()), files⟩) bytes

/-- **What was at a path was removed**, by a command that ended well. -/
inductive Clears (path : String) : Happening → Prop where
  | removed {connection : Nat} {command target : String} {limits : Limits} {lines : List String}
      {output : Output} {files : FileSystem} (hcommand : command = "rm -rf " ++ target)
      (hended : output.success = true) (hunder : Under (Text.trimmed target) path) :
      Clears path (.call ⟨.exec connection command limits ⟨lines, .ok output⟩, files⟩)

/-- The names that a command for a new directory has written. -/
def Happening.names : Happening → List String
  | .call ⟨.exec _ command _ delivery, _⟩ =>
    if Text.trimmed command = "mktemp -d" then delivery.lines else []
  | _ => []

/-- The names of directories that were handed out in the course of a history. -/
def handedOut (log : List Happening) : List String := log.flatMap Happening.names

theorem handedOut_append (log more : List Happening) :
    handedOut (log ++ more) = handedOut log ++ handedOut more := List.flatMap_append

/-- **The octets that were stored at a path last**, and what has happened since. -/
def LastStored (path : String) (log : List Happening) (bytes : Bytes) (after : List Happening) :
    Prop :=
  ∃ before e, log = before ++ e :: after ∧ Stores path e bytes ∧
    ∀ later ∈ after, ∀ other, ¬Stores path later other

/-! ### What a path holds -/

variable {path : String} {e : Happening} {log more : List Happening}
  {held middle final : Option Bytes} {bytes : Bytes}

/-- **What one happening makes of a path.** -/
inductive Effect (path : String) (e : Happening) : Option Bytes → Option Bytes → Prop where
  | stores {held : Option Bytes} {bytes : Bytes} (h : Stores path e bytes) :
    Effect path e held (some bytes)
  | clears {held : Option Bytes} (h : Clears path e) : Effect path e held none
  | keeps {held : Option Bytes} (hstores : ∀ bytes, ¬Stores path e bytes)
    (hclears : ¬Clears path e) : Effect path e held held

/-- **What a history makes of a path**, one effect after the other. -/
inductive Course (path : String) : List Happening → Option Bytes → Option Bytes → Prop where
  | nil (held : Option Bytes) : Course path [] held held
  | cons {e : Happening} {log : List Happening} {held middle final : Option Bytes}
    (first : Effect path e held middle) (rest : Course path log middle final) :
    Course path (e :: log) held final

/-- A happening stores once, and only octets that it has read. -/
theorem Stores.unique {other : Bytes} (h : Stores path e bytes) (h' : Stores path e other) :
    bytes = other := by
  cases h with
  | placed => cases h' with | placed => rfl
  | uploaded hread =>
    cases h' with
    | uploaded hread' => exact Except.ok.inj (hread.symm.trans hread')

/-- What stores removes nothing. -/
theorem Stores.not_clears (h : Stores path e bytes) : ¬Clears path e := by
  cases h <;> exact fun hclears => nomatch hclears

theorem Effect.eq_some_of_stores (h : Effect path e held final) (hstores : Stores path e bytes) :
    final = some bytes := by
  cases h with
  | stores h => rw [h.unique hstores]
  | clears h => exact absurd h hstores.not_clears
  | keeps h => exact absurd hstores (h bytes)

theorem Effect.eq_none_of_clears (h : Effect path e held final) (hclears : Clears path e) :
    final = none := by
  cases h with
  | stores h => exact absurd hclears h.not_clears
  | clears => rfl
  | keeps _ h => exact absurd hclears h

namespace Course

theorem append_iff : Course path (log ++ more) held final ↔
    ∃ middle, Course path log held middle ∧ Course path more middle final := by
  constructor
  · intro h
    induction log generalizing held with
    | nil => exact ⟨held, .nil held, h⟩
    | cons e log ih =>
      cases h with
      | cons first rest =>
        obtain ⟨middle, hlog, hmore⟩ := ih rest
        exact ⟨middle, .cons first hlog, hmore⟩
  · rintro ⟨middle, hlog, hmore⟩
    induction hlog with
    | nil => exact hmore
    | cons first _ ih => exact .cons first (ih hmore)

/-- What is neither stored over nor removed stays. -/
theorem eq_of_untouched (h : Course path log held final)
    (hstores : ∀ e ∈ log, ∀ bytes, ¬Stores path e bytes) (hclears : ∀ e ∈ log, ¬Clears path e) :
    final = held := by
  induction h with
  | nil => rfl
  | @cons e log held middle final first rest ih =>
    rw [List.forall_mem_cons] at hstores hclears
    rw [ih hstores.2 hclears.2]
    cases first with
    | stores hstored => exact absurd hstored (hstores.1 _)
    | clears hcleared => exact absurd hcleared hclears.1
    | keeps => rfl

/-- Where nothing is, nothing comes without being stored. -/
theorem eq_none_of_unstored (h : Course path log held final) (hheld : held = none)
    (hstores : ∀ e ∈ log, ∀ bytes, ¬Stores path e bytes) : final = none := by
  induction h with
  | nil => exact hheld
  | @cons e log held middle final first rest ih =>
    rw [List.forall_mem_cons] at hstores
    refine ih ?_ hstores.2
    cases first with
    | stores hstored => exact absurd hstored (hstores.1 _)
    | clears => rfl
    | keeps => exact hheld

/-- **A path holds what was stored last**, if it was not removed since. -/
theorem eq_some_of_last {after : List Happening} (h : Course path log held final)
    (hlast : LastStored path log bytes after) (hkept : ∀ later ∈ after, ¬Clears path later) :
    final = some bytes := by
  obtain ⟨before, e, rfl, hstored, hafter⟩ := hlast
  obtain ⟨_, _, hrest⟩ := append_iff.mp h
  cases hrest with
  | cons first rest =>
    rw [rest.eq_of_untouched hafter hkept, first.eq_some_of_stores hstored]

/-- **A path holds nothing** after a removal, as long as nothing is stored again. -/
theorem eq_none_of_cleared {after : List Happening} (h : Course path log held final)
    (hlast : LastStored path log bytes after) (hcleared : ∃ later ∈ after, Clears path later) :
    final = none := by
  obtain ⟨before, e, rfl, -, hafter⟩ := hlast
  obtain ⟨removal, hremoval, hclears⟩ := hcleared
  obtain ⟨since, rest, rfl⟩ := List.append_of_mem hremoval
  rw [← List.cons_append, ← List.append_assoc] at h
  obtain ⟨_, _, hrest⟩ := append_iff.mp h
  cases hrest with
  | cons first rest =>
    -- whatever was there before the removal, nothing comes back after it
    exact rest.eq_none_of_unstored (first.eq_none_of_clears hclears) fun later hlater =>
      hafter later (List.mem_append_right _ (List.mem_cons_of_mem _ hlater))

end Course

/-! ### What the operations come to -/

variable {f f' f'' : FakeHost}

theorem isBelow_iff {top path : String} : isBelow top path = true ↔ Under top path := by
  rw [isBelow, Bool.or_eq_true, beq_iff_eq, Text.startsWith, List.isPrefixOf_iff_prefix]
  refine or_congr_right ⟨?_, ?_⟩
  · rintro ⟨rest, hrest⟩
    refine ⟨String.ofList rest, ?_⟩
    rw [← String.toList_inj, ← hrest, String.toList_append (s := top ++ "/"),
      String.toList_ofList]
  · rintro ⟨rest, rfl⟩
    rw [String.toList_append (s := top ++ "/")]
    exact List.prefix_append _ _

theorem restAfter_eq_some_iff {α : Type} [BEq α] [LawfulBEq α] {beginning whole rest : List α} :
    Text.restAfter beginning whole = some rest ↔ whole = beginning ++ rest := by
  refine ⟨fun h => ?_, fun h => h ▸ restAfter_append beginning rest⟩
  induction beginning generalizing whole with
  | nil => exact Option.some.inj h
  | cons a as ih =>
    cases whole with
    | nil => cases h
    | cons b bs =>
      rw [Text.restAfter] at h
      split at h
      · next hsame => rw [ih h, ← eq_of_beq hsame, List.cons_append]
      · cases h

theorem without?_eq_some_iff {beginning whole rest : String} :
    Text.without? beginning whole = some rest ↔ whole = beginning ++ rest := by
  refine ⟨fun h => ?_, fun h => h ▸ without?_append beginning rest⟩
  obtain ⟨cs, hcs, rfl⟩ := Option.map_eq_some_iff.mp h
  rw [← String.toList_inj, restAfter_eq_some_iff.mp hcs, String.toList_append,
    String.toList_ofList]

/-- A command stores nothing. -/
theorem not_stores_exec {connection : Nat} {command : String} {limits : Limits}
    {delivery : Delivery} {files : FileSystem} (bytes : Bytes) :
    ¬Stores path (.call ⟨.exec connection command limits delivery, files⟩) bytes :=
  fun h => nomatch h

/-- A command removes nothing at a path that its target is not above. -/
theorem not_clears_exec {connection : Nat} {command : String} {limits : Limits}
    {delivery : Delivery} {files : FileSystem}
    (h : ∀ target, Text.without? "rm -rf " command = some target →
      isBelow (Text.trimmed target) path = false) :
    ¬Clears path (.call ⟨.exec connection command limits delivery, files⟩) := by
  intro hclears
  cases hclears with
  | removed hcommand _ hunder =>
    exact absurd (isBelow_iff.mpr hunder)
      (Bool.eq_false_iff.mp (h _ (without?_eq_some_iff.mpr hcommand)))

/-- A command that removes is not the one that makes a directory. -/
theorem trimmed_removal_ne (target : String) : Text.trimmed ("rm -rf " ++ target) ≠ "mktemp -d" :=
  have hchars : ("rm -rf " ++ target).toList = 'r' :: ("m -rf ".toList ++ target.toList) :=
    String.toList_append
  trimmed_ne_provision hchars (by decide) (by decide)

/-- A command fails that contains one of the patterns. -/
theorem failingPattern?_ne_none {command pattern : String} (hpattern : .exec pattern ∈ f.injections)
    (hcontains : Text.contains command pattern = true) : f.failingPattern? command ≠ none := by
  rw [failingPattern?, Ne, List.findSome?_eq_none_iff]
  intro hnone
  simpa [hcontains] using hnone _ hpattern

/-- **What a command comes to**, whatever its text: it fails as it was told to, it makes a
directory, it removes, or it is answered and nothing happens. -/
inductive Performed (f : FakeHost) (command : String) : String → Output → FakeHost → Prop where
  | refused {output : Output} {f' : FakeHost} (htold : f.failingPattern? command ≠ none)
    (hended : output.success = false) (hbesides : Besides [] f f') :
    Performed f command "" output f'
  | provisioned {f' : FakeHost} (hallowed : f.failingPattern? command = none)
    (hcommand : Text.trimmed command = "mktemp -d") (h : Provisions f f') :
    Performed f command (directoryName (f.made + 1) ++ "\n") ended f'
  | removed {target : String} {f' : FakeHost} (hallowed : f.failingPattern? command = none)
    (hcommand : command = "rm -rf " ++ target) (hmade : f'.made = f.made)
    (hfiles : f'.files = f.files.filter fun entry => !isBelow (Text.trimmed target) entry.1) :
    Performed f command "" ended f'
  | answered {stdout : String} {f' : FakeHost} (hordinary : Ordinary command)
    (hbesides : Besides [] f f') : Performed f command stdout ended f'

theorem performed (f : FakeHost) (command : String) :
    Performed f command (f.perform command).1 (f.perform command).2.1
      (f.perform command).2.2 := by
  rw [perform]
  split
  · next hpattern =>
    exact .refused (ne_of_eq_of_ne hpattern (Option.some_ne_none _)) rfl ⟨rfl, rfl, rfl, rfl⟩
  · next hallowed =>
    split
    · next hcommand => exact .provisioned hallowed hcommand ⟨rfl, rfl, rfl, rfl⟩
    · next hother =>
      split
      · next hremoval => exact .removed hallowed (without?_eq_some_iff.mp hremoval) rfl rfl
      · next hremoval => exact .answered ⟨hother, hremoval⟩ ⟨rfl, rfl, rfl, rfl⟩

/-- A file that was stored is there. -/
theorem file?_store (f : FakeHost) (path : String) (bytes : Bytes) :
    (f.store path bytes).file? path = some bytes := List.lookup_cons_self

/-- **What an upload comes to**: it fails and changes nothing, or the file holds what the local file
holds. -/
inductive Accepted (f : FakeHost) (fs : FileSystem) (localPath remotePath : String) :
    Except TransportFailure Unit → FakeHost → Prop where
  | refused {cause : TransportFailure} {f' : FakeHost} (hbesides : Besides [] f f') :
    Accepted f fs localPath remotePath (.error cause) f'
  | stored {bytes : Bytes} {f' : FakeHost} (hread : fs.read localPath = .ok bytes)
    (hfile : f'.file? remotePath = some bytes) (hbesides : Besides [remotePath] f f') :
    Accepted f fs localPath remotePath (.ok ()) f'

theorem accepted (f : FakeHost) (fs : FileSystem) (localPath remotePath : String) :
    Accepted f fs localPath remotePath (f.accept fs localPath remotePath).1
      (f.accept fs localPath remotePath).2 := by
  have hrefused (calls : Calls) : Besides [] f { f with calls } := ⟨rfl, rfl, rfl, rfl⟩
  have hcalled (calls : Calls) : Besides [remotePath] f { f with calls } := ⟨rfl, rfl, rfl, rfl⟩
  rw [accept]
  split
  · exact .refused (hrefused _)
  · -- the directory must be there, and the local file must be readable
    dsimp only
    repeat' split
    all_goals first
      | exact .refused (hrefused _)
      | exact .stored ‹_› (file?_store _ remotePath _)
          ((hcalled _).trans (besides_store _ remotePath _))

/-! ### Accounting for a history -/

theorem madeSince_append (h : f.made ≤ f'.made) (h' : f'.made ≤ f''.made) :
    madeSince f f' ++ madeSince f' f'' = madeSince f f'' := by
  have hnext : f'.made + 1 = f.made + 1 + 1 * (f'.made - f.made) := by omega
  have hcount : f''.made - f.made = (f'.made - f.made) + (f''.made - f'.made) := by omega
  rw [madeSince, madeSince, madeSince, ← List.map_append, hnext, List.range'_append, hcount]

/-- Directories that were made have different names. -/
theorem nodup_madeSince (f f' : FakeHost) : (madeSince f f').Nodup :=
  List.Nodup.map (fun _ _ => directoryName_injective) List.nodup_range'

/-- **Going from one state to another, a host accounts for what happened**: its files follow from
it, and the names that were handed out are those of the directories made. -/
structure Accounts (log : List Happening) (f f' : FakeHost) : Prop where
  made : f.made ≤ f'.made
  names : handedOut log = madeSince f f'
  course : ∀ path, Course path log (f.file? path) (f'.file? path)

namespace Accounts

theorem trans (h : Accounts log f f') (h' : Accounts more f' f'') :
    Accounts (log ++ more) f f'' where
  made := Nat.le_trans h.made h'.made
  names := by rw [handedOut_append, h.names, h'.names, madeSince_append h.made h'.made]
  course path := Course.append_iff.mpr ⟨f'.file? path, h.course path, h'.course path⟩

/-- Where files and directories are the same, nothing needs to have happened. -/
theorem of_same (hmade : f'.made = f.made) (hfiles : f'.files = f.files) : Accounts [] f f' where
  made := Nat.le_of_eq hmade.symm
  names := (madeSince_of_made hmade).symm
  course path := by
    rw [file?, file?, hfiles]
    exact .nil _

/-- One happening that touches no file. -/
theorem of_idle (h : Besides [] f f') (hnames : e.names = [])
    (hstores : ∀ path bytes, ¬Stores path e bytes) (hclears : ∀ path, ¬Clears path e) :
    Accounts [e] f f' where
  made := Nat.le_of_eq h.made.symm
  names := by rw [madeSince_of_made h.made, handedOut, List.flatMap_singleton, hnames]
  course path := by
    rw [h.file? List.not_mem_nil]
    exact .cons (.keeps (hstores path) (hclears path)) (.nil _)

/-- One happening that stores one file. -/
theorem of_stores (h : Besides [path] f f') (hfile : f'.file? path = some bytes)
    (hnames : e.names = []) (hstores : Stores path e bytes)
    (honly : ∀ other bytes, Stores other e bytes → other = path) : Accounts [e] f f' where
  made := Nat.le_of_eq h.made.symm
  names := by rw [madeSince_of_made h.made, handedOut, List.flatMap_singleton, hnames]
  course other := by
    refine .cons ?_ (.nil _)
    by_cases hother : other = path
    · subst hother
      rw [hfile]
      exact .stores hstores
    · rw [h.file? (by simpa using hother)]
      refine .keeps (fun bytes hstored => hother (honly other bytes hstored)) fun hclears => ?_
      -- what stores at one path removes nothing at another
      cases hstores <;> cases hclears

theorem store (f : FakeHost) (path : String) (bytes : Bytes) :
    Accounts [.placed path bytes] f (f.store path bytes) :=
  of_stores (besides_store f path bytes) (file?_store f path bytes) rfl (.placed bytes)
    fun other bytes h => by cases h; rfl

theorem accept (f : FakeHost) (files : FileSystem) (connection : Nat)
    (localPath remotePath : String) :
    Accounts [.call ⟨.put connection localPath remotePath (f.accept files localPath remotePath).1,
      files⟩] f (f.accept files localPath remotePath).2 := by
  have hdone := accepted f files localPath remotePath
  generalize f.accept files localPath remotePath = ended at hdone ⊢
  obtain ⟨answer, f'⟩ := ended
  cases hdone with
  | refused hbesides =>
    exact of_idle hbesides rfl (fun path bytes h => nomatch h) fun path h => nomatch h
  | stored hread hfile hbesides =>
    exact of_stores hbesides hfile rfl (.uploaded hread) fun other bytes h => by cases h; rfl

/-- A command that is carried out. -/
theorem perform (f : FakeHost) (files : FileSystem) (connection : Nat) (command : String)
    (limits : Limits) :
    Accounts [.call ⟨.exec connection command limits
      ⟨Text.lines (f.perform command).1, .ok (f.perform command).2.1⟩, files⟩] f
      (f.perform command).2.2 := by
  have hdone := performed f command
  generalize f.perform command = ended at hdone ⊢
  obtain ⟨stdout, output, f'⟩ := ended
  dsimp only at hdone ⊢
  cases hdone with
  | refused htold hended hbesides =>
    refine of_idle hbesides (by rw [Happening.names]; exact ite_self [])
      (fun _ => not_stores_exec) fun path h => ?_
    cases h with
    | removed _ hsuccess => exact absurd hsuccess (by simp [hended])
  | answered hordinary hbesides =>
    refine of_idle hbesides (by rw [Happening.names, if_neg hordinary.not_provision])
      (fun _ => not_stores_exec) fun path => not_clears_exec fun target htarget => ?_
    rw [hordinary.not_removal] at htarget
    cases htarget
  | provisioned _ hcommand h =>
    -- the one line that it writes is the name of the directory that it makes
    refine ⟨h.made ▸ Nat.le_succ _, ?_, fun path => ?_⟩
    · rw [madeSince_of_made_succ h.made, handedOut, List.flatMap_singleton, Happening.names,
        if_pos hcommand]
      exact Text.lines_of_line fun c hc => isBlank_of_mem_directoryName hc
    · rw [file?, file?, h.files]
      refine .cons (.keeps not_stores_exec (not_clears_exec fun target htarget => ?_)) (.nil _)
      obtain rfl := without?_eq_some_iff.mp htarget
      exact absurd hcommand (trimmed_removal_ne target)
  | @removed target _ _ hcommand hmade hfiles =>
    refine ⟨Nat.le_of_eq hmade.symm, ?_, fun path => ?_⟩
    · rw [madeSince_of_made hmade, handedOut, List.flatMap_singleton, Happening.names,
        if_neg (hcommand ▸ trimmed_removal_ne target)]
    · refine .cons ?_ (.nil _)
      rw [file?, file?, hfiles, FileSystem.lookup_filter_not]
      split
      · next hbelow => exact .clears (.removed hcommand rfl (isBelow_iff.mp hbelow))
      · next hbelow =>
        refine .keeps not_stores_exec (not_clears_exec fun other hother => ?_)
        -- a command has one target
        rw [without?_eq_some_iff.mpr hcommand, Option.some.injEq] at hother
        exact Bool.eq_false_iff.mpr (hother ▸ hbelow)

end Accounts

end ArtifactPipeline.Remote.FakeHost
