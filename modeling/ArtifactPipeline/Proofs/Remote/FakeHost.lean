import ArtifactPipeline.Proofs.Files.Growth
import ArtifactPipeline.Proofs.Remote.Record
import ArtifactPipeline.Remote.FakeHost

/-!
# What happens on a fake host

A fake host is in one of the states that tests and stages can bring it into (`Reachable`). In all of
them its directories are those that it has named itself, by numbers (`Numbered`), so that the next
name is a new one, and no directory lies below another.

The rest of the file says what each operation does to the directories and the files. An operation
leaves the host as it was but for some files (`Besides`), except for two commands: the one that makes
a directory (`perform_provision`), and the one that removes it again (`perform_remove`).
-/

namespace ArtifactPipeline.Remote.FakeHost

/-! ### Names of directories -/

/-- The directory with a number. -/
def directoryName (n : Nat) : String := "/tmp/mock." ++ toString n

theorem toList_directoryName (n : Nat) :
    (directoryName n).toList = "/tmp/mock.".toList ++ Nat.toDigits 10 n := by
  simp only [directoryName, String.toList_append, Nat.toString_eq_ofList_toDigits,
    String.toList_ofList]

theorem directoryName_injective {n k : Nat} (h : directoryName n = directoryName k) : n = k := by
  have hlist := congrArg String.toList h
  rw [toList_directoryName, toList_directoryName] at hlist
  have hdigits := List.append_cancel_left hlist
  rw [← Nat.ofDigitChars_toDigits (b := 10) (n := n) (by decide) (by decide), hdigits,
    Nat.ofDigitChars_toDigits (by decide) (by decide)]

/-- What is below a directory is named after a slash. -/
theorem isBelow_append (top rest : String) : isBelow top (top ++ "/" ++ rest) = true := by
  have hbegins : (top ++ "/").toList <+: (top ++ "/" ++ rest).toList := by
    rw [String.toList_append (s := top ++ "/")]
    exact List.prefix_append _ _
  rw [isBelow, Text.startsWith, List.isPrefixOf_iff_prefix.mpr hbegins, Bool.or_true]

/-- **No directory lies below another.** The name of one may begin like that of the other, but goes
on with a digit and not with a slash. -/
theorem isBelow_directoryName {n k : Nat} (hne : k ≠ n) :
    isBelow (directoryName n) (directoryName k) = false := by
  have hother : (directoryName k == directoryName n) = false :=
    beq_eq_false_iff_ne.mpr fun h => hne (directoryName_injective h)
  have hbegins : Text.startsWith (directoryName k) (directoryName n ++ "/") = false := by
    rw [Text.startsWith, Bool.eq_false_iff, Ne, List.isPrefixOf_iff_prefix, String.toList_append,
      toList_directoryName, toList_directoryName, List.append_assoc, List.prefix_append_right_inj]
    -- the slash would be one of the digits of the longer name
    intro hprefix
    have hslash : '/' ∈ Nat.toDigits 10 k := hprefix.subset (by simp)
    have hdigit := Nat.isDigit_of_mem_toDigits (by decide) (by decide) hslash
    simp at hdigit
  rw [isBelow, hother, hbegins, Bool.or_false]

/-- No character of the name of a directory is blank. -/
theorem isBlank_of_mem_directoryName {n : Nat} {c : Char} (hc : c ∈ (directoryName n).toList) :
    Text.isBlank c = false := by
  rw [toList_directoryName] at hc
  rcases List.mem_append.mp hc with hc | hc
  · have hplain : ("/tmp/mock.".toList.all fun c => !Text.isBlank c) = true := by decide
    simpa using List.all_eq_true.mp hplain c hc
  · have hdigit := Nat.isDigit_of_mem_toDigits (by decide) (by decide) hc
    have hblanks : (Text.blanks.all fun c => !c.isDigit) = true := by decide
    refine Bool.eq_false_iff.mpr fun hblank => ?_
    have hother := List.all_eq_true.mp hblanks c (List.contains_iff_mem.mp hblank)
    rw [hdigit] at hother
    cases hother

/-- What a command that names a directory writes is read as that name. -/
theorem trimmed_directoryName (n : Nat) : Text.trimmed (directoryName n) = directoryName n := by
  have hplain : ∀ c ∈ (directoryName n).toList, Text.isBlank c = false :=
    fun c hc => isBlank_of_mem_directoryName hc
  rw [Text.trimmed, Text.trim_eq_self (fun c hc => hplain c (List.mem_of_mem_head? hc))
    fun c hc => hplain c (List.mem_of_mem_getLast? hc), String.ofList_toList]

/-! ### The states of a fake host -/

/-- **The states that a fake host can be in**: it was prepared, in any way, and used, in any way. -/
inductive Reachable : FakeHost → Prop
  | fresh : Reachable {}
  | inject {f : FakeHost} (h : Reachable f) (i : Injection) : Reachable (f.inject i)
  | respond {f : FakeHost} (h : Reachable f) (pattern stdout : String) :
      Reachable (f.respond pattern stdout)
  | store {f : FakeHost} (h : Reachable f) (path : String) (bytes : Bytes) :
      Reachable (f.store path bytes)
  | connect {f : FakeHost} (h : Reachable f) (target : Target) : Reachable (f.connect target).2
  | perform {f : FakeHost} (h : Reachable f) (command : String) :
      Reachable (f.perform command).2.2
  | accept {f : FakeHost} (h : Reachable f) (fs : FileSystem) (localPath remotePath : String) :
      Reachable (f.accept fs localPath remotePath).2
  | deliver {f : FakeHost} (h : Reachable f) (remotePath : String) :
      Reachable (f.deliver remotePath).2
  | close {f : FakeHost} (h : Reachable f) : Reachable f.close.2

variable {f f' f'' : FakeHost} {touched : List String}

/-- **One state is another but for some files.** -/
structure Besides (touched : List String) (f f' : FakeHost) : Prop where
  injections : f'.injections = f.injections
  made : f'.made = f.made
  directories : f'.directories = f.directories
  files : f'.files.filter (fun entry => !touched.contains entry.1) =
    f.files.filter fun entry => !touched.contains entry.1

namespace Besides

theorem refl (f : FakeHost) : Besides touched f f := ⟨rfl, rfl, rfl, rfl⟩

theorem trans (h : Besides touched f f') (h' : Besides touched f' f'') : Besides touched f f'' :=
  ⟨h'.injections.trans h.injections, h'.made.trans h.made, h'.directories.trans h.directories,
    h'.files.trans h.files⟩

/-- The files that do not have a property which the touched ones have. -/
theorem filter_files (h : Besides touched f f') (gone : String → Bool)
    (hgone : ∀ path ∈ touched, gone path = true) :
    (f'.files.filter fun entry => !gone entry.1) = f.files.filter fun entry => !gone entry.1 := by
  have hinside : ∀ path, (!gone path && !touched.contains path) = !gone path := by
    intro path
    cases hmem : touched.contains path with
    | false => simp
    | true => simp [hgone path (List.contains_iff_mem.mp hmem)]
  have hfilter : ∀ files : List (String × Bytes), (files.filter fun entry => !gone entry.1) =
      (files.filter fun entry => !touched.contains entry.1).filter fun entry => !gone entry.1 := by
    intro files
    simp only [List.filter_filter, hinside]
  rw [hfilter, h.files, ← hfilter]

theorem files_of_nil (h : Besides [] f f') : f'.files = f.files := by
  have hall := h.filter_files (fun _ => false) fun _ hpath => nomatch hpath
  simpa using hall

/-- A file that was not touched holds what it held. -/
theorem file? (h : Besides touched f f') {path : String} (hpath : path ∉ touched) :
    f'.file? path = f.file? path := by
  have hlookup := congrArg (List.lookup path) h.files
  rw [FileSystem.lookup_filter_not, FileSystem.lookup_filter_not, if_neg (by simpa using hpath),
    if_neg (by simpa using hpath)] at hlookup
  exact hlookup

/-- More files may have been touched. -/
theorem mono (h : Besides touched f f') {more : List String} (hmore : ∀ path ∈ touched, path ∈ more) :
    Besides more f f' where
  injections := h.injections
  made := h.made
  directories := h.directories
  files := h.filter_files more.contains fun path hpath => List.contains_iff_mem.mpr (hmore path hpath)

end Besides

/-! ### What the operations do -/

theorem besides_connect (f : FakeHost) (target : Target) : Besides [] f (f.connect target).2 := by
  rw [connect]
  split <;> exact ⟨rfl, rfl, rfl, rfl⟩

theorem besides_close (f : FakeHost) : Besides [] f f.close.2 := by
  rw [close]
  split <;> exact ⟨rfl, rfl, rfl, rfl⟩

/-- Looking a file up touches none, and what is handed out is what the file holds. -/
theorem deliver_cases (f : FakeHost) (remotePath : String) :
    Besides [] f (f.deliver remotePath).2 ∧
      ∀ bytes, (f.deliver remotePath).1 = .ok bytes → f.file? remotePath = some bytes := by
  rw [deliver]
  split
  · exact ⟨⟨rfl, rfl, rfl, rfl⟩, fun bytes hbytes => nomatch hbytes⟩
  · split
    · exact ⟨⟨rfl, rfl, rfl, rfl⟩, fun bytes hbytes => nomatch hbytes⟩
    · next hfile => exact ⟨⟨rfl, rfl, rfl, rfl⟩, fun bytes hbytes => Except.ok.inj hbytes ▸ hfile⟩

theorem besides_store (f : FakeHost) (path : String) (bytes : Bytes) :
    Besides [path] f (f.store path bytes) where
  injections := rfl
  made := rfl
  directories := rfl
  files := by
    rw [store, List.filter_cons_of_neg (by simp), List.filter_filter]
    refine List.filter_congr fun entry _ => ?_
    cases hpath : entry.1 == path with
    | false => simp [bne, hpath]
    | true => simp [bne, eq_of_beq hpath]

/-- Taking a file touches that file only. -/
theorem besides_accept (f : FakeHost) (fs : FileSystem) (localPath remotePath : String) :
    Besides [remotePath] f (f.accept fs localPath remotePath).2 := by
  have hrefused (calls : Calls) : Besides [remotePath] f { f with calls } := ⟨rfl, rfl, rfl, rfl⟩
  rw [accept]
  split
  · exact hrefused _
  · -- it is refused for its directory or for the local file, or else it is stored
    dsimp only
    repeat' split
    all_goals first
      | exact hrefused _
      | exact (hrefused _).trans (besides_store _ remotePath _)

/-- A text that begins with no blank begins so when it is trimmed. -/
theorem toList_trimmed {text : String} {c : Char} {cs : List Char} (htext : text.toList = c :: cs)
    (hc : Text.isBlank c = false) : ∃ rest, (Text.trimmed text).toList = c :: rest := by
  have hstart : Text.trimStart (c :: cs) = c :: cs := by
    rw [Text.trimStart, List.dropWhile_cons_of_neg (by simp [hc])]
  have hend : ((cs.reverse ++ [c]).dropWhile Text.isBlank).getLast? = some c := by
    rw [List.dropWhile_append, List.dropWhile_cons_of_neg (by simp [hc])]
    split <;> simp
  rw [Text.trimmed, String.toList_ofList, htext, Text.trim, hstart, Text.trimEnd,
    List.reverse_cons]
  exact List.head?_eq_some_iff.mp (by rw [List.head?_reverse, hend])

/-- A command that begins with neither a blank nor an `m` is not the one that makes a directory. -/
theorem trimmed_ne_provision {command : String} {c : Char} {cs : List Char}
    (hcommand : command.toList = c :: cs) (hc : Text.isBlank c = false) (hother : c ≠ 'm') :
    Text.trimmed command ≠ "mktemp -d" := by
  obtain ⟨rest, hrest⟩ := toList_trimmed hcommand hc
  intro hsame
  rw [hsame] at hrest
  exact hother (List.cons.inj hrest).1.symm

/-- A command that is neither of the two that the host carries out itself. -/
structure Ordinary (command : String) : Prop where
  not_provision : Text.trimmed command ≠ "mktemp -d"
  not_removal : Text.without? "rm -rf " command = none

/-- To go somewhere is an ordinary command. -/
theorem ordinary_cd (tail : String) : Ordinary ("cd " ++ tail) where
  not_provision :=
    have hchars : ("cd " ++ tail).toList = 'c' :: 'd' :: ' ' :: tail.toList := String.toList_append
    trimmed_ne_provision hchars (by decide) (by decide)
  not_removal := by
    rw [Text.without?, String.toList_append]
    rfl

/-- **An ordinary command** touches no file, whatever it is answered. -/
theorem besides_perform (f : FakeHost) {command : String} (h : Ordinary command) :
    Besides [] f (f.perform command).2.2 := by
  rw [perform]
  split
  · exact ⟨rfl, rfl, rfl, rfl⟩
  · rw [if_neg h.not_provision, h.not_removal]
    exact ⟨rfl, rfl, rfl, rfl⟩

/-- **A directory was made**: it has the next number, and all else is as it was. -/
structure Provisions (f f' : FakeHost) : Prop where
  injections : f'.injections = f.injections
  made : f'.made = f.made + 1
  directories : f'.directories = directoryName (f.made + 1) ::
    f.directories.filter (· != directoryName (f.made + 1))
  files : f'.files = f.files

/-- Only the directories and the files before count, and how many directories there have been. -/
theorem Provisions.of_besides {f₀ : FakeHost} (h : Provisions f f') (h₀ : Besides [] f₀ f) :
    Provisions f₀ f' where
  injections := h.injections.trans h₀.injections
  made := by rw [h.made, h₀.made]
  directories := by rw [h.directories, h₀.made, h₀.directories]
  files := h.files.trans h₀.files_of_nil

/-- **Making a directory** fails and changes nothing, or names the directory that it has made. -/
theorem perform_provision (f : FakeHost) :
    (∃ output f', f.perform Session.provisionCommand = ("", output, f') ∧
      output.success = false ∧ Besides [] f f') ∨
    ∃ f', f.perform Session.provisionCommand = (directoryName (f.made + 1) ++ "\n", ended, f') ∧
      Provisions f f' := by
  rw [perform]
  split
  · exact .inl ⟨_, _, rfl, rfl, rfl, rfl, rfl, rfl⟩
  · have hprovision : Text.trimmed Session.provisionCommand = "mktemp -d" := rfl
    rw [if_pos hprovision]
    exact .inr ⟨_, rfl, rfl, rfl, rfl, rfl⟩

/-- **A directory was removed**: what lay at it or below it is gone, and all else is as it was. -/
structure Removes (n : Nat) (f f' : FakeHost) : Prop where
  directories : f'.directories = f.directories.filter fun d => !isBelow (directoryName n) d
  files : f'.files = f.files.filter fun entry => !isBelow (directoryName n) entry.1

theorem Removes.trans_besides {n : Nat} (h : Removes n f f') (h' : Besides [] f' f'') :
    Removes n f f'' :=
  ⟨h'.directories.trans h.directories, h'.files_of_nil.trans h.files⟩

/-- **Removing a directory** makes none, and does remove it unless it was told to fail. -/
theorem perform_remove (f : FakeHost) (n : Nat) :
    ∃ output f', f.perform (Session.removeCommand (directoryName n)) = ("", output, f') ∧
      f'.made = f.made ∧
      (f.failingPattern? (Session.removeCommand (directoryName n)) = none → Removes n f f') := by
  have hother : Text.trimmed (Session.removeCommand (directoryName n)) ≠ "mktemp -d" := by
    have hchars : (Session.removeCommand (directoryName n)).toList =
        'r' :: ("m -rf ".toList ++ (directoryName n).toList) := String.toList_append
    exact trimmed_ne_provision hchars (by decide) (by decide)
  have hremoval : Text.without? "rm -rf " (Session.removeCommand (directoryName n)) =
      some (directoryName n) := without?_append "rm -rf " _
  rw [perform]
  split
  · next hfails =>
    refine ⟨_, _, rfl, rfl, fun hallowed => ?_⟩
    -- the call is on record by now, which is not what the patterns are compared with
    rw [failingPattern?] at hfails hallowed
    exact absurd (hallowed.symm.trans hfails) (by simp)
  · simp only [if_neg hother, hremoval, trimmed_directoryName]
    exact ⟨_, _, rfl, rfl, fun _ => ⟨rfl, rfl⟩⟩

/-- No command fails that contains none of the patterns. -/
theorem failingPattern?_eq_none {f : FakeHost} {command : String}
    (h : ∀ pattern, .exec pattern ∈ f.injections → Text.contains command pattern = false) :
    f.failingPattern? command = none := by
  rw [failingPattern?, List.findSome?_eq_none_iff]
  intro i hi
  cases i with
  | exec pattern => simp [h pattern hi]
  | _ => rfl

/-! ### The names of a host's directories -/

/-- The directories of a host are among those that it has made. -/
def Numbered (f : FakeHost) : Prop := ∀ d ∈ f.directories, ∃ n ≤ f.made, d = directoryName n

theorem Besides.numbered (h : Besides touched f f') (hf : Numbered f) : Numbered f' := by
  rw [Numbered, h.directories, h.made]
  exact hf

/-- A command makes a directory with a number of its own, or no directory. -/
theorem Numbered.perform (h : Numbered f) (command : String) :
    Numbered (f.perform command).2.2 := by
  rw [FakeHost.perform]
  split
  · exact h
  · split
    · intro d hd
      rcases List.mem_cons.mp hd with rfl | hd
      · exact ⟨f.made + 1, Nat.le_refl _, rfl⟩
      · obtain ⟨n, hn, rfl⟩ := h d (List.mem_filter.mp hd).1
        exact ⟨n, Nat.le_succ_of_le hn, rfl⟩
    · split
      · exact fun d hd => h d (List.mem_filter.mp hd).1
      · exact h

/-- **Whatever was done with a host, it has named its directories itself.** -/
theorem numbered_of_reachable (h : Reachable f) : Numbered f := by
  induction h with
  | fresh => exact fun d hd => nomatch hd
  | inject _ _ ih => exact ih
  | respond _ _ _ ih => exact ih
  | store _ path bytes ih => exact (besides_store _ path bytes).numbered ih
  | connect _ target ih => exact (besides_connect _ target).numbered ih
  | perform _ command ih => exact ih.perform command
  | accept _ fs localPath remotePath ih =>
    exact (besides_accept _ fs localPath remotePath).numbered ih
  | deliver _ remotePath ih => exact (deliver_cases _ remotePath).1.numbered ih
  | close _ ih => exact (besides_close _).numbered ih

/-! ### No residue -/

/-- The directories that were made between two states. -/
def madeSince (f f' : FakeHost) : List String :=
  (List.range' (f.made + 1) (f'.made - f.made)).map directoryName

theorem madeSince_of_made (h : f'.made = f.made) : madeSince f f' = [] := by
  rw [madeSince, h, Nat.sub_self]
  rfl

theorem madeSince_of_made_succ (h : f'.made = f.made + 1) :
    madeSince f f' = [directoryName (f.made + 1)] := by
  rw [madeSince, h, Nat.add_sub_cancel_left]
  rfl

/-- **Nothing is left of the directories that were made since.** The others are there, and so are
the files, but for those that lay at one of the directories or below it. -/
structure NoResidue (f f' : FakeHost) : Prop where
  directories : f'.directories = f.directories
  files : f'.files = f.files.filter fun entry => (madeSince f f').all fun w => !isBelow w entry.1

/-- **Whoever used the host has tidied up.** One directory was made at most, and nothing is left of
it, unless the host was told to fail the command that removes it. -/
structure Tidied (f f' : FakeHost) : Prop where
  one : (madeSince f f').length ≤ 1
  residue : (∀ w ∈ madeSince f f', ∀ pattern, .exec pattern ∈ f.injections →
    Text.contains (Session.removeCommand w) pattern = false) → NoResidue f f'

/-- Where no directory was made and no file touched, nothing is left. -/
theorem Besides.noResidue (h : Besides [] f f') : NoResidue f f' where
  directories := h.directories
  files := by
    rw [madeSince_of_made h.made, h.files_of_nil]
    exact (List.filter_eq_self.mpr fun _ _ => rfl).symm

theorem Besides.tidied (h : Besides [] f f') : Tidied f f' where
  one := by
    rw [madeSince_of_made h.made]
    exact Nat.zero_le 1
  residue _ := h.noResidue

/-- **A directory is made, files below it are touched, and it is removed again**: nothing is left,
because its name is new and no other directory lies below it. -/
theorem noResidue_of_removes {f₁ f₂ : FakeHost} (hf : Numbered f) (hprovisions : Provisions f f₁)
    (hbesides : Besides touched f₁ f₂)
    (hbelow : ∀ path ∈ touched, isBelow (directoryName (f.made + 1)) path = true)
    (hremoves : Removes (f.made + 1) f₂ f') (hmade : f'.made = f₂.made) : NoResidue f f' where
  directories := by
    have hkept : ∀ d ∈ f.directories, (d != directoryName (f.made + 1)) = true ∧
        (!isBelow (directoryName (f.made + 1)) d) = true := by
      intro d hd
      obtain ⟨n, hn, rfl⟩ := hf d hd
      have hother : n ≠ f.made + 1 := Nat.ne_of_lt (Nat.lt_succ_of_le hn)
      rw [isBelow_directoryName hother, bne_iff_ne]
      exact ⟨fun hsame => hother (directoryName_injective hsame), rfl⟩
    have hself : isBelow (directoryName (f.made + 1)) (directoryName (f.made + 1)) = true := by
      rw [isBelow, beq_self_eq_true, Bool.true_or]
    rw [hremoves.directories, hbesides.directories, hprovisions.directories,
      List.filter_cons_of_neg (by simp [hself]), List.filter_eq_self.mpr fun d hd => (hkept d hd).1,
      List.filter_eq_self.mpr fun d hd => (hkept d hd).2]
  files := by
    rw [madeSince_of_made_succ (hmade.trans (hbesides.made.trans hprovisions.made)),
      hremoves.files, hbesides.filter_files _ hbelow, hprovisions.files]
    simp

end ArtifactPipeline.Remote.FakeHost
