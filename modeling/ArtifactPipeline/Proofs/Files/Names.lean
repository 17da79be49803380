import ArtifactPipeline.Files.System
import ArtifactPipeline.Proofs.Except
import Mathlib.Data.List.Basic

/-!
# Locations and their path names

A location has a path name, and the path name leads back to the location when all on the way are
directories (`Reaches`) and every part of the name is a plain one (`IsPart`): `find_pathOf`. The
names of temporary files are plain (`isPart_temporaryName`), so a file at a fresh location is found
under the name that its maker hands out (`find_of_temporary`).
-/

namespace ArtifactPipeline

/-- A list is split as the library splits it. -/
theorem Text.splitOn_eq {α : Type} [BEq α] (separator : α) (as : List α) :
    splitOn separator as = as.splitOn separator := by
  induction as with
  | nil => rfl
  | cons a as ih =>
    rw [List.splitOn, List.splitOnP_cons_eq_if_modifyHead, splitOn, ih, List.splitOn]
    split
    · rfl
    · cases hparts : List.splitOnP (· == separator) as with
      | nil => exact absurd hparts (List.splitOnP_ne_nil _ as)
      | cons part parts => rfl

/-- A joined text has no other character than those of its parts and of the separator. -/
theorem Text.not_mem_intercalate {separator : String} {parts : List String} {c : Char}
    (hseparator : c ∉ separator.toList) (hparts : ∀ part ∈ parts, c ∉ part.toList) :
    c ∉ (String.intercalate separator parts).toList := by
  induction parts with
  | nil => simp
  | cons part rest ih =>
    obtain ⟨hpart, hrest⟩ := List.forall_mem_cons.1 hparts
    by_cases hnil : rest = []
    · rwa [hnil, String.intercalate_singleton]
    · rw [String.intercalate_cons_of_ne_nil hnil, String.toList_append, String.toList_append]
      simpa [hseparator, hpart] using ih hrest

/-- A name that can stand between two slashes and names something there. -/
structure IsPart (part : String) : Prop where
  ne_empty : part ≠ ""
  ne_here : part ≠ "."
  ne_above : part ≠ ".."
  no_slash : '/' ∉ part.toList
  no_zero : '\x00' ∉ part.toList
  short : part.utf8ByteSize ≤ FileSystem.partLimit

/-- The characters of the path name of a location. -/
theorem FileSystem.toList_pathOf (l : Location) :
    (pathOf l).toList = '/' :: (String.intercalate "/" l).toList := by
  rw [pathOf, String.toList_append]
  rfl

/-- The parts of the path name of a location: nothing before the first slash, then the location. -/
theorem Path.parts_pathOf {l : Location} (hne : l ≠ []) (h : ∀ part ∈ l, '/' ∉ part.toList) :
    parts (FileSystem.pathOf l) = "" :: l := by
  have hparts : ∀ cs ∈ [] :: l.map String.toList, '/' ∉ cs := by simpa using h
  have hsplit := List.splitOn_intercalate '/' hparts (List.cons_ne_nil _ _)
  rw [List.intercalate_cons_of_ne_nil (by simpa using hne)] at hsplit
  rw [parts, FileSystem.toList_pathOf, String.toList_intercalate, Text.splitOn_eq]
  exact (congrArg (List.map String.ofList) hsplit).trans (by simp)

namespace FileSystem

variable {fs : FileSystem} {here l : Location} {n : Node}

/-- All on the way from a location to one below it are directories. What is at its end may be
anything. -/
def Reaches (fs : FileSystem) (here l : Location) : Prop :=
  ∀ before after, l = before ++ after → after ≠ [] → fs.node? (here ++ before) = some .directory

/-- The way along plain parts leads through the directories. -/
theorem walk_of_reaches {follow : Location → String → Except IoFault Location}
    (hparts : ∀ part ∈ l, IsPart part) (hreaches : fs.Reaches here l) :
    fs.walk follow here l = .ok (here ++ l) := by
  induction l generalizing here with
  | nil => rw [walk, List.append_nil]
  | cons part rest ih =>
    obtain ⟨hpart, hrest⟩ := List.forall_mem_cons.1 hparts
    have hhere : fs.directoryAt follow here = .ok here := by
      have hdir := hreaches [] (part :: rest) rfl (List.cons_ne_nil part rest)
      rw [List.append_nil] at hdir
      rw [directoryAt, hdir]
    have htail : fs.walk follow (here ++ [part]) rest = .ok (here ++ [part] ++ rest) := by
      apply ih hrest
      rintro before after rfl hne
      rw [List.append_assoc, List.singleton_append]
      exact hreaches (part :: before) after rfl hne
    -- a plain part is neither stayed at, nor gone back from, nor refused
    simp only [walk, hhere, hpart.ne_empty, hpart.ne_here, hpart.ne_above, or_self, if_false,
      Nat.not_lt.2 hpart.short, bind, Except.bind]
    rw [htail, List.append_assoc, List.singleton_append]

/-- The path name of a location leads to it, when all on the way are directories. -/
theorem resolve_pathOf (hne : l ≠ []) (hparts : ∀ part ∈ l, IsPart part)
    (hreaches : fs.Reaches [] l) (hsize : (pathOf l).utf8ByteSize ≤ pathLimit) :
    fs.resolve (pathOf l) = .ok l := by
  have hempty : (pathOf l).isEmpty = false := by
    simp [pathOf]
  have hzero : (pathOf l).toList.contains '\x00' = false := by
    rw [toList_pathOf]
    have hslash : '\x00' ∉ "/".toList := by decide
    simpa using Text.not_mem_intercalate hslash fun part hpart => (hparts part hpart).no_zero
  have habsolute : Path.isAbsolute (pathOf l) = true := by
    rw [Path.isAbsolute, toList_pathOf]
    rfl
  have hroot : fs.directoryAt (fs.follow linkLimit) [] = .ok [] := rfl
  rw [resolve, hempty, hzero, if_neg Bool.false_ne_true, if_neg Bool.false_ne_true,
    if_neg (Nat.not_lt.2 hsize), startOf, if_pos habsolute,
    Path.parts_pathOf hne fun part hpart => (hparts part hpart).no_slash]
  -- the empty part before the first slash stays at the root
  simp only [walk, hroot, true_or, if_true, bind, Except.bind]
  exact walk_of_reaches hparts hreaches

/-- What a path name finds is what is at the location to which it leads. -/
theorem find_eq_ok_iff {path : String} :
    fs.find path = .ok (l, n) ↔ fs.locate path = .ok l ∧ fs.node? l = some n := by
  simp only [find, bind_eq_ok_iff, withNode]
  constructor
  · rintro ⟨k, hlocate, hnode⟩
    split at hnode
    · cases hnode
    · next hsome =>
      obtain ⟨rfl, rfl⟩ := Prod.mk.inj (Except.ok.inj hnode)
      exact ⟨hlocate, hsome⟩
  · rintro ⟨hlocate, hnode⟩
    exact ⟨l, hlocate, by rw [hnode]⟩

/-- The path name of a location finds what is there, when that is no link and all on the way are
directories. -/
theorem find_pathOf (hne : l ≠ []) (hparts : ∀ part ∈ l, IsPart part)
    (hreaches : fs.Reaches [] l) (hsize : (pathOf l).utf8ByteSize ≤ pathLimit)
    (hnode : fs.node? l = some n) (hlink : ∀ target, n ≠ .link target) :
    fs.find (pathOf l) = .ok (l, n) := by
  have hresolve := resolve_pathOf hne hparts hreaches hsize
  refine find_eq_ok_iff.2 ⟨bind_eq_ok_iff.2 ⟨l, hresolve, ?_⟩, hnode⟩
  rw [hnode]
  cases n with
  | link target => exact absurd rfl (hlink target)
  | _ => rfl

/-! ### Temporary names -/

/-- The directory of temporary files has a plain name. -/
theorem isPart_tmp : IsPart "tmp" := by
  constructor <;> decide

/-- What a temporary name may begin with: no slash, no zero, and room for the digits. -/
structure IsBeginning (beginning : String) : Prop where
  no_slash : '/' ∉ beginning.toList
  no_zero : '\x00' ∉ beginning.toList
  short : beginning.utf8ByteSize + 11 ≤ partLimit

/-- The digits of a temporary name: at least six, and at most eleven while there are names. -/
theorem temporaryName_eq (beginning : String) (k : Nat) :
    ∃ digits, temporaryName beginning k = beginning ++ String.ofList digits ∧
      (∀ c ∈ digits, c.isDigit = true) ∧ 6 ≤ digits.length ∧
      (k < temporaryNames → digits.length ≤ 11) := by
  refine ⟨_, rfl, ?_, ?_, ?_⟩
  · intro c hc
    rcases List.mem_append.1 hc with hc | hc
    · rw [List.eq_of_mem_replicate hc]
      rfl
    · exact Nat.isDigit_of_mem_toDigits (by decide) (by decide) hc
  · rw [List.length_append, List.length_replicate]
    omega
  · intro hk
    have hlength : (Nat.toDigits 10 k).length ≤ 11 :=
      (Nat.length_toDigits_le_iff (by decide) (by decide)).2 (Nat.lt_trans hk (by decide))
    rw [List.length_append, List.length_replicate]
    omega

/-- Digits take one octet each. -/
theorem utf8ByteSize_digits {digits : List Char} (h : ∀ c ∈ digits, c.isDigit = true) :
    (String.ofList digits).utf8ByteSize = digits.length := by
  induction digits with
  | nil => rfl
  | cons c digits ih =>
    obtain ⟨hc, hdigits⟩ := List.forall_mem_cons.1 h
    have hone : c.utf8Size = 1 := by
      obtain ⟨_, hnine⟩ : '0'.val ≤ c.val ∧ c.val ≤ '9'.val := by simpa [Char.isDigit] using hc
      exact Char.utf8Size_eq_one_iff.2 (UInt32.le_trans hnine (by decide))
    rw [String.ofList_cons, String.utf8ByteSize_append, String.utf8ByteSize_singleton, hone,
      ih hdigits, List.length_cons, Nat.add_comm]

/-- Temporary names with a plain beginning are plain. -/
theorem isPart_temporaryName {beginning : String} (h : IsBeginning beginning) {k : Nat}
    (hk : k < temporaryNames) : IsPart (temporaryName beginning k) := by
  obtain ⟨digits, hname, hdigits, hleast, hmost⟩ := temporaryName_eq beginning k
  have hlong : 6 ≤ (temporaryName beginning k).toList.length := by
    rw [hname, String.toList_append, String.toList_ofList, List.length_append]
    omega
  have hnot {c : Char} (hc : c.isDigit = false) (hbeginning : c ∉ beginning.toList) :
      c ∉ (temporaryName beginning k).toList := by
    rw [hname, String.toList_append, String.toList_ofList, List.mem_append, not_or]
    refine ⟨hbeginning, fun hmem => ?_⟩
    rw [hdigits c hmem] at hc
    cases hc
  have hne {name : String} (hname : name.toList.length < 6) : temporaryName beginning k ≠ name := by
    rintro rfl
    exact absurd hlong (Nat.not_le.2 hname)
  refine ⟨hne (by decide), hne (by decide), hne (by decide), hnot rfl h.no_slash,
    hnot rfl h.no_zero, ?_⟩
  rw [hname, String.utf8ByteSize_append, utf8ByteSize_digits hdigits]
  exact Nat.le_trans (Nat.add_le_add_left (hmost hk) _) h.short

/-- A fresh location is a temporary name with a number in the directory of temporary files. -/
theorem of_freshLocation {beginning : String} (h : fs.freshLocation beginning = .ok l) :
    fs.node? temporaryDirectory = some .directory ∧ fs.node? l = none ∧
      ∃ k < temporaryNames, l = temporaryDirectory ++ [temporaryName beginning k] := by
  have hfree := (fs.node?_of_freshLocation h).1
  rw [freshLocation] at h
  split at h
  · cases h
  · next hdir =>
    simp only at h
    split at h
    · next found =>
      obtain rfl := Except.ok.inj h
      obtain ⟨k, hk, rfl⟩ := List.mem_map.1 (List.mem_of_find?_eq_some found)
      exact ⟨not_not.1 hdir, hfree, k, (Nat.lt_min.1 (List.mem_range.1 hk)).2, rfl⟩
    · cases h

/-- The way to a temporary name leads through the directory of temporary files. -/
theorem reaches_temporary (hdir : fs.node? temporaryDirectory = some .directory) (name : String) :
    fs.Reaches [] (temporaryDirectory ++ [name]) := by
  intro before after hsplit hne
  rcases before with - | ⟨first, - | ⟨second, rest⟩⟩
  · rfl
  · obtain rfl : "tmp" = first := (List.cons.inj hsplit).1
    exact hdir
  · have hlength := congrArg List.length hsplit
    have hpos := List.length_pos_iff.2 hne
    simp only [temporaryDirectory, List.length_append, List.length_cons, List.length_nil] at hlength
    omega

/-- A temporary file is found under the path name of its location. -/
theorem find_of_temporary {beginning : String} (hbeginning : IsBeginning beginning) {k id : Nat}
    (hk : k < temporaryNames) (hl : l = temporaryDirectory ++ [temporaryName beginning k])
    (hdir : fs.node? temporaryDirectory = some .directory) (hnode : fs.node? l = some (.file id)) :
    fs.find (pathOf l) = .ok (l, .file id) := by
  subst hl
  have hpart := isPart_temporaryName hbeginning hk
  have hparts : ∀ part ∈ temporaryDirectory ++ [temporaryName beginning k], IsPart part := by
    intro part hmem
    rcases List.mem_cons.1 hmem with rfl | hmem
    · exact isPart_tmp
    · rwa [List.mem_singleton.1 hmem]
  have hsize : (pathOf (temporaryDirectory ++ [temporaryName beginning k])).utf8ByteSize ≤
      pathLimit := by
    have hroom : "/".utf8ByteSize + ("tmp".utf8ByteSize + "/".utf8ByteSize + partLimit) ≤
        pathLimit := by decide
    have hshort := hpart.short
    simp only [pathOf, temporaryDirectory, List.singleton_append, String.intercalate_cons_cons,
      String.intercalate_singleton, String.utf8ByteSize_append]
    omega
  exact find_pathOf (List.cons_ne_nil _ _) hparts (reaches_temporary hdir _) hsize hnode
    fun target => Node.noConfusion

end FileSystem

end ArtifactPipeline
