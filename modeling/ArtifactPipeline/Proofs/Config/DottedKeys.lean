import ArtifactPipeline.Config.Override
import ArtifactPipeline.Proofs.Files.Names

/-!
# Dotted keys

The key of an override is written as its parts with dots between them. This file says that nothing is
lost on the way back: an override is read exactly when the text before its first equals sign is a
dotted key (`IsDotted`), and then the parts are the ones that were written.

* `keyParts?_eq_some_iff` : a key is taken apart into its parts;
* `parse_eq_ok_iff` : what an override is read as;
* `dotted_key_recovered` : which overrides are read, and what their values and keys have to do with it.

A text is cut at its first equals sign (`IsCut`), so a value may hold further ones.
-/

namespace ArtifactPipeline

/-- The parts between separators hold no separator. -/
theorem Text.not_mem_of_mem_splitOn {α : Type} [BEq α] [LawfulBEq α] {separator : α}
    {as part : List α} (h : part ∈ splitOn separator as) : separator ∉ part := by
  induction as generalizing part with
  | nil =>
    rw [List.mem_singleton.mp h]
    exact List.not_mem_nil
  | cons a as ih =>
    rw [splitOn] at h
    split at h
    · rcases List.mem_cons.mp h with rfl | h
      · exact List.not_mem_nil
      · exact ih h
    · next hne =>
      split at h
      · next hparts => exact absurd hparts (splitOn_ne_nil separator as)
      · next first parts hparts =>
        rw [hparts] at ih
        rcases List.mem_cons.mp h with rfl | h
        · rw [List.mem_cons, not_or]
          exact ⟨fun hsame => hne (beq_iff_eq.mpr hsame.symm), ih List.mem_cons_self⟩
        · exact ih (List.mem_cons_of_mem first h)

namespace Config

namespace Override

variable {text key value : String} {parts : List String} {o : Override}

/-! ### The parts of a key -/

/-- **A dotted key**: two parts or more, none of them empty, with dots between them and nowhere
else. -/
structure IsDotted (parts : List String) (key : String) : Prop where
  two_le : 2 ≤ parts.length
  ne_empty : ∀ part ∈ parts, part ≠ ""
  no_dot : ∀ part ∈ parts, '.' ∉ part.toList
  joined : String.intercalate "." parts = key

theorem IsDotted.ne_nil (h : IsDotted parts key) : parts ≠ [] :=
  List.ne_nil_of_length_pos (Nat.zero_lt_of_lt h.two_le)

/-- What stands between the dots of a key, joined by dots, is the key. -/
theorem intercalate_splitOn (cs : List Char) :
    String.intercalate "." ((Text.splitOn '.' cs).map String.ofList) = String.ofList cs := by
  have hchars : String.toList ∘ String.ofList = id := funext fun cs => String.toList_ofList
  have hjoined : ['.'].intercalate (Text.splitOn '.' cs) = cs := by
    rw [Text.splitOn_eq]
    exact List.intercalate_splitOn '.'
  rw [← String.toList_inj, String.toList_intercalate, List.map_map, hchars, List.map_id]
  exact hjoined.trans String.toList_ofList.symm

/-- Parts without dots stand between the dots of their dotted key. -/
theorem splitOn_intercalate (hne : parts ≠ []) (hdot : ∀ part ∈ parts, '.' ∉ part.toList) :
    (Text.splitOn '.' (String.intercalate "." parts).toList).map String.ofList = parts := by
  have hsplit : Text.splitOn '.' (['.'].intercalate (parts.map String.toList)) =
      parts.map String.toList := by
    rw [Text.splitOn_eq]
    exact List.splitOn_intercalate '.' (List.forall_mem_map.mpr hdot)
      (List.map_eq_nil_iff.not.mpr hne)
  rw [String.toList_intercalate]
  exact (congrArg (List.map String.ofList) hsplit).trans (by simp)

/-- **A key is taken apart** into the parts that it is the dotted key of. -/
theorem keyParts?_eq_some_iff :
    keyParts? key = some parts ↔ IsDotted parts (Text.trimmed key) := by
  unfold keyParts?
  extract_lets found
  constructor
  · intro h
    split at h
    · next hfound =>
      obtain rfl := Option.some.inj h
      refine ⟨hfound.1, fun part hpart hempty => hfound.2 (hempty ▸ hpart), ?_,
        intercalate_splitOn _⟩
      intro part hpart
      obtain ⟨cs, hcs, rfl⟩ := List.mem_map.mp hpart
      rw [String.toList_ofList]
      exact Text.not_mem_of_mem_splitOn hcs
    · cases h
  · intro h
    have hfound : found = parts := by
      have hkey : Text.trim key.toList = (String.intercalate "." parts).toList := by
        rw [h.joined, Text.trimmed, String.toList_ofList]
      simp only [found, hkey]
      exact splitOn_intercalate h.ne_nil h.no_dot
    rw [hfound]
    exact if_pos ⟨h.two_le, fun hempty => h.ne_empty "" hempty rfl⟩

/-- A key has one list of parts at most. -/
theorem IsDotted.eq {others : List String} (h : IsDotted parts (Text.trimmed key))
    (hothers : IsDotted others (Text.trimmed key)) : parts = others :=
  Option.some.inj
    ((keyParts?_eq_some_iff.mpr h).symm.trans (keyParts?_eq_some_iff.mpr hothers))

/-! ### Places -/

/-- Keys under `global` name a place there, and all others one in the table of stages. -/
theorem placeOf_eq (parts : List String) :
    placeOf parts = if parts.head? = some "global" then parts else "stages" :: parts := rfl

/-- **No two keys name one place.** -/
theorem placeOf_injective : Function.Injective placeOf := by
  -- a place under `stages` is none under `global`
  have happart : ∀ {parts others : List String}, parts.head? = some globalTable →
      parts ≠ stagesTable :: others := by
    rintro parts others hhead rfl
    exact absurd (Option.some.inj hhead) (by decide)
  intro parts others h
  unfold placeOf at h
  split at h
  · next hparts =>
    split at h
    · exact h
    · exact absurd h (happart hparts)
  · split at h
    · next hothers => exact absurd h.symm (happart hothers)
    · exact (List.cons.inj h).2

/-! ### Overrides -/

/-- A text is cut at its first equals sign. -/
structure IsCut (text key value : String) : Prop where
  joined : text = key ++ "=" ++ value
  no_equals : '=' ∉ key.toList

theorem isCut_append (h : '=' ∉ key.toList) (value : String) :
    IsCut (key ++ "=" ++ value) key value := ⟨rfl, h⟩

theorem splitOnce_eq_some_iff :
    Text.splitOnce '=' text = some (key, value) ↔ IsCut text key value := by
  unfold Text.splitOnce
  rw [Option.map_eq_some_iff]
  constructor
  · rintro ⟨⟨before, after⟩, hcut, hfound⟩
    obtain ⟨rfl, rfl⟩ := Prod.mk.inj hfound
    obtain ⟨htext, hequals⟩ := Text.eq_of_cutOnce hcut
    refine ⟨?_, by rwa [String.toList_ofList]⟩
    rw [← String.toList_inj, htext]
    simp
  · rintro ⟨rfl, hequals⟩
    refine ⟨(key.toList, value.toList), ?_, by simp⟩
    have htext : (key ++ "=" ++ value).toList = key.toList ++ '=' :: value.toList := by simp
    rw [htext, Text.cutOnce_append value.toList hequals]

/-- **What an override is read as.** -/
theorem parse_eq_ok_iff :
    parse text = .ok o ↔ ∃ key value parts, IsCut text key value ∧
      IsDotted parts (Text.trimmed key) ∧ o = ⟨placeOf parts, readValue (Text.trimmed value)⟩ := by
  simp only [← splitOnce_eq_some_iff, ← keyParts?_eq_some_iff]
  unfold parse
  constructor
  · intro h
    split at h
    · cases h
    · next key value hcut =>
      split at h
      · cases h
      · next parts hparts => exact ⟨key, value, parts, hcut, hparts, (Except.ok.inj h).symm⟩
  · rintro ⟨key, value, parts, hcut, hparts, rfl⟩
    rw [hcut]
    dsimp only
    rw [hparts]

theorem parse_of_isDotted (hcut : IsCut text key value)
    (hparts : IsDotted parts (Text.trimmed key)) :
    parse text = .ok ⟨placeOf parts, readValue (Text.trimmed value)⟩ :=
  parse_eq_ok_iff.mpr ⟨key, value, parts, hcut, hparts, rfl⟩

/-- An override that is not read is reported as it was given. -/
theorem parse_eq_ok_or (text : String) :
    (∃ o, parse text = .ok o) ∨ parse text = .error (.invalidOverride text) := by
  unfold parse
  split
  · exact .inr rfl
  · split
    · exact .inr rfl
    · exact .inl ⟨_, rfl⟩

/-! ### Writing keys -/

/-- The first part does not start with a blank, and the last does not end with one. -/
structure BareEnds (parts : List String) : Prop where
  first : ∀ part ∈ parts.head?, ∀ c ∈ part.toList.head?, Text.isBlank c = false
  last : ∀ part ∈ parts.getLast?, ∀ c ∈ part.toList.getLast?, Text.isBlank c = false

/-- A dotted key starts as its first part does. -/
theorem head?_intercalate (hempty : ∀ part ∈ parts, part ≠ "") :
    (String.intercalate "." parts).toList.head? = parts.head?.bind (·.toList.head?) := by
  cases parts with
  | nil => rfl
  | cons first parts =>
    have hfirst : first.toList ≠ [] :=
      String.toList_eq_nil_iff.not.mpr (hempty first List.mem_cons_self)
    cases parts with
    | nil => rw [String.intercalate_singleton]; rfl
    | cons second parts =>
      rw [String.intercalate_cons_cons, String.toList_append, String.toList_append,
        List.append_assoc, List.head?_append_of_ne_nil _ hfirst]
      rfl

/-- A dotted key ends as its last part does. -/
theorem getLast?_intercalate (hempty : ∀ part ∈ parts, part ≠ "") :
    (String.intercalate "." parts).toList.getLast? = parts.getLast?.bind (·.toList.getLast?) := by
  rcases List.eq_nil_or_concat parts with rfl | ⟨before, last, rfl⟩
  · rfl
  rw [List.concat_eq_append] at *
  have hlast : last.toList ≠ [] :=
    String.toList_eq_nil_iff.not.mpr (hempty last (List.mem_append_right _ List.mem_cons_self))
  rw [List.getLast?_concat, Option.bind_some]
  by_cases hbefore : before = []
  · rw [hbefore, List.nil_append, String.intercalate_singleton]
  · rw [String.intercalate_append_of_ne_nil hbefore (List.cons_ne_nil last []),
      String.intercalate_singleton, String.toList_append, List.getLast?_append_of_ne_nil _ hlast]

/-- A dotted key without blanks at its ends is not changed by trimming. -/
theorem trimmed_intercalate (hempty : ∀ part ∈ parts, part ≠ "") (hends : BareEnds parts) :
    Text.trimmed (String.intercalate "." parts) = String.intercalate "." parts := by
  have htrim : Text.trim (String.intercalate "." parts).toList =
      (String.intercalate "." parts).toList := by
    refine Text.trim_eq_self ?_ ?_
    · rw [head?_intercalate hempty]
      intro c hc
      obtain ⟨part, hpart, hc⟩ := Option.bind_eq_some_iff.mp hc
      exact hends.first part hpart c hc
    · rw [getLast?_intercalate hempty]
      intro c hc
      obtain ⟨part, hpart, hc⟩ := Option.bind_eq_some_iff.mp hc
      exact hends.last part hpart c hc
  rw [Text.trimmed, htrim, String.ofList_toList]

/-- **The parts of a key are recovered from an override.**

* An override is read exactly when it has an equals sign and the text before the first one, without
  the blanks at its ends, is a dotted key. Its place is then named by the parts, under `stages` unless
  the first of them is `global`; any other text is reported as it was given.
* The place does not depend on the text after the first equals sign, and no other parts lead to it.
* Whatever value is given, the parts of a dotted key are the ones that were written. -/
theorem dotted_key_recovered :
    (∀ text, (∃ o, parse text = .ok o) ↔
      ∃ key value parts, IsCut text key value ∧ IsDotted parts (Text.trimmed key)) ∧
    (∀ text key value parts, IsCut text key value → IsDotted parts (Text.trimmed key) →
      ∃ o, parse text = .ok o ∧
        o.path = if parts.head? = some "global" then parts else "stages" :: parts) ∧
    (∀ text, (¬∃ o, parse text = .ok o) → parse text = .error (.invalidOverride text)) ∧
    (∀ key value value' o, '=' ∉ key.toList → parse (key ++ "=" ++ value) = .ok o →
      ∃ o', parse (key ++ "=" ++ value') = .ok o' ∧ o'.path = o.path) ∧
    Function.Injective placeOf ∧
    ∀ parts value, 2 ≤ parts.length →
      (∀ part ∈ parts, part ≠ "" ∧ '.' ∉ part.toList ∧ '=' ∉ part.toList) → BareEnds parts →
      ∃ o, parse (String.intercalate "." parts ++ "=" ++ value) = .ok o ∧
        o.path = placeOf parts := by
  refine ⟨fun text => ?_, fun text key value parts hcut hparts => ?_, fun text hnone => ?_, ?_,
    placeOf_injective, ?_⟩
  · constructor
    · rintro ⟨o, ho⟩
      obtain ⟨key, value, parts, hcut, hparts, -⟩ := parse_eq_ok_iff.mp ho
      exact ⟨key, value, parts, hcut, hparts⟩
    · rintro ⟨key, value, parts, hcut, hparts⟩
      exact ⟨_, parse_of_isDotted hcut hparts⟩
  · exact ⟨_, parse_of_isDotted hcut hparts, placeOf_eq parts⟩
  · exact (parse_eq_ok_or text).resolve_left hnone
  · intro key value value' o hequals ho
    obtain ⟨key', after, parts, hcut, hparts, rfl⟩ := parse_eq_ok_iff.mp ho
    -- there is one cut at the first equals sign only
    have hkey := (splitOnce_eq_some_iff.mpr (isCut_append hequals value)).symm.trans
      (splitOnce_eq_some_iff.mpr hcut)
    obtain ⟨rfl, -⟩ := Prod.mk.inj (Option.some.inj hkey)
    exact ⟨_, parse_of_isDotted (isCut_append hequals value') hparts, rfl⟩
  · intro parts value htwo hparts hends
    have hempty : ∀ part ∈ parts, part ≠ "" := fun part hpart => (hparts part hpart).1
    have hequals : '=' ∉ (String.intercalate "." parts).toList :=
      Text.not_mem_intercalate (by decide) fun part hpart => (hparts part hpart).2.2
    have hdotted : IsDotted parts (Text.trimmed (String.intercalate "." parts)) :=
      ⟨htwo, hempty, fun part hpart => (hparts part hpart).2.1,
        (trimmed_intercalate hempty hends).symm⟩
    exact ⟨_, parse_of_isDotted (isCut_append hequals value) hdotted, rfl⟩

/-- Equals signs and dots in the value leave the parts alone. -/
theorem dotted_key_recovered_of_later_signs :
    ∃ o, parse "wdb.set.up=a=b.c" = .ok o ∧ o.path = ["stages", "wdb", "set", "up"] := by
  have hends : BareEnds ["wdb", "set", "up"] := by
    constructor
    all_goals
      rintro part ⟨⟩ c ⟨⟩
      decide
  exact dotted_key_recovered.2.2.2.2.2 ["wdb", "set", "up"] "a=b.c" (by decide) (by decide) hends

end Override

end Config

end ArtifactPipeline
