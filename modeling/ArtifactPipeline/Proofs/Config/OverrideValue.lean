import ArtifactPipeline.Proofs.Config.DottedKeys
import ArtifactPipeline.Proofs.Toml.Document

/-!
# The value of an override

The value of an override is read by putting `v = ` before its text and reading the whole as a document.
This file says what comes out for every text (`value_decided`).

* Where the text spells a value (`Spells`), perhaps with a comment after it, that is the value.
* A text may also begin with a value and go on in lines that make a document of their own
  (`GoesOn`), and then the value is what it begins with: those lines are read as further entries and
  headings, and are lost. So `1` is read from `1` with a line `y = 2` after it (`further_line_dropped`).
  The lines must not name `v` again, which is what the text was read under.
* Every other text is kept as it is.

A text of one line is thus always taken whole. That rests on `Toml.parse_entry_eq_some_iff`, which
takes the document apart at the end of its first entry.
-/

namespace ArtifactPipeline

/-- Trimming leaves no blank at the start. -/
theorem Text.isBlank_of_mem_head?_trim {cs : List Char} {c : Char} (hc : c ∈ (trim cs).head?) :
    isBlank c = false := by
  have hprefix : trim cs <+: trimStart cs := by
    rw [← List.reverse_suffix, trim, trimEnd, List.reverse_reverse]
    exact List.dropWhile_suffix isBlank
  obtain ⟨rest, hrest⟩ := hprefix
  have hhead : c ∈ (trimStart cs).head? := by
    rw [← hrest, List.head?_append_of_ne_nil _ (by rintro h; simp [h] at hc)]
    exact hc
  exact head_dropWhile hhead

namespace Toml

variable {tail ending cs : List Char} {v : Spelled}

/-- What follows a value on its line holds no line feed. -/
theorem IsTail.not_mem_feed (h : IsTail tail) : '\n' ∉ tail := by
  intro hfeed
  cases h with
  | blanks hall => exact absurd (hall _ hfeed) (by decide)
  | @comment blanks body hall hbody =>
    rcases List.mem_append.mp hfeed with hfeed | hfeed
    · exact absurd (hall _ hfeed) (by decide)
    · rcases List.mem_cons.mp hfeed with hfeed | hfeed
      · exact absurd hfeed (by decide)
      · exact absurd (hbody _ hfeed) (by decide)

/-- A line ends at a line feed or with the text. -/
theorem AtLineEnd.mem_feed (h : AtLineEnd ending) (hne : ending ≠ []) : '\n' ∈ ending := by
  obtain ⟨more, hmore⟩ := h
  cases hmore with
  | last => exact absurd rfl hne
  | feed => exact List.mem_cons_self
  | returnFeed => exact List.mem_cons_of_mem _ List.mem_cons_self

theorem BeginsWith.suffix (h : BeginsWith cs v ending) : ending <:+ cs := by
  obtain ⟨tail, hvalue, -, -⟩ := h
  exact (List.suffix_append tail ending).trans ((takes_value depthLimit).suffix hvalue)

end Toml

namespace Config

namespace Override

variable {text key value : String} {o : Override} {v : Toml.Spelled}

/-- **A text spells a value**: nothing follows the value but blanks and perhaps a comment. -/
def Spells (text : String) (v : Toml.Spelled) : Prop :=
  ∃ tail, Toml.value Toml.depthLimit text.toList = some (v, tail) ∧ Toml.IsTail tail

/-- A text begins with a value and goes on in further lines, which make a document of their own
without the name that the text is read under. -/
def GoesOn (text : String) (v : Toml.Spelled) : Prop :=
  ∃ ending others, Toml.BeginsWith text.toList v ending ∧ ending ≠ [] ∧
    Toml.parse (String.ofList ending) = some others ∧ others.get? "v" = none

theorem beginsWith_nil_iff : Toml.BeginsWith text.toList v [] ↔ Spells text v := by
  constructor
  · rintro ⟨tail, hvalue, htail, -⟩
    exact ⟨tail, by rwa [List.append_nil] at hvalue, htail⟩
  · rintro ⟨tail, hvalue, htail⟩
    exact ⟨tail, by rwa [List.append_nil], htail, [], .last⟩

/-- **What a document with the text of a value is**: the text spells the value of its name, or begins
with it and goes on. -/
theorem exists_parse_iff (h : text.toList.dropWhile Toml.isInlineBlank = text.toList) (w : Value) :
    (∃ document, Toml.parse ("v = " ++ text) = some document ∧ document.get? "v" = some w) ↔
      ∃ v, (Spells text v ∨ GoesOn text v) ∧ w = v.value := by
  simp only [Toml.parse_entry_eq_some_iff h]
  constructor
  · rintro ⟨document, ⟨v, ending, others, hbegins, hothers, hnone, rfl⟩, hw⟩
    obtain ⟨p, entries, -, -, rfl⟩ := Toml.parse_eq_some_iff.mp hothers
    refine ⟨v, ?_, by simpa [Value.insert, eq_comm] using hw⟩
    by_cases hending : ending = []
    · subst hending
      exact .inl (beginsWith_nil_iff.mp hbegins)
    · exact .inr ⟨ending, _, hbegins, hending, hothers, hnone⟩
  · rintro ⟨v, hspells | ⟨ending, others, hbegins, -, hothers, hnone⟩, rfl⟩
    · refine ⟨_, ⟨v, [], .object [], beginsWith_nil_iff.mpr hspells, rfl, rfl, rfl⟩, ?_⟩
      simp [Value.insert]
    · obtain ⟨p, entries, -, -, rfl⟩ := Toml.parse_eq_some_iff.mp hothers
      refine ⟨_, ⟨v, ending, _, hbegins, hothers, hnone, rfl⟩, ?_⟩
      simp [Value.insert]

theorem readValue_of_begins (h : text.toList.dropWhile Toml.isInlineBlank = text.toList)
    (hv : Spells text v ∨ GoesOn text v) : readValue text = v.value := by
  obtain ⟨document, hparse, hget⟩ := (exists_parse_iff h v.value).mpr ⟨v, hv, rfl⟩
  rw [readValue, hparse]
  exact congrArg (·.getD (.string text)) hget

theorem readValue_of_not_begins (h : text.toList.dropWhile Toml.isInlineBlank = text.toList)
    (hv : ∀ v, ¬Spells text v ∧ ¬GoesOn text v) : readValue text = .string text := by
  unfold readValue
  split
  · next document hparse =>
    cases hget : document.get? "v" with
    | none => rfl
    | some w =>
      obtain ⟨v, hbegins, -⟩ := (exists_parse_iff h w).mp ⟨document, hparse, hget⟩
      exact absurd hbegins (not_or.mpr (hv v))
  · rfl

theorem dropWhile_trimmed (text : String) :
    (Text.trimmed text).toList.dropWhile Toml.isInlineBlank = (Text.trimmed text).toList := by
  have hblank : ∀ c, Text.isBlank c = false → Toml.isInlineBlank c = false := by
    intro c hc
    rw [Toml.isInlineBlank, Bool.or_eq_false_iff, beq_eq_false_iff_ne, beq_eq_false_iff_ne]
    constructor
    · rintro rfl
      exact absurd hc (by decide)
    · rintro rfl
      exact absurd hc (by decide)
  rw [Text.trimmed, String.toList_ofList]
  cases htrim : Text.trim text.toList with
  | nil => rfl
  | cons c cs =>
    have hhead : c ∈ (Text.trim text.toList).head? := by rw [htrim]; rfl
    have hc := hblank c (Text.isBlank_of_mem_head?_trim hhead)
    rw [List.dropWhile_cons_of_neg (by simp [hc])]

/-- **What the value of an override is**, by its text without the blanks at its ends.

* A text that spells a value, and one that begins with a value and goes on, is that value.
* Every other text is the value itself; of the texts of one line these are all that spell none. -/
theorem value_decided (hcut : IsCut text key value) (hread : parse text = .ok o) :
    (∀ v, Spells (Text.trimmed value) v → o.value = v.value) ∧
    (∀ v, GoesOn (Text.trimmed value) v → o.value = v.value) ∧
    ((∀ v, ¬Spells (Text.trimmed value) v ∧ ¬GoesOn (Text.trimmed value) v) →
      o.value = .string (Text.trimmed value)) ∧
    ('\n' ∉ (Text.trimmed value).toList → (∀ v, ¬Spells (Text.trimmed value) v) →
      o.value = .string (Text.trimmed value)) := by
  obtain ⟨key', value', parts, hcut', hparts, ho⟩ := parse_eq_ok_iff.mp hread
  -- there is one cut at the first equals sign only
  have hsame := (splitOnce_eq_some_iff.mpr hcut).symm.trans (splitOnce_eq_some_iff.mpr hcut')
  obtain ⟨-, rfl⟩ := Prod.mk.inj (Option.some.inj hsame)
  have hstart := dropWhile_trimmed value
  have hvalue : o.value = readValue (Text.trimmed value) := congrArg Override.value ho
  rw [hvalue]
  refine ⟨fun v hv => readValue_of_begins hstart (.inl hv),
    fun v hv => readValue_of_begins hstart (.inr hv), readValue_of_not_begins hstart, ?_⟩
  intro hline hnone
  refine readValue_of_not_begins hstart fun v => ⟨hnone v, ?_⟩
  rintro ⟨ending, others, hbegins, hne, -⟩
  obtain ⟨tail, -, -, hending⟩ := id hbegins
  exact hline (hbegins.suffix.subset (hending.mem_feed hne))

/-- A comment may follow a value. -/
theorem value_decided_of_comment :
    IsCut "wdb.count=1 # one" "wdb.count" "1 # one" ∧
    ∃ o, parse "wdb.count=1 # one" = .ok o ∧ o.value.asNat? = some 1 := by
  have hcut : IsCut "wdb.count=1 # one" "wdb.count" "1 # one" := ⟨by decide, by decide⟩
  have hparts : IsDotted ["wdb", "count"] (Text.trimmed "wdb.count") :=
    ⟨by decide, by decide, by decide, by decide⟩
  have hfound : (Toml.value Toml.depthLimit (Text.trimmed "1 # one").toList).map
      (fun found => (found.1.value.asNat?, found.2)) =
        some (some 1, [' '] ++ '#' :: [' ', 'o', 'n', 'e']) := by decide +kernel
  obtain ⟨⟨v, tail⟩, hvalue, hfound⟩ := Option.map_eq_some_iff.mp hfound
  obtain ⟨hone, rfl⟩ := Prod.mk.inj hfound
  have hblanks : [' '].all Toml.isInlineBlank = true := by decide
  have hbody : [' ', 'o', 'n', 'e'].all Toml.isCommentChar = true := by decide
  have hspells : Spells (Text.trimmed "1 # one") v :=
    ⟨_, hvalue, .comment (List.all_eq_true.mp hblanks) (List.all_eq_true.mp hbody)⟩
  have hread := parse_of_isDotted hcut hparts
  refine ⟨hcut, _, hread, ?_⟩
  rw [(value_decided hcut hread).1 v hspells, hone]

/-- **A further line is dropped**: the text is neither a value as a whole nor kept. -/
theorem further_line_dropped :
    IsCut "wdb.note=1\ny = 2" "wdb.note" "1\ny = 2" ∧ (∀ v, ¬Spells (Text.trimmed "1\ny = 2") v) ∧
    ∃ o, parse "wdb.note=1\ny = 2" = .ok o ∧ o.value.asNat? = some 1 := by
  have hcut : IsCut "wdb.note=1\ny = 2" "wdb.note" "1\ny = 2" := ⟨by decide, by decide⟩
  have hparts : IsDotted ["wdb", "note"] (Text.trimmed "wdb.note") :=
    ⟨by decide, by decide, by decide, by decide⟩
  have hfound : (Toml.value Toml.depthLimit (Text.trimmed "1\ny = 2").toList).map
      (fun found => (found.1.value.asNat?, found.2)) =
        some (some 1, ['\n', 'y', ' ', '=', ' ', '2']) := by decide +kernel
  have hmore : (Toml.parse (String.ofList ['\n', 'y', ' ', '=', ' ', '2'])).map
      (fun others => (others.get? "v").isNone) = some true := by decide +kernel
  obtain ⟨⟨v, ending⟩, hvalue, hfound⟩ := Option.map_eq_some_iff.mp hfound
  obtain ⟨hone, rfl⟩ := Prod.mk.inj hfound
  obtain ⟨others, hothers, hnone⟩ := Option.map_eq_some_iff.mp hmore
  refine ⟨hcut, ?_, ?_⟩
  · rintro w ⟨tail, hspelled, htail⟩
    obtain ⟨-, rfl⟩ := Prod.mk.inj (Option.some.inj (hvalue.symm.trans hspelled))
    exact htail.not_mem_feed (by decide)
  · have hgoes : GoesOn (Text.trimmed "1\ny = 2") v :=
      ⟨_, others, ⟨[], hvalue, .blanks (by simp), _, .feed _⟩, by simp, hothers,
        Option.isNone_iff_eq_none.mp hnone⟩
    refine ⟨_, parse_of_isDotted hcut hparts, ?_⟩
    rw [readValue_of_begins (dropWhile_trimmed "1\ny = 2") (.inr hgoes), hone]

end Override

end Config

end ArtifactPipeline
