import ArtifactPipeline.Proofs.Toml.Drafts

/-!
# A document that begins with an entry

A document may begin with the line `v = …`. What follows the equals sign is then the text of a value
up to the end of the line, and the lines after it are a document of their own: this file puts the two
together (`parse_entry_eq_some_iff`).

A line ends at a line break or with the text (`LineEnd`), and before that blanks and a comment may
follow the value (`IsTail`); a value itself may run over several lines. So a text `BeginsWith` a value
when its first line ends after the value, and what comes from there on is the rest. The rest counts
as the empty line that ends the first one, and the lines after it, which is the document that it
spells by itself: a mark of the octet order at its start would stand after the line break.

The lines are read with as much fuel as the text has characters. Each takes one at least, so there is
always some left (`length_lt_of_line`).
-/

namespace ArtifactPipeline.Toml

open Text (Reader)
open Text.Reader
open ArtifactPipeline.Config (Value Entries)

variable {cs tail ending rest more : List Char} {p after : Progress} {content : Line} {v : Spelled}

/-! ### The end of a line -/

/-- What may follow a value on its line: blanks, and then perhaps a comment. -/
inductive IsTail : List Char → Prop
  | blanks {blanks : List Char} (hblanks : ∀ c ∈ blanks, isInlineBlank c = true) : IsTail blanks
  | comment {blanks body : List Char} (hblanks : ∀ c ∈ blanks, isInlineBlank c = true)
      (hbody : ∀ c ∈ body, isCommentChar c = true) : IsTail (blanks ++ '#' :: body)

/-- The end of a line, and the lines after it. -/
inductive LineEnd : (ending more : List Char) → Prop
  | last : LineEnd [] []
  | feed (more : List Char) : LineEnd ('\n' :: more) more
  | returnFeed (more : List Char) : LineEnd ('\r' :: '\n' :: more) more

/-- A text is at the end of a line. -/
def AtLineEnd (ending : List Char) : Prop := ∃ more, LineEnd ending more

theorem LineEnd.length_le (h : LineEnd ending more) : more.length ≤ ending.length := by
  cases h <;> grind

/-- A line ends where neither a blank nor a comment goes on. -/
theorem LineEnd.head (h : LineEnd ending more) {c : Char} (hc : c ∈ ending.head?) :
    isInlineBlank c = false ∧ isCommentChar c = false ∧ c ≠ '#' := by
  cases h with
  | last => cases hc
  | feed =>
    obtain rfl := Option.some.inj hc
    decide
  | returnFeed =>
    obtain rfl := Option.some.inj hc
    decide

theorem newline_eq_some_iff :
    newline cs = some ((), more) ↔ cs = '\n' :: more ∨ cs = '\r' :: '\n' :: more := by
  rw [newline, orElse_eq_some_iff, char_eq_some_iff, text_eq_some_iff]
  constructor
  · rintro (h | ⟨-, h⟩)
    · exact .inl h
    · exact .inr h
  · rintro (h | rfl)
    · exact .inl h
    · exact .inr ⟨rfl, rfl⟩

theorem lineEnd_eq_some_iff : lineEnd cs = some ((), more) ↔ LineEnd cs more := by
  rw [lineEnd, orElse_eq_some_iff, newline_eq_some_iff, atEnd_eq_some_iff]
  constructor
  · rintro ((rfl | rfl) | ⟨-, rfl, rfl⟩)
    · exact .feed more
    · exact .returnFeed more
    · exact .last
  · rintro (_ | _ | _)
    · exact .inr ⟨rfl, rfl, rfl⟩
    · exact .inl (.inl rfl)
    · exact .inl (.inr rfl)

theorem inlineBlanks_eq_some_iff :
    inlineBlanks cs = some ((), rest) ↔
      ∃ blanks, run isInlineBlank cs = some (blanks, rest) := by
  rw [inlineBlanks, bind_eq_some_iff]
  constructor
  · rintro ⟨blanks, middle, hrun, hrest⟩
    obtain ⟨-, rfl⟩ := Prod.mk.inj (Option.some.inj hrest)
    exact ⟨blanks, hrun⟩
  · rintro ⟨blanks, hrun⟩
    exact ⟨blanks, rest, hrun, rfl⟩

theorem comment_eq_some_iff :
    comment cs = some ((), rest) ↔
      ∃ body after, cs = '#' :: after ∧ run isCommentChar after = some (body, rest) := by
  rw [comment, bind_eq_some_iff]
  constructor
  · rintro ⟨_, middle, hsign, hbody⟩
    obtain ⟨body, middle', hrun, hrest⟩ := bind_eq_some_iff.mp hbody
    obtain ⟨-, rfl⟩ := Prod.mk.inj (Option.some.inj hrest)
    exact ⟨body, middle, char_eq_some_iff.mp hsign, hrun⟩
  · rintro ⟨body, after, rfl, hrun⟩
    exact ⟨(), after, rfl, bind_eq_some_iff.mpr ⟨body, rest, hrun, rfl⟩⟩

/-- **What may follow an entry** up to the end of its line. -/
theorem lineRest_eq_some_iff :
    lineRest cs = some ((), more) ↔
      ∃ tail ending, cs = tail ++ ending ∧ IsTail tail ∧ LineEnd ending more := by
  constructor
  · intro h
    obtain ⟨_, middle, hblanks, h⟩ := bind_eq_some_iff.mp h
    obtain ⟨found, ending, hcomment, hend⟩ := bind_eq_some_iff.mp h
    obtain ⟨blanks, hrun⟩ := inlineBlanks_eq_some_iff.mp hblanks
    obtain ⟨rfl, hall, -⟩ := run_eq_some_iff.mp hrun
    have hending := lineEnd_eq_some_iff.mp hend
    obtain ⟨_, _, hcomment⟩ | ⟨-, -, rfl⟩ := optional_eq_some_iff.mp hcomment
    · obtain ⟨body, after, rfl, hafter⟩ := comment_eq_some_iff.mp hcomment
      obtain ⟨rfl, hbody, -⟩ := run_eq_some_iff.mp hafter
      exact ⟨blanks ++ '#' :: body, ending, by simp, .comment hall hbody, hending⟩
    · exact ⟨blanks, ending, rfl, .blanks hall, hending⟩
  · rintro ⟨tail, ending, rfl, htail, hending⟩
    have hend := lineEnd_eq_some_iff.mpr hending
    cases htail with
    | blanks hall =>
      have hblanks : inlineBlanks (tail ++ ending) = some ((), ending) :=
        inlineBlanks_eq_some_iff.mpr
          ⟨tail, run_eq_some_iff.mpr ⟨rfl, hall, fun c hc => (hending.head hc).1⟩⟩
      have hcomment : optional comment ending = some (none, ending) := by
        refine optional_eq_some_iff.mpr (.inr ⟨rfl, ?_, rfl⟩)
        refine Option.eq_none_iff_forall_ne_some.mpr fun found h => ?_
        obtain ⟨body, after, rfl, -⟩ := comment_eq_some_iff.mp h
        exact (hending.head rfl).2.2 rfl
      exact bind_eq_some_iff.mpr
        ⟨(), _, hblanks, bind_eq_some_iff.mpr ⟨none, _, hcomment, hend⟩⟩
    | @comment blanks body hall hbody =>
      have hblanks : inlineBlanks (blanks ++ '#' :: body ++ ending) =
          some ((), '#' :: (body ++ ending)) := by
        refine inlineBlanks_eq_some_iff.mpr ⟨blanks, run_eq_some_iff.mpr ⟨by simp, hall, ?_⟩⟩
        intro c hc
        obtain rfl := Option.some.inj hc
        decide
      have hcomment : optional comment ('#' :: (body ++ ending)) = some (some (), ending) :=
        optional_eq_some_iff.mpr (.inl ⟨(), rfl, comment_eq_some_iff.mpr
          ⟨body, body ++ ending, rfl,
            run_eq_some_iff.mpr ⟨rfl, hbody, fun c hc => (hending.head hc).2.1⟩⟩⟩)
      exact bind_eq_some_iff.mpr
        ⟨(), _, hblanks, bind_eq_some_iff.mpr ⟨some (), _, hcomment, hend⟩⟩

/-! ### Lines -/

theorem line_eq_some_iff :
    line cs = some (content, more) ↔
      ∃ tail ending, lineContent cs = some (content, tail ++ ending) ∧ IsTail tail ∧
        LineEnd ending more := by
  rw [line, bind_eq_some_iff]
  constructor
  · rintro ⟨content, middle, hcontent, h⟩
    obtain ⟨_, more', hrest, h⟩ := bind_eq_some_iff.mp h
    obtain ⟨rfl, rfl⟩ := Prod.mk.inj (Option.some.inj h)
    obtain ⟨tail, ending, rfl, htail, hending⟩ := lineRest_eq_some_iff.mp hrest
    exact ⟨tail, ending, hcontent, htail, hending⟩
  · rintro ⟨tail, ending, hcontent, htail, hending⟩
    exact ⟨content, tail ++ ending, hcontent, bind_eq_some_iff.mpr
      ⟨(), more, lineRest_eq_some_iff.mpr ⟨tail, ending, rfl, htail, hending⟩, rfl⟩⟩

/-- **A line takes a character at least.** -/
theorem length_lt_of_line (hcs : cs ≠ []) (h : line cs = some (content, more)) :
    more.length < cs.length := by
  obtain ⟨tail, ending, hcontent, -, hending⟩ := line_eq_some_iff.mp h
  have hle := (takes_lineContent.suffix hcontent).length_le
  rw [List.length_append] at hle
  cases hending with
  | last => exact List.length_pos_iff.mpr hcs
  | feed | returnFeed =>
    simp only [List.length_cons] at hle
    omega

/-- Fuel for every character is enough, and more makes no difference. -/
theorem linesFrom_eq_of_lt {fuel fuel' : Nat} (h : cs.length < fuel) (h' : cs.length < fuel') :
    linesFrom fuel p cs = linesFrom fuel' p cs := by
  induction fuel generalizing fuel' p cs with
  | zero => omega
  | succ fuel ih =>
    obtain ⟨fuel', rfl⟩ := Nat.exists_eq_succ_of_ne_zero (Nat.ne_zero_of_lt h')
    cases cs with
    | nil => rfl
    | cons c cs =>
      refine Option.ext fun ⟨after, rest⟩ => ?_
      rw [linesFrom_cons_eq_some_iff, linesFrom_cons_eq_some_iff]
      refine exists_congr fun content => exists_congr fun more => exists_congr fun q => ?_
      refine and_congr_right fun hline => and_congr_right fun _ => ?_
      have hshorter := length_lt_of_line (List.cons_ne_nil c cs) hline
      rw [ih (by omega) (by omega : more.length < fuel')]

/-- The lines of a text, read to its end. -/
def lines (p : Progress) (cs : List Char) : Option (Progress × List Char) :=
  linesFrom (cs.length + 1) p cs

theorem lines_cons_eq_some_iff {c : Char} :
    lines p (c :: cs) = some (after, rest) ↔
      ∃ content more q, line (c :: cs) = some (content, more) ∧ p.add content = some q ∧
        lines q more = some (after, rest) := by
  rw [lines, linesFrom_cons_eq_some_iff]
  refine exists_congr fun content => exists_congr fun more => exists_congr fun q => ?_
  refine and_congr_right fun hline => and_congr_right fun _ => ?_
  have hshorter := length_lt_of_line (List.cons_ne_nil c cs) hline
  rw [lines, linesFrom_eq_of_lt hshorter (Nat.lt_succ_self more.length)]

/-- **The end of a line is an empty line** before the lines after it. -/
theorem lines_of_lineEnd (h : LineEnd ending more) : lines p ending = lines p more := by
  have hblank : ∀ c ending, LineEnd (c :: ending) more → line (c :: ending) = some (.blank, more) := by
    intro c ending h
    cases h <;> rfl
  cases ending with
  | nil =>
    cases h
    rfl
  | cons c ending =>
    refine Option.ext fun ⟨after, rest⟩ => ?_
    rw [lines_cons_eq_some_iff, hblank c ending h]
    constructor
    · rintro ⟨content, more', q, hline, hadd, hmore⟩
      obtain ⟨rfl, rfl⟩ := Prod.mk.inj (Option.some.inj hline)
      obtain rfl := Option.some.inj hadd
      exact hmore
    · intro hmore
      exact ⟨.blank, more, p, rfl, rfl, hmore⟩

/-! ### The finished document -/

/-- A name has a value in the end exactly if it holds something. -/
theorem lookup_finishEntries_eq_none_iff {drafts : Drafts} {entries : Entries} {name : String}
    (h : finishEntries? drafts = some entries) :
    Entries.lookup name entries = none ↔ Drafts.lookup name drafts = none := by
  induction drafts generalizing entries with
  | nil =>
    obtain rfl := Option.some.inj h
    exact iff_of_true rfl rfl
  | cons entry drafts ih =>
    obtain ⟨key, draft⟩ := entry
    rw [finishEntries?] at h
    obtain ⟨v, -, h⟩ := Option.bind_eq_some_iff.mp h
    obtain ⟨others, hothers, h⟩ := Option.bind_eq_some_iff.mp h
    obtain rfl := Option.some.inj h
    rw [Entries.lookup_insert, Drafts.lookup]
    by_cases hkey : name = key
    · simp [hkey]
    · simpa [hkey] using ih hothers

/-- An entry of the document is one of the finished document. -/
theorem finishEntries_beside (name : String) (v : Spelled) (p : Progress) :
    finishEntries? (p.beside name v).drafts =
      (finishEntries? p.drafts).map (Entries.insert name v.value) := by
  rw [Progress.beside, finishEntries?, Draft.value?]
  cases finishEntries? p.drafts <;> rfl

/-- What the lines of a text make. -/
theorem parse_eq_some_iff {s : String} {document : Value} :
    parse s = some document ↔
      ∃ p entries, lines ⟨[], []⟩ (withoutMark s.toList) = some (p, []) ∧
        finishEntries? p.drafts = some entries ∧ document = .object entries := by
  unfold parse lines
  extract_lets cs
  split
  · next p hp =>
    rw [hp, Option.map_eq_some_iff]
    constructor
    · rintro ⟨entries, hentries, rfl⟩
      exact ⟨p, entries, rfl, hentries, rfl⟩
    · rintro ⟨q, entries, hq, hentries, rfl⟩
      obtain rfl := (Prod.mk.inj (Option.some.inj hq)).1
      exact ⟨entries, hentries, rfl⟩
  · next hother =>
    constructor
    · intro h
      cases h
    · rintro ⟨p, entries, hp, -⟩
      exact absurd hp (hother p)

/-! ### An entry on the first line -/

/-- A text begins with a value whose last line ends after it; `ending` is the text from there on. -/
def BeginsWith (text : List Char) (v : Spelled) (ending : List Char) : Prop :=
  ∃ tail, value depthLimit text = some (v, tail ++ ending) ∧ IsTail tail ∧ AtLineEnd ending

/-- The first line of a document with an entry `v = …`. -/
theorem lineContent_entry {text : List Char} (h : text.dropWhile isInlineBlank = text) :
    lineContent ('v' :: ' ' :: '=' :: ' ' :: text) =
      (value depthLimit text).map fun found => (.entry ["v"] found.1, found.2) := by
  have hkey : key ('v' :: ' ' :: '=' :: ' ' :: text) = some (["v"], '=' :: ' ' :: text) := rfl
  have hequals : char '=' ('=' :: ' ' :: text) = some ((), ' ' :: text) := rfl
  have hblanks : inlineBlanks (' ' :: text) = some ((), text) := by
    rw [show inlineBlanks (' ' :: text) = some ((), text.dropWhile isInlineBlank) from rfl, h]
  have hentry : entry (value depthLimit) ('v' :: ' ' :: '=' :: ' ' :: text) =
      (Prod.mk ["v"] <$> value depthLimit) text := by
    rw [entry, bind_of_eq_some hkey, bind_of_eq_some hequals, bind_of_eq_some hblanks]
    rfl
  have hline : lineContent ('v' :: ' ' :: '=' :: ' ' :: text) =
      ((fun found => Line.entry found.1 found.2) <$> entry (value depthLimit))
        ('v' :: ' ' :: '=' :: ' ' :: text) := rfl
  rw [hline, map_eq, hentry, map_eq, Option.map_map]
  rfl

/-- **A document that begins with an entry `v = …`**: a value, and from the end of its line on another
document without the name `v`. -/
theorem parse_entry_eq_some_iff {text : String} {document : Value}
    (h : text.toList.dropWhile isInlineBlank = text.toList) :
    parse ("v = " ++ text) = some document ↔
      ∃ v ending others, BeginsWith text.toList v ending ∧
        parse (String.ofList ending) = some others ∧ others.get? "v" = none ∧
        document = others.insert "v" v.value := by
  have htext : withoutMark ("v = " ++ text).toList = 'v' :: ' ' :: '=' :: ' ' :: text.toList := by
    rw [String.toList_append]
    rfl
  have hunmarked : ∀ {ending}, AtLineEnd ending →
      withoutMark (String.ofList ending).toList = ending := by
    rintro ending ⟨more, hending⟩
    rw [String.toList_ofList]
    cases hending <;> rfl
  rw [parse_eq_some_iff, htext]
  simp only [lines_cons_eq_some_iff, line_eq_some_iff, lineContent_entry h]
  constructor
  · rintro ⟨final, entries, ⟨content, more, q, ⟨tail, ending, hcontent, htail, hending⟩, hadd, hmore⟩,
      hfinished, rfl⟩
    obtain ⟨⟨v, left⟩, hvalue, hcontent⟩ := Option.map_eq_some_iff.mp hcontent
    obtain ⟨rfl, rfl⟩ := Prod.mk.inj hcontent
    have hq : q = Progress.beside "v" v ⟨[], []⟩ := (Option.some.inj hadd).symm
    subst hq
    obtain ⟨others, hothers, hnone, rfl⟩ := (linesFrom_beside rfl).mp hmore
    rw [finishEntries_beside] at hfinished
    obtain ⟨entries, hentries, rfl⟩ := Option.map_eq_some_iff.mp hfinished
    refine ⟨v, ending, .object entries, ⟨tail, hvalue, htail, more, hending⟩, ?_, ?_, rfl⟩
    · rw [parse_eq_some_iff, hunmarked ⟨more, hending⟩, lines_of_lineEnd hending]
      exact ⟨others, entries, hothers, hentries, rfl⟩
    · exact (lookup_finishEntries_eq_none_iff hentries).mpr hnone
  · rintro ⟨v, ending, others, ⟨tail, hvalue, htail, more, hending⟩, hothers, hnone, rfl⟩
    obtain ⟨p, entries, hp, hentries, rfl⟩ := parse_eq_some_iff.mp hothers
    rw [hunmarked ⟨more, hending⟩, lines_of_lineEnd hending] at hp
    have hbeside : lines (Progress.beside "v" v ⟨[], []⟩) more = some (p.beside "v" v, []) :=
      (linesFrom_beside rfl).mpr
        ⟨p, hp, (lookup_finishEntries_eq_none_iff hentries).mp hnone, rfl⟩
    refine ⟨p.beside "v" v, Entries.insert "v" v.value entries,
      ⟨.entry ["v"] v, more, Progress.beside "v" v ⟨[], []⟩,
        ⟨tail, ending, by rw [hvalue]; rfl, htail, hending⟩, rfl, hbeside⟩, ?_, rfl⟩
    rw [finishEntries_beside, hentries]
    rfl

end ArtifactPipeline.Toml
