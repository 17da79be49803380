import ArtifactPipeline.Proofs.Shell.Tokens
import ArtifactPipeline.Shell.Expansion
import ArtifactPipeline.Shell.Parser

/-!
# A line of bare words

A line of bare words is one simple command with these words, as long as the first of them means
nothing where a command can start (`nextLine_of_bareWords`): it is no word with a meaning of its own,
and no assignment.

The reader of commands looks one token ahead all the time and puts it back, so each of its parts is
followed from a token in hand to the end of the text in hand.

Expanding leaves most bare words as they are: a tilde at the start is a home directory, and the signs
of a pattern stand for the names of files, but nothing else in a bare word is replaced
(`run_expandWords_of_expandsToItself`).
-/

namespace ArtifactPipeline.Shell

open Parse

variable {commands : Parse Command} {inner : Wanted → Parse Command} {s s' : Reading} {t : Token}
  {p : Position} {w : List Char} {ws : List (List Char)}

/-! ### The next token -/

/-- **The next word of a text of bare words**, and the end after the last one. -/
theorem run_scanToken_of_words (hbare : ∀ word ∈ Text.words isSeparator s.rest, IsBareWord word) :
    (Text.words isSeparator s.rest = [] ∧
      (scanToken commands).run s = .ok (.ended, { s with rest := [] })) ∨
    ∃ word more rest, Text.words isSeparator s.rest = word :: more ∧
      (scanToken commands).run s = .ok (.ofText word, { s with rest }) ∧
      Text.words isSeparator rest = more := by
  induction hrest : s.rest using Text.words_induction isSeparator generalizing s with
  | nil =>
    refine .inl ⟨rfl, ?_⟩
    have hcome : s.toToken = { s with rest := [] } := by
      rw [Reading.toToken, hrest]
      rfl
    rw [scanToken, run_bind_to () s.toToken rfl, hcome]
    rfl
  | separator c cs hc ih =>
    have hskip : (scanToken commands).run s = (scanToken commands).run { s with rest := cs } := by
      refine run_scanToken_congr ?_
      rw [Reading.toToken, Reading.toToken, fromToken, fromToken, hrest,
        dropBlanks_cons_of_isSeparator hc]
    rw [hrest, Text.words_cons_of_separates hc] at hbare
    rw [hskip, Text.words_cons_of_separates hc]
    exact ih (s := { s with rest := cs }) hbare rfl
  | word word left hne hword hleft ih =>
    have hwords := Text.words_append_of_head hne hword hleft
    rw [hrest, hwords] at hbare
    rw [hwords]
    exact .inr ⟨word, _, left, rfl,
      run_scanToken_of_isBareWord (hbare word List.mem_cons_self) hrest hleft, rfl⟩

/-- A token that is taken as it is: the end of the text, or a word without a meaning. -/
def Token.IsMeaningless (meaning : Bool) (t : Token) : Prop :=
  t = .ended ∨ ∃ w, t = .ofText w ∧ (meaning && keywords.contains (String.ofList w)) = false

theorem aliasFor?_eq_none (h : s.aliases = []) (name : String) : aliasFor? s name = none := by
  rw [aliasFor?, h]
  split <;> rfl

/-- The next token: the one that has been put back, or else one from the text. -/
def Reading.Next (commands : Parse Command) (s : Reading) (t : Token) (s' : Reading) : Prop :=
  s.held = some t ∧ s' = { s with held := none } ∨
    s.held = none ∧ (scanToken commands).run s = .ok (t, s')

/-- **A token that is taken as it is** is the next one. -/
theorem run_readToken (hbreaks : p.breaks = false) (ht : t.IsMeaningless p.meaning)
    (hnext : s.Next commands t s') (haliases : s'.aliases = []) :
    (readToken commands p).run s = .ok (t, s') := by
  have hcleared : (set { s with held := none } : Parse PUnit).run s =
      .ok (⟨⟩, { s with held := none }) := rfl
  rw [readToken, run_get_bind, run_bind_of_eq hcleared, tokenFrom, run_get_bind, hbreaks]
  obtain ⟨hheld, rfl⟩ | ⟨hheld, hscan⟩ := hnext
  case' inl =>
    rw [hheld, run_bind_to t { s with held := none } rfl]
    dsimp only
  case' inr =>
    have hsame : { s with held := none } = s := by rw [← hheld]
    rw [hsame, hheld]
    dsimp only
    rw [run_bind_of_eq hscan]
  -- the token is in hand either way
  all_goals
    rw [if_neg Bool.false_ne_true, run_bind_to t _ rfl, run_get_bind]
    obtain rfl | ⟨w, rfl, hmeaning⟩ := ht
    · rfl
    · simp only [Token.ofText, Word.plain?, hmeaning, aliasFor?_eq_none haliases, ite_self]
      rfl

/-! ### A simple command -/

/-- The word of a bare text. -/
def bareWord (w : List Char) : Word := [.literal false (String.ofList w)]

/-- A reading of a text that nothing else has to be read for, up to its end. -/
structure Reading.IsFresh (s : Reading) : Prop where
  no_aliases : s.aliases = []
  none_awaited : s.awaited = []
  bare : ∀ word ∈ Text.words isSeparator s.rest, IsBareWord word

/-- A reading at the end of its text, with that in hand. -/
def Reading.over (s : Reading) : Reading := { s with rest := [], held := some .ended }

theorem run_simpleToken {first : Bool} (ht : t.IsMeaningless false)
    (hnext : s.Next (inner (.list true)) t s') (haliases : s'.aliases = []) :
    (simpleToken inner first).run s = .ok (t, s') :=
  run_readToken rfl ht hnext haliases

theorem run_token {meaning : Bool} (ht : t.IsMeaningless meaning)
    (hnext : s.Next (inner (.list true)) t s') (haliases : s'.aliases = []) :
    (token inner false meaning).run s = .ok (t, s') :=
  run_readToken rfl ht hnext haliases

theorem Token.IsMeaningless.ofText (w : List Char) : (Token.ofText w).IsMeaningless false :=
  .inr ⟨w, rfl, rfl⟩

/-- The words after the first are taken one by one. -/
theorem run_simpleCommand_words {line fuel : Nat} {parts : SimpleParts} (hs : s.IsFresh)
    (hheld : s.held = none) (hparts : parts.words ≠ [])
    (hfuel : (Text.words isSeparator s.rest).length < fuel) :
    (simpleCommand inner line fuel parts).run s =
      .ok (.simple line parts.assignments
        (parts.words ++ (Text.words isSeparator s.rest).map bareWord) parts.redirects, s.over) := by
  induction fuel generalizing s parts with
  | zero => omega
  | succ fuel ih =>
    rw [simpleCommand]
    obtain ⟨hwords, hscan⟩ | ⟨word, more, rest, hwords, hscan, hmore⟩ :=
      @run_scanToken_of_words (inner (.list true)) s hs.bare
    · rw [run_bind_of_eq (run_simpleToken (.inl rfl) (.inr ⟨hheld, hscan⟩) hs.no_aliases), hwords,
        List.map_nil, List.append_nil]
      rfl
    · have hfresh : Reading.IsFresh { s with rest } :=
        ⟨hs.no_aliases, hs.none_awaited, fun w hw =>
          hs.bare w (hwords ▸ List.mem_cons_of_mem word (hmore ▸ hw))⟩
      rw [hwords, List.length_cons] at hfuel
      rw [run_bind_of_eq (run_simpleToken (.ofText word) (.inr ⟨hheld, hscan⟩) hs.no_aliases)]
      have hnot : parts.words.isEmpty = false := by simpa using hparts
      simp only [Token.ofText, hnot, Bool.false_eq_true, if_false]
      rw [ih (s := { s with rest }) hfresh hheld (by simp) (by simp only [hmore]; omega), hmore, hwords,
        List.map_cons, List.append_assoc]
      rfl

/-- Whether a word means nothing where a command can start. -/
structure IsCommandWord (w : List Char) : Prop where
  no_keyword : String.ofList w ∉ keywords
  no_assignment : assignment? (bareWord w) = none

theorem IsCommandWord.isMeaningless (h : IsCommandWord w) (meaning : Bool) :
    (Token.ofText w).IsMeaningless meaning := by
  refine .inr ⟨w, rfl, ?_⟩
  rw [Bool.and_eq_false_iff]
  exact .inr (by simpa using h.no_keyword)

/-- The reading after a word, with the word put back. -/
def Reading.holding (s : Reading) (w : List Char) : Reading := { s with held := some (.ofText w) }

theorem Reading.next_holding (hheld : s.held = none) (w : List Char) :
    (s.holding w).Next commands (.ofText w) s :=
  .inl ⟨rfl, by rw [Reading.holding, ← hheld]⟩

/-- A command that begins with the word in hand. -/
def simpleOf (s : Reading) (w : List Char) : Command :=
  .simple s.line [] (bareWord w :: (Text.words isSeparator s.rest).map bareWord) []

/-- **A simple command of bare words** is read to the end of the text. -/
theorem run_oneCommand_words (hs : s.IsFresh) (hheld : s.held = none) (hw : IsCommandWord w) :
    (oneCommand inner false).run (s.holding w) = .ok (simpleOf s w, s.over) := by
  have hfirst : (token inner false true).run (s.holding w) = .ok (.ofText w, s) :=
    run_token (hw.isMeaningless true) (Reading.next_holding hheld w) hs.no_aliases
  have hagain : (simpleToken inner true).run (s.holding w) = .ok (.ofText w, s) :=
    run_simpleToken (.ofText w) (Reading.next_holding hheld w) hs.no_aliases
  have hlength := Text.length_words_le isSeparator s.rest
  rw [oneCommand, run_bind_of_eq hfirst, run_get_bind]
  dsimp only [Token.ofText]
  have hhold : (hold (.word [.literal false (String.ofList w)])).run s = .ok ((), s.holding w) := rfl
  rw [run_bind_of_eq hhold, simpleCommand,
    show ({} : SimpleParts).words.isEmpty = true from rfl, run_bind_of_eq hagain]
  simp only [Token.ofText, if_true, show assignment? [.literal false (String.ofList w)] = none from
    hw.no_assignment]
  exact run_simpleCommand_words hs hheld (by simp) (by omega)

/-! ### A whole line -/

theorem run_hold (t : Token) (s : Reading) :
    (hold t).run s = .ok ((), { s with held := some t }) := rfl

/-- At its end a text stays at its end. -/
theorem run_token_over (hs : s.IsFresh) (meaning : Bool) :
    (token inner false meaning).run s.over = .ok (.ended, { s.over with held := none }) :=
  run_token (.inl rfl) (.inl ⟨rfl, rfl⟩) hs.no_aliases

theorem run_pipeline_words (hs : s.IsFresh) (hheld : s.held = none) (hw : IsCommandWord w) :
    (pipeline inner false).run (s.holding w) = .ok (simpleOf s w, s.over) := by
  have hfirst : (token inner false true).run (s.holding w) = .ok (.ofText w, s) :=
    run_token (hw.isMeaningless true) (Reading.next_holding hheld w) hs.no_aliases
  have hmore : (moreParts inner 2).run s.over = .ok ([], s.over) := by
    rw [moreParts, run_bind_of_eq (run_token_over hs false)]
    rfl
  rw [pipeline, run_bind_of_eq hfirst]
  dsimp only [Token.ofText]
  rw [run_bind_of_eq (run_hold _ s), run_bind_to false _ rfl]
  refine (run_bind_of_eq (run_oneCommand_words hs hheld hw)).trans ?_
  rw [run_get_bind]
  refine (run_bind_of_eq hmore).trans ?_
  rfl

theorem run_readDocuments (h : s.awaited = []) : (readDocuments commands).run s = .ok ((), s) := by
  have hsame : s = { s with awaited := [] } := by rw [← h]
  rw [readDocuments, run_get_bind, h, run_bind_to () s (by rw [hsame]; rfl)]
  rfl

/-- At the end of its text a list of commands is over. -/
theorem run_commandList_over {fuel : Nat} (hs : s.IsFresh) (found : Command) :
    (commandList inner .line (fuel + 1) false found).run s.over = .ok (found, s.over) := by
  unfold commandList
  refine (run_bind_of_eq (run_token_over hs true)).trans ?_
  refine (run_bind_of_eq
    (run_readDocuments (s := { s.over with held := none }) hs.none_awaited)).trans ?_
  rfl

/-- **A line of bare words** is read as one command. -/
theorem run_commandList_words {fuel : Nat} {start : Reading} (hs : s.IsFresh) (hheld : s.held = none)
    (hw : IsCommandWord w) (hnext : start.Next (inner (.list true)) (.ofText w) s) :
    (commandList inner .line (fuel + 2) false .nothing).run start = .ok (simpleOf s w, s.over) := by
  have hfirst : (token inner false true).run start = .ok (.ofText w, s) :=
    run_token (hw.isMeaningless true) hnext hs.no_aliases
  have hjoined : (joined inner 2 (simpleOf s w)).run s.over = .ok (simpleOf s w, s.over) := by
    rw [joined, run_bind_of_eq (run_token_over hs false)]
    rfl
  unfold commandList
  refine (run_bind_of_eq hfirst).trans ?_
  refine (run_bind_of_eq (run_hold _ s)).trans ?_
  refine (run_bind_of_eq (run_pipeline_words hs hheld hw)).trans ?_
  refine (run_get_bind _ _).trans ?_
  refine (run_bind_of_eq hjoined).trans ?_
  refine (run_bind_of_eq (run_token_over hs false)).trans ?_
  refine (run_get_bind _ _).trans ?_
  refine (run_bind_of_eq (run_hold _ _)).trans ?_
  exact run_commandList_over hs (simpleOf s w)

/-- **A line of bare words is one simple command with these words**, if the first of them means nothing
where a command can start. -/
theorem nextLine_of_bareWords (hs : s.IsFresh) (hheld : s.held = none)
    (hwords : Text.words isSeparator s.rest = w :: ws) (hw : IsCommandWord w) :
    ∃ final, nextLine s = .ok (some (.simple s.line [] ((w :: ws).map bareWord) [], final)) := by
  have hne : s.rest ≠ [] := by
    intro hnil
    rw [hnil, Text.words_nil] at hwords
    cases hwords
  obtain ⟨c, cs, hrest⟩ := List.exists_cons_of_ne_nil hne
  have hsame : { s with held := none } = s := by rw [← hheld]
  obtain ⟨hnone, -⟩ | ⟨word, more, rest, hword, hscan, hmore⟩ :=
    @run_scanToken_of_words (readCommands (s.rest.length + 1) (.list true)) s hs.bare
  · rw [hwords] at hnone
    cases hnone
  obtain ⟨rfl, rfl⟩ := List.cons.inj (hwords.symm.trans hword)
  have hfresh : Reading.IsFresh { s with rest } :=
    ⟨hs.no_aliases, hs.none_awaited, fun w hw =>
      hs.bare w (hwords ▸ List.mem_cons_of_mem _ (hmore ▸ hw))⟩
  have hread : (readCommands (s.rest.length + 2) .line).run s =
      .ok (simpleOf { s with rest } w, Reading.over { s with rest }) := by
    rw [readCommands, wantedCommands, run_get_bind]
    exact run_commandList_words hfresh hheld hw (.inr ⟨hheld, hscan⟩)
  refine ⟨Reading.over { s with rest }, ?_⟩
  unfold nextLine
  rw [hheld, hrest]
  dsimp only
  rw [← hrest, hsame, hread]
  simp only [simpleOf, hmore]
  rfl

/-! ### Expanding bare words -/

variable {capture : Command → Eval String} {state : State}

theorem Eval.run_bind_of_eq {α β : Type} {x : Eval α} {f : α → Eval β} {s s' : State} {a : α}
    (h : x.run.run s = (.ok a, s')) : (x >>= f).run.run s = (f a).run.run s' := by
  rw [ExceptT.run_bind, StateT.run_bind, h]
  rfl

theorem Eval.run_get_bind {β : Type} (f : State → Eval β) (s : State) :
    (get >>= f).run.run s = (f s).run.run s := rfl

/-- **A word that expands to itself**: it is not empty, begins with no tilde and holds no sign of a
pattern. -/
structure ExpandsToItself (w : List Char) : Prop where
  ne_nil : w ≠ []
  no_home : w.head? ≠ some '~'
  no_pattern : ∀ c ∈ w, c ≠ '*' ∧ c ≠ '?' ∧ c ≠ '['

theorem withHome_bareWord (h : w.head? ≠ some '~') : (bareWord w).withHome state = bareWord w := by
  have hnone : tildePrefix? ['/'] true (String.ofList w) = none := by
    unfold tildePrefix?
    rw [String.toList_ofList]
    split
    · exact absurd rfl h
    · rfl
  rw [bareWord, Word.withHome, show ([] : Word).isEmpty = true from rfl, hnone]

/-- Characters that stand in the word itself are never cut. -/
theorem foldl_step_plain (separators : List Char) (w : List Char) {p : Atom.Progress}
    (hstarted : p.started = true) (hblank : p.afterBlank = false) :
    (w.map Atom.plain).foldl (Atom.Progress.step separators) p =
      { p with current := (w.map fun c => (c, true)).reverse ++ p.current } := by
  induction w generalizing p with
  | nil => rfl
  | cons c w ih =>
    have hstep : Atom.Progress.step separators p (.plain c) =
        { p with current := (c, true) :: p.current } := by
      rw [Atom.Progress.step, Atom.Progress.add, ← hstarted, ← hblank]
    rw [List.map_cons, List.foldl_cons, hstep,
      ih (p := { p with current := (c, true) :: p.current }) hstarted hblank]
    simp

theorem split_plain (separators : List Char) (hw : w ≠ []) :
    Atom.split separators (w.map Atom.plain) = [w.map fun c => (c, true)] := by
  obtain ⟨c, cs, rfl⟩ := List.exists_cons_of_ne_nil hw
  rw [Atom.split, List.map_cons, List.foldl_cons,
    foldl_step_plain separators cs (p := Atom.Progress.step separators {} (.plain c)) rfl rfl]
  simp [Atom.Progress.step, Atom.Progress.add, Atom.Progress.close]

theorem fileNames_plain (h : ∀ c ∈ w, c ≠ '*' ∧ c ≠ '?' ∧ c ≠ '[') :
    fileNames state (w.map fun c => (c, true)) = [String.ofList w] := by
  have hwild : Pattern.isWild (w.map fun c => (c, true)) = false := by
    rw [Pattern.isWild, List.any_eq_false]
    intro glyph hglyph
    obtain ⟨c, hc, rfl⟩ := List.mem_map.mp hglyph
    obtain ⟨hstar, hmark, hbracket⟩ := h c hc
    simp [hstar, hmark, hbracket]
  have htext : Glyphs.text (w.map fun c => (c, true)) = String.ofList w := by
    rw [Glyphs.text, List.map_map]
    exact congrArg String.ofList (List.map_id w)
  rw [fileNames, hwild, if_pos (.inr rfl), htext]

theorem run_expandWord (h : ExpandsToItself w) :
    (expandWord capture (bareWord w)).run.run state = (.ok [String.ofList w], state) := by
  have hfields : (Atom.split state.separators (w.map Atom.plain)).flatMap (fileNames state) =
      [String.ofList w] := by
    rw [split_plain _ h.ne_nil, List.flatMap_cons, fileNames_plain h.no_pattern]
    rfl
  have hatoms : (atomsOf capture true false (bareWord w)).run.run state =
      (.ok (w.map Atom.plain), state) := by
    have hpieces : (atomsOf capture true false (bareWord w)).run.run state =
        (.ok ((String.ofList w).toList.map Atom.plain ++ []), state) := rfl
    rw [hpieces, List.append_nil, String.toList_ofList]
  rw [expandWord, Eval.run_get_bind, withHome_bareWord h.no_home, Eval.run_bind_of_eq hatoms,
    Eval.run_get_bind, hfields]
  rfl

/-- **Words that expand to themselves** are their own fields. -/
theorem run_expandWords_of_expandsToItself (h : ∀ w ∈ ws, ExpandsToItself w) :
    (expandWords capture (ws.map bareWord)).run.run state = (.ok (ws.map String.ofList), state) := by
  have hfields : ((ws.map bareWord).mapM (expandWord capture)).run.run state =
      (.ok (ws.map fun w => [String.ofList w]), state) := by
    induction ws with
    | nil => rfl
    | cons w ws ih =>
      obtain ⟨hw, hws⟩ := List.forall_mem_cons.mp h
      rw [List.map_cons, List.mapM_cons, Eval.run_bind_of_eq (run_expandWord hw),
        Eval.run_bind_of_eq (ih hws)]
      rfl
  rw [expandWords, Eval.run_bind_of_eq hfields]
  rw [← List.flatMap_def, ← List.map_eq_flatMap]
  rfl

end ArtifactPipeline.Shell
