import ArtifactPipeline.Proofs.Text.Reader
import ArtifactPipeline.Shell.Lexer

/-!
# Words that stand for themselves

Most words of a command line are what they look like: no character in them ends a word, quotes
another one or is replaced. This file says which those are (`standsForItself`).

* `run_scanPieces_of_standsForItself` : such characters are read as they stand, up to a blank;
* `accounts_of_isText` : a word that is read as it stands is made of such characters, or some are lost.

A word is read a piece at a time, and what one round can do is said once (`scanPieces_cases`). The only
characters that get lost are those that join lines.
-/

namespace ArtifactPipeline.Shell

namespace Parse

variable {α β : Type}

/-! ### Running a reader -/

theorem run_bind_of_eq {x : Parse α} {f : α → Parse β} {s s' : Reading} {a : α}
    (h : x.run s = .ok (a, s')) : (x >>= f).run s = (f a).run s' := by
  rw [StateT.run_bind, h]
  rfl

/-- What is read first, where it takes no more than computing. -/
theorem run_bind_to {x : Parse α} {f : α → Parse β} {s : Reading} (a : α) (s' : Reading)
    (h : x.run s = .ok (a, s')) : (x >>= f).run s = (f a).run s' := run_bind_of_eq h

theorem run_get_bind (f : Reading → Parse β) (s : Reading) : (get >>= f).run s = (f s).run s := rfl

/-- What two readers read one after the other. -/
theorem run_bind_eq_ok_iff {x : Parse α} {f : α → Parse β} {s final : Reading} {b : β} :
    (x >>= f).run s = .ok (b, final) ↔
      ∃ a s', x.run s = .ok (a, s') ∧ (f a).run s' = .ok (b, final) := by
  rw [StateT.run_bind]
  cases h : x.run s with
  | error e => exact iff_of_false (by rintro ⟨⟩) (by rintro ⟨_, _, ⟨⟩, _⟩)
  | ok found =>
    constructor
    · exact fun hf => ⟨found.1, found.2, rfl, hf⟩
    · rintro ⟨_, _, hfound, hf⟩
      cases hfound
      exact hf

theorem run_peek (s : Reading) :
    peek.run s = .ok ((dropJoined s.rest).2.head?,
      { s with rest := (dropJoined s.rest).2, line := s.line + (dropJoined s.rest).1 }) := rfl

theorem run_skip (s : Reading) :
    skip.run s = .ok ((), { s with
      rest := s.rest.tail, line := if s.rest.head? = some '\n' then s.line + 1 else s.line }) := rfl

theorem run_takeWhile (p : Char → Bool) (s : Reading) :
    (Parse.takeWhile p).run s = .ok (String.ofList (s.rest.takeWhile p), { s with
      rest := s.rest.dropWhile p, line := s.line + (s.rest.takeWhile p).count '\n' }) := by
  have hdrop : (s.rest.takeWhile p ++ s.rest.dropWhile p).drop (s.rest.takeWhile p).length =
      s.rest.dropWhile p := List.drop_left
  rw [List.takeWhile_append_dropWhile] at hdrop
  rw [← hdrop]
  rfl

/-- Lines are joined by a backslash at the end of one, and nothing else is dropped for it. -/
theorem dropJoined_cases (cs : List Char) :
    dropJoined cs = (0, cs) ∨ (dropJoined cs).2.length < cs.length := by
  fun_induction dropJoined cs with
  | case1 cs n rest hrest ih =>
    right
    rw [hrest] at ih
    rcases ih with ih | ih
    · obtain ⟨-, rfl⟩ := Prod.mk.inj ih
      grind
    · grind
  | case2 cs h => exact .inl rfl

theorem dropJoined_of_head {cs : List Char} (h : cs.head? ≠ some '\\') : dropJoined cs = (0, cs) := by
  fun_cases dropJoined cs with
  | case1 cs => exact absurd rfl h
  | case2 cs hother => rfl

end Parse

open Parse

/-! ### Characters that stand for themselves -/

/-- The characters that take the meaning from others, or put what a command writes in their place. -/
def isQuoting (c : Char) : Bool := "\\\x27\x22\x60".toList.contains c

/-- Whether a dollar sign before a character means something. -/
def startsExpansion (c : Char) : Bool := c == '(' || c == '\x7b' || startsName c || isSpecial c

/-- **Whether characters in a word stand for themselves**: none of them ends the word or quotes, and
what follows a dollar sign among them gives it no meaning. -/
def standsForItself : List Char → Bool
  | [] => true
  | c :: cs =>
    !endsWord c && !isQuoting c && !(c == '$' && cs.head?.any startsExpansion) && standsForItself cs

/-- The word of characters that stand for themselves. -/
def literalWord (cs : List Char) : Word :=
  if cs.isEmpty then [] else [.literal false (String.ofList cs)]

/-- A character of a run that goes on in one piece. -/
def isInert (c : Char) : Bool := !(isMeaningful c || endsWord c)

theorem isMeaningful_of_isQuoting {c : Char} (h : isQuoting c = true) : isMeaningful c = true := by
  have hall : "\\\x27\x22\x60".toList.all isMeaningful = true := by decide
  exact List.all_eq_true.mp hall c (List.contains_iff_mem.mp h)

theorem eq_of_isMeaningful {c : Char} (h : isMeaningful c = true) (hends : endsWord c = false)
    (hquoting : isQuoting c = false) : c = '$' ∨ c = '\x7d' := by
  have hall : "\\\x27\x22$\x60\x7d()\n".toList.all
      (fun c => endsWord c || isQuoting c || c == '$' || c == '\x7d') = true := by decide
  have hc := List.all_eq_true.mp hall c (List.contains_iff_mem.mp h)
  simpa [hends, hquoting] using hc

theorem isInert_iff {c : Char} : isInert c = true ↔ isMeaningful c = false ∧ endsWord c = false := by
  simp [isInert]

theorem isInert_of_isSeparator {c : Char} (h : isSeparator c = true) : isInert c = false := by
  rw [isInert, endsWord, h, Bool.true_or, Bool.true_or, Bool.or_true]
  rfl

theorem standsForItself_append {inert cs : List Char} (h : ∀ c ∈ inert, isInert c = true) :
    standsForItself (inert ++ cs) = standsForItself cs := by
  induction inert with
  | nil => rfl
  | cons c inert ih =>
    obtain ⟨hc, hinert⟩ := List.forall_mem_cons.mp h
    obtain ⟨hmeaning, hends⟩ := isInert_iff.mp hc
    have hquoting : isQuoting c = false := by
      by_contra hquoting
      rw [isMeaningful_of_isQuoting (by simpa using hquoting)] at hmeaning
      cases hmeaning
    have hdollar : c ≠ '$' := by
      rintro rfl
      exact absurd hmeaning (by decide)
    rw [List.cons_append, standsForItself, hends, hquoting, ih hinert, beq_false_of_ne hdollar]
    rfl

theorem cons_literalWord {first cs : List Char} (h : first ≠ []) :
    Word.cons (.literal false (String.ofList first)) (literalWord cs) = literalWord (first ++ cs) := by
  cases cs with
  | nil => simp [literalWord, Word.cons, h]
  | cons c cs => simp [literalWord, Word.cons, h]

/-! ### Reading a word, a piece at a time -/

variable {commands : Parse Command} {fuel : Nat} {s : Reading} {c : Char} {cs after : List Char}

theorem run_peek_of_eq (hrest : s.rest = cs) (h : dropJoined cs = (0, cs)) :
    peek.run s = .ok (cs.head?, s) := by
  subst hrest
  rw [run_peek, h]
  rfl

/-- The characters up to one that means something are read at once. -/
theorem run_scanPieces_inert {inert more : List Char} (hrest : s.rest = inert ++ more)
    (hne : inert ≠ []) (hall : ∀ c ∈ inert, isInert c = true)
    (hstop : ∀ c ∈ more.head?, isInert c = false) :
    (scanPieces commands (fuel + 1) false .word).run s =
      (scanPieces commands fuel false .word >>= fun w => pure
        (Word.cons (.literal false (String.ofList inert)) w)).run { s with rest := more } := by
  obtain ⟨c, cs, rfl⟩ := List.exists_cons_of_ne_nil hne
  obtain ⟨hmeaning, hends⟩ := isInert_iff.mp (hall c List.mem_cons_self)
  have hjoined : dropJoined (c :: cs ++ more) = (0, c :: cs ++ more) := by
    refine dropJoined_of_head ?_
    rintro ⟨⟩
    exact absurd hmeaning (by decide)
  have hlines : (c :: cs).count '\n' = 0 :=
    List.count_eq_zero.mpr fun hmem => absurd (hall _ hmem) (by decide)
  have htake : (Parse.takeWhile isInert).run s =
      .ok (String.ofList (c :: cs), { s with rest := more }) := by
    obtain ⟨htake, hdrop⟩ := Text.span_append_of_head hall hstop
    rw [run_takeWhile, hrest, htake, hdrop, hlines]
    rfl
  rw [scanPieces, run_bind_of_eq (run_peek_of_eq hrest hjoined)]
  simp only [List.cons_append, List.head?_cons, hends, hmeaning, Bool.and_false, Bool.false_eq_true,
    if_false, Bool.not_false, if_true, beq_self_eq_true, Bool.true_and]
  exact run_bind_of_eq htake

/-- A word ends at a character that ends it. -/
theorem run_scanPieces_ended (hrest : s.rest = cs) (hjoined : dropJoined cs = (0, cs))
    (h : ∀ c ∈ cs.head?, endsWord c = true) :
    (scanPieces commands (fuel + 1) false .word).run s = .ok ([], s) := by
  rw [scanPieces, run_bind_of_eq (run_peek_of_eq hrest hjoined)]
  cases cs with
  | nil => rfl
  | cons c cs =>
    simp only [List.head?_cons, h c rfl]
    rfl

/-- A closing brace is a character like others in a word. -/
theorem run_scanPieces_brace (hrest : s.rest = '\x7d' :: cs) :
    (scanPieces commands (fuel + 1) false .word).run s =
      (scanPieces commands fuel false .word >>= fun w => pure
        (Word.cons (.literal false "\x7d") w)).run { s with rest := cs } := by
  have hskip : skip.run s = .ok ((), { s with rest := cs }) := by
    rw [run_skip, hrest]
    rfl
  rw [scanPieces, run_bind_of_eq (run_peek_of_eq hrest (dropJoined_of_head (by simp)))]
  exact run_bind_of_eq hskip

theorem run_scanPieces_dollar (hrest : s.rest = '$' :: cs) :
    (scanPieces commands (fuel + 1) false .word).run s =
      (scanDollar commands fuel false >>= fun piece =>
        scanPieces commands fuel false .word >>= fun w => pure (Word.cons piece w)).run
        { s with rest := cs } := by
  have hskip : skip.run s = .ok ((), { s with rest := cs }) := by
    rw [run_skip, hrest]
    rfl
  rw [scanPieces, run_bind_of_eq (run_peek_of_eq hrest (dropJoined_of_head (by simp)))]
  exact run_bind_of_eq hskip

/-- A dollar sign that nothing gives a meaning to. -/
theorem run_scanDollar_idle (hrest : s.rest = cs) (hjoined : dropJoined cs = (0, cs))
    (h : ∀ c ∈ cs.head?, startsExpansion c = false) :
    (scanDollar commands (fuel + 1) false).run s = .ok (.literal false "$", s) := by
  rw [scanDollar, run_bind_of_eq (run_peek_of_eq hrest hjoined)]
  cases cs with
  | nil => rfl
  | cons c cs =>
    have hc := h c rfl
    simp only [startsExpansion, Bool.or_eq_false_iff, beq_eq_false_iff_ne] at hc
    simp only [List.head?_cons, hc.1.1.1, hc.1.1.2, hc.1.2, hc.2]
    rfl

/-! ### Words that do not stand for themselves -/

/-- A reader ensures something of what it reads. -/
def Parse.Ensures {α : Type} (x : Parse α) (P : α → Prop) : Prop :=
  ∀ ⦃s a s'⦄, x.run s = .ok (a, s') → P a

theorem Parse.Ensures.pure {α : Type} {P : α → Prop} {a : α} (h : P a) :
    Parse.Ensures (pure a : Parse α) P := by
  intro s b s' hrun
  cases hrun
  exact h

theorem Parse.Ensures.bind {α β : Type} {P : β → Prop} {x : Parse α} {f : α → Parse β}
    (h : ∀ a, Parse.Ensures (f a) P) : Parse.Ensures (x >>= f) P := by
  intro s b s' hrun
  obtain ⟨a, middle, -, hf⟩ := run_bind_eq_ok_iff.mp hrun
  exact h a hf

theorem Parse.Ensures.fail {α β : Type} {P : β → Prop} {fault : SyntaxFault} {f : α → Parse β} :
    Parse.Ensures ((fail fault : Parse α) >>= f) P := by
  intro s b s' hrun
  obtain ⟨a, middle, hfail, -⟩ := run_bind_eq_ok_iff.mp hrun
  cases hfail

/-- A piece that is not a text as it stands. -/
def Piece.IsMarked (piece : Piece) : Prop := ∀ text, piece ≠ .literal false text

/-- A word whose first piece is not a text as it stands. -/
def Word.StartsMarked (w : Word) : Prop := ∃ piece rest, w = piece :: rest ∧ piece.IsMarked

theorem Word.startsMarked_cons {piece : Piece} (h : piece.IsMarked) (w : Word) :
    (Word.cons piece w).StartsMarked := by
  unfold Word.cons
  split
  · next p text q text' rest =>
    have hp : p = true := by
      cases p with
      | false => exact absurd rfl (h text)
      | true => rfl
    split
    · exact ⟨_, _, rfl, by rintro text ⟨⟩; cases hp⟩
    · exact ⟨_, _, rfl, h⟩
  · exact ⟨_, _, rfl, h⟩

/-- What stands between braces after a dollar sign is a parameter. -/
theorem scanBraces_isMarked (commands : Parse Command) (fuel : Nat) (quoted : Bool) :
    Parse.Ensures (scanBraces commands (fuel + 1) quoted) Piece.IsMarked := by
  have hparameter : ∀ name expansion,
      Parse.Ensures (pure (Piece.parameter quoted name expansion) : Parse Piece) Piece.IsMarked :=
    fun name expansion => .pure (by rintro text ⟨⟩)
  rw [scanBraces]
  refine .bind fun ⟨name, isLength⟩ => ?_
  dsimp only
  split
  · exact .bind fun _ => hparameter _ _
  split
  · exact .bind fun _ => .bind fun _ => hparameter _ _
  refine .bind fun closed => ?_
  split
  · exact hparameter _ _
  refine .bind fun orEmpty => .bind fun next => ?_
  split
  · exact .bind fun _ => hparameter _ _
  split
  · exact .bind fun _ => .bind fun _ => hparameter _ _
  split
  · exact .bind fun _ => .bind fun _ => .bind fun _ => hparameter _ _
  split
  · exact .bind fun _ => .bind fun _ => hparameter _ _
  · exact .bind fun _ => .bind fun _ => hparameter _ _

/-- A dollar sign with a meaning is not a text. -/
theorem isMarked_of_scanDollar {piece : Piece} {s' : Reading} (hrest : s.rest = c :: cs)
    (hjoined : dropJoined (c :: cs) = (0, c :: cs)) (hc : startsExpansion c = true)
    (hrun : (scanDollar commands (fuel + 2) false).run s = .ok (piece, s')) : piece.IsMarked := by
  have hmarked : ∀ piece : Piece, (∀ text, piece ≠ .literal false text) →
      Parse.Ensures (pure piece : Parse Piece) Piece.IsMarked := fun piece h => .pure h
  rw [scanDollar, run_bind_of_eq (run_peek_of_eq hrest hjoined)] at hrun
  refine (?_ : Parse.Ensures _ Piece.IsMarked) hrun
  simp only [List.head?_cons]
  split
  · refine .bind fun _ => .bind fun doubled => ?_
    split
    · exact .bind fun _ => hmarked _ (by rintro text ⟨⟩)
    · exact .bind fun _ => hmarked _ (by rintro text ⟨⟩)
  split
  · exact .bind fun _ => scanBraces_isMarked commands fuel false
  split
  · exact .bind fun _ => hmarked _ (by rintro text ⟨⟩)
  split
  · exact .bind fun _ => hmarked _ (by rintro text ⟨⟩)
  · next hparenthesis hbrace hname hspecial =>
    simp [startsExpansion, hparenthesis, hbrace, hname, hspecial] at hc

/-- A quoting character is none of the word that it begins. -/
theorem startsMarked_of_isQuoting {w : Word} {s' : Reading} (hrest : s.rest = c :: cs)
    (hjoined : dropJoined (c :: cs) = (0, c :: cs)) (hc : isQuoting c = true)
    (hrun : (scanPieces commands (fuel + 2) false .word).run s = .ok (w, s')) :
    w.StartsMarked := by
  have hquotes : ∀ w : Word, Word.StartsMarked (.quotes :: w) :=
    fun w => ⟨_, _, rfl, by rintro text ⟨⟩⟩
  have hmeaning := isMeaningful_of_isQuoting hc
  have hcases : c = '\\' ∨ c = '\x27' ∨ c = '\x22' ∨ c = '\x60' := by simpa [isQuoting] using hc
  have hends : endsWord c = false := by
    obtain rfl | rfl | rfl | rfl := hcases
    all_goals decide
  rw [scanPieces, run_bind_of_eq (run_peek_of_eq hrest hjoined)] at hrun
  refine (?_ : Parse.Ensures _ Word.StartsMarked) hrun
  simp only [List.head?_cons, hends, hmeaning, Bool.and_false, Bool.false_eq_true, if_false,
    Bool.not_true]
  refine .bind fun _ => ?_
  obtain rfl | rfl | rfl | rfl := hcases
  · refine .bind fun reading => ?_
    split
    · exact .bind fun _ => .pure (Word.startsMarked_cons (by rintro text ⟨⟩) _)
    · exact .bind fun _ => .bind fun _ => .pure (Word.startsMarked_cons (by rintro text ⟨⟩) _)
  · refine .bind fun text => .bind fun reading => ?_
    split
    · exact .fail
    · exact .bind fun _ => .bind fun _ => .pure (hquotes _)
  · rw [quotedRun]
    refine .bind fun inner => .bind fun rest => ?_
    split
    · exact .pure ⟨_, _, rfl, by rintro text ⟨⟩⟩
    · exact .pure (hquotes _)
  · exact .bind fun body => .bind fun rest => .pure ⟨_, _, rfl, by rintro text ⟨⟩⟩

/-! ### Reading a whole word -/

/-- A word that is a text as it stands, or nothing. -/
def Word.IsText (w : Word) (cs : List Char) : Prop :=
  w = [] ∧ cs = [] ∨ w = [.literal false (String.ofList cs)]

theorem Word.StartsMarked.not_isText {w : Word} (h : w.StartsMarked) : ¬w.IsText cs := by
  obtain ⟨piece, rest, rfl, hpiece⟩ := h
  rintro (⟨hnil, -⟩ | htext)
  · cases hnil
  · exact hpiece _ (List.cons.inj htext).1

/-- What follows a text in a word that is a text is one as well. -/
theorem Word.IsText.of_cons {first : List Char} {w : Word}
    (h : (Word.cons (.literal false (String.ofList first)) w).IsText cs) :
    ∃ more, w.IsText more ∧ cs = first ++ more := by
  cases w with
  | nil =>
    obtain ⟨hnil, -⟩ | htext := h
    · cases hnil
    · simp only [Word.cons, List.cons.injEq, Piece.literal.injEq, String.ofList_inj] at htext
      exact ⟨[], .inl ⟨rfl, rfl⟩, by rw [List.append_nil, ← htext.1.2]⟩
  | cons piece rest =>
    obtain ⟨hnil, -⟩ | htext := h
    · rcases piece with ⟨_ | _, _⟩ | _ | _ | _ | _ <;> simp [Word.cons] at hnil
    · rcases piece with ⟨_ | _, text⟩ | _ | _ | _ | _ <;> simp [Word.cons] at htext
      obtain ⟨hjoined, rfl⟩ := htext
      refine ⟨text.toList, .inr (by rw [String.ofList_toList]), ?_⟩
      rw [← String.toList_ofList (l := cs), ← hjoined, String.toList_append, String.toList_ofList]

/-- Nothing joins lines where the characters stand for themselves. -/
theorem dropJoined_of_standsForItself (hcs : standsForItself cs = true)
    (hafter : ∀ c ∈ after.head?, isSeparator c = true) :
    dropJoined (cs ++ after) = (0, cs ++ after) := by
  refine dropJoined_of_head fun hhead => ?_
  cases cs with
  | nil => exact absurd (hafter '\\' hhead) (by decide)
  | cons c cs =>
    obtain rfl := Option.some.inj hhead
    rw [standsForItself, show isQuoting '\\' = true by decide] at hcs
    simp at hcs

/-- **A round reads the front** of what stands for itself. -/
theorem exists_run_scanPieces (commands : Parse Command) (fuel : Nat)
    (hrest : s.rest = c :: cs ++ after) (hcs : standsForItself (c :: cs) = true)
    (hafter : ∀ c ∈ after.head?, isSeparator c = true) :
    ∃ first more, first ≠ [] ∧ c :: cs = first ++ more ∧ standsForItself more = true ∧
      (scanPieces commands (fuel + 2) false .word).run s =
        (scanPieces commands (fuel + 1) false .word >>= fun w => pure
          (Word.cons (.literal false (String.ofList first)) w)).run
          { s with rest := more ++ after } := by
  have hwhole := hcs
  simp only [standsForItself, Bool.and_eq_true, Bool.not_eq_true'] at hcs
  obtain ⟨⟨⟨hends, hquoting⟩, hdollar⟩, hmore⟩ := hcs
  by_cases hmeaning : isMeaningful c = true
  · obtain rfl | rfl := eq_of_isMeaningful hmeaning hends hquoting
    · have hidle : ∀ c ∈ (cs ++ after).head?, startsExpansion c = false := by
        intro d hd
        cases cs with
        | nil =>
          have hsep := hafter d hd
          rw [isSeparator, Bool.or_eq_true, beq_iff_eq, beq_iff_eq] at hsep
          obtain rfl | rfl := hsep <;> decide
        | cons e cs =>
          obtain rfl := Option.some.inj hd
          simpa using hdollar
      refine ⟨['$'], cs, List.cons_ne_nil _ _, rfl, hmore, ?_⟩
      rw [run_scanPieces_dollar hrest,
        run_bind_of_eq (run_scanDollar_idle rfl (dropJoined_of_standsForItself hmore hafter) hidle)]
      rfl
    · exact ⟨['\x7d'], cs, List.cons_ne_nil _ _, rfl, hmore, run_scanPieces_brace hrest⟩
  · have hinert : isInert c = true := isInert_iff.mpr ⟨by simpa using hmeaning, hends⟩
    obtain ⟨inert, more, hsplit, hne, hall, hhead⟩ := Text.exists_run_append hinert cs
    have hstop : ∀ d ∈ (more ++ after).head?, isInert d = false := by
      intro d hd
      cases more with
      | nil => exact isInert_of_isSeparator (hafter d hd)
      | cons e more => exact hhead d hd
    have hmore : standsForItself more = true := by
      rwa [← standsForItself_append hall, ← hsplit]
    rw [hsplit, List.append_assoc] at hrest
    exact ⟨inert, more, hne, hsplit, hmore, run_scanPieces_inert hrest hne hall hstop⟩

/-- **A word that stands for itself is read as it stands.** -/
theorem run_scanPieces_of_standsForItself (hrest : s.rest = cs ++ after)
    (hcs : standsForItself cs = true) (hafter : ∀ c ∈ after.head?, isSeparator c = true)
    (hfuel : cs.length < fuel) :
    (scanPieces commands fuel false .word).run s = .ok (literalWord cs, { s with rest := after }) := by
  -- the fuel outlasts the characters, of which each round takes one at least
  induction fuel generalizing s cs with
  | zero => omega
  | succ fuel ih =>
    cases cs with
    | nil =>
      have hends : ∀ c ∈ after.head?, endsWord c = true := by
        intro c hc
        rw [endsWord, hafter c hc]
        rfl
      have hsame : s = { s with rest := after } := by rw [← show s.rest = after from hrest]
      rw [run_scanPieces_ended hrest (dropJoined_of_standsForItself rfl hafter) hends, ← hsame]
      rfl
    | cons c cs =>
      obtain ⟨fuel, rfl⟩ : ∃ k, fuel = k + 1 :=
        Nat.exists_eq_succ_of_ne_zero (by rw [List.length_cons] at hfuel; omega)
      obtain ⟨first, more, hne, hsplit, hmore, hround⟩ :=
        exists_run_scanPieces commands fuel hrest hcs hafter
      have hlength := congrArg List.length hsplit
      rw [List.length_append] at hlength
      have hpos := List.length_pos_iff.mpr hne
      rw [hround, run_bind_of_eq (ih rfl hmore (by omega)), hsplit]
      exact congrArg (fun w => Except.ok (w, _)) (cons_literalWord hne)

theorem dropJoined_idem (cs : List Char) :
    dropJoined (dropJoined cs).2 = (0, (dropJoined cs).2) := by
  fun_induction dropJoined cs with
  | case1 cs n rest hrest ih =>
    rw [hrest] at ih
    exact ih
  | case2 cs h => exact dropJoined.eq_2 cs h

/-- Reading begins where joined lines have been passed. -/
theorem run_scanPieces_joined (commands : Parse Command) (fuel : Nat) (s : Reading) :
    (scanPieces commands (fuel + 1) false .word).run s =
      (scanPieces commands (fuel + 1) false .word).run
        { s with rest := (dropJoined s.rest).2, line := s.line + (dropJoined s.rest).1 } := by
  rw [scanPieces, run_bind_of_eq (run_peek s),
    run_bind_of_eq (run_peek_of_eq rfl (dropJoined_idem s.rest))]

theorem run_scanDollar_joined (commands : Parse Command) (fuel : Nat) (s : Reading) :
    (scanDollar commands (fuel + 1) false).run s =
      (scanDollar commands (fuel + 1) false).run
        { s with rest := (dropJoined s.rest).2, line := s.line + (dropJoined s.rest).1 } := by
  rw [scanDollar, run_bind_of_eq (run_peek s),
    run_bind_of_eq (run_peek_of_eq rfl (dropJoined_idem s.rest))]

/-- A dollar sign has a meaning, or stands for itself before what gives it none. -/
theorem scanDollar_cases {piece : Piece} {s' : Reading} (hfuel : s.rest.length < fuel)
    (hrun : (scanDollar commands fuel false).run s = .ok (piece, s')) :
    piece.IsMarked ∨ piece = .literal false "$" ∧ s'.rest = (dropJoined s.rest).2 ∧
      ∀ c ∈ s'.rest.head?, startsExpansion c = false := by
  obtain ⟨fuel, rfl⟩ := Nat.exists_eq_succ_of_ne_zero (Nat.ne_zero_of_lt hfuel)
  have hidem := dropJoined_idem s.rest
  have hlength : (dropJoined s.rest).2.length ≤ s.rest.length := by
    obtain h | h := dropJoined_cases s.rest
    · rw [h]
    · exact h.le
  rw [Nat.succ_eq_add_one, run_scanDollar_joined] at hrun
  by_cases hhead : ∀ c ∈ (dropJoined s.rest).2.head?, startsExpansion c = false
  · rw [run_scanDollar_idle rfl hidem hhead] at hrun
    cases hrun
    exact .inr ⟨rfl, rfl, hhead⟩
  · simp only [not_forall] at hhead
    obtain ⟨c, hc, hmeaning⟩ := hhead
    obtain ⟨cs, hcs⟩ := List.head?_eq_some_iff.mp hc
    rw [hcs] at hidem hlength
    rw [List.length_cons] at hlength
    obtain ⟨fuel, rfl⟩ := Nat.exists_eq_succ_of_ne_zero (by omega : fuel ≠ 0)
    exact .inl (isMarked_of_scanDollar hcs hidem (by simpa using hmeaning) hrun)

/-- Where the characters of a text went: some of them were read as they stand and the others are
left, unless characters got lost. -/
def Accounts (text read left : List Char) : Prop :=
  text = read ++ left ∧ standsForItself read = true ∨ read.length + left.length < text.length

theorem Accounts.of_length_lt {text shorter read left : List Char} (h : Accounts shorter read left)
    (hless : shorter.length < text.length) : Accounts text read left := by
  obtain ⟨hshorter, -⟩ | hless' := h
  · rw [hshorter, List.length_append] at hless
    exact .inr hless
  · exact .inr (hless'.trans hless)

/-- **A round reads `first` as it stands** from a text, and leaves the rest of it, from which joined
lines may have been dropped. -/
structure ReadsFirst (text first left : List Char) : Prop where
  ne_nil : first ≠ []
  kept : text = first ++ left ∨ first.length + left.length < text.length
  stands : ∀ {read more}, left = read ++ more → standsForItself (first ++ read) = standsForItself read

theorem ReadsFirst.length_lt {text first left : List Char} (h : ReadsFirst text first left) :
    left.length < text.length := by
  have hpos := List.length_pos_iff.mpr h.ne_nil
  obtain htext | hless := h.kept
  · rw [htext, List.length_append]
    omega
  · omega

theorem ReadsFirst.accounts {text first middle read left : List Char}
    (h : ReadsFirst text first middle) (hread : Accounts middle read left) :
    Accounts text (first ++ read) left := by
  obtain htext | hless := h.kept
  · obtain ⟨hmiddle, hstands⟩ | hless := hread
    · exact .inl ⟨by rw [htext, hmiddle, List.append_assoc], by rw [h.stands hmiddle, hstands]⟩
    · refine .inr ?_
      rw [htext, List.length_append, List.length_append]
      omega
  · refine .inr ?_
    rw [List.length_append]
    obtain ⟨hmiddle, -⟩ | hless' := hread
    · rw [hmiddle, List.length_append] at hless
      omega
    · omega

/-- **What a round of reading a word does**: it ends the word, reads a piece that is no text, or reads
a text as it stands. -/
theorem scanPieces_cases {w : Word} {s' : Reading} (hfuel : s.rest.length < fuel + 1)
    (hjoined : dropJoined s.rest = (0, s.rest))
    (hrun : (scanPieces commands (fuel + 1) false .word).run s = .ok (w, s')) :
    w = [] ∧ s' = s ∨ w.StartsMarked ∨
      ∃ first more middle, w = Word.cons (.literal false (String.ofList first)) more ∧
        ReadsFirst s.rest first middle.rest ∧
        (scanPieces commands fuel false .word).run middle = .ok (more, s') := by
  by_cases hended : ∀ c ∈ s.rest.head?, endsWord c = true
  · rw [run_scanPieces_ended rfl hjoined hended] at hrun
    cases hrun
    exact .inl ⟨rfl, rfl⟩
  refine .inr ?_
  simp only [not_forall] at hended
  obtain ⟨c, hc, hends⟩ := hended
  obtain ⟨rest, hrest⟩ := List.head?_eq_some_iff.mp hc
  rw [hrest] at hfuel hjoined ⊢
  rw [List.length_cons] at hfuel
  rw [Bool.not_eq_true] at hends
  by_cases hquoting : isQuoting c = true
  · obtain ⟨fuel, rfl⟩ := Nat.exists_eq_succ_of_ne_zero (by omega : fuel ≠ 0)
    exact .inl (startsMarked_of_isQuoting hrest hjoined hquoting hrun)
  rw [Bool.not_eq_true] at hquoting
  by_cases hmeaning : isMeaningful c = true
  · obtain rfl | rfl := eq_of_isMeaningful hmeaning hends hquoting
    · rw [run_scanPieces_dollar hrest] at hrun
      obtain ⟨piece, middle, hdollar, hrun⟩ := run_bind_eq_ok_iff.mp hrun
      obtain ⟨more, final, hmore, hcons⟩ := run_bind_eq_ok_iff.mp hrun
      cases hcons
      obtain hmarked | ⟨rfl, hmiddle, hidle⟩ := scanDollar_cases (by simpa using hfuel) hdollar
      · exact .inl (Word.startsMarked_cons hmarked more)
      refine .inr ⟨['$'], more, middle, rfl, ⟨List.cons_ne_nil _ _, ?_, fun {read after} hread => ?_⟩,
        hmore⟩
      · rw [show middle.rest = (dropJoined rest).2 from hmiddle]
        obtain hsame | hless := dropJoined_cases rest
        · rw [hsame]
          exact .inl rfl
        · refine .inr ?_
          rw [List.length_singleton, List.length_cons]
          omega
      · have hnone : read.head?.any startsExpansion = false := by
          cases read with
          | nil => rfl
          | cons d read => exact hidle d (by rw [hread]; rfl)
        rw [List.singleton_append, standsForItself, hnone]
        rfl
    · rw [run_scanPieces_brace hrest] at hrun
      obtain ⟨more, final, hmore, hcons⟩ := run_bind_eq_ok_iff.mp hrun
      cases hcons
      exact .inr ⟨['\x7d'], more, _, rfl, ⟨List.cons_ne_nil _ _, .inl rfl, fun _ => rfl⟩, hmore⟩
  · have hinert : isInert c = true := isInert_iff.mpr ⟨by simpa using hmeaning, hends⟩
    obtain ⟨inert, left, hsplit, hne, hall, hstop⟩ := Text.exists_run_append hinert rest
    rw [run_scanPieces_inert (hrest.trans hsplit) hne hall hstop] at hrun
    obtain ⟨more, final, hmore, hcons⟩ := run_bind_eq_ok_iff.mp hrun
    cases hcons
    exact .inr ⟨inert, more, _, rfl,
      ⟨hne, .inl hsplit, fun _ => standsForItself_append hall⟩, hmore⟩

/-- **Only a word that stands for itself is read as it stands**; where lines are joined in it, it
loses characters. -/
theorem accounts_of_isText {w : Word} {s' : Reading} (hfuel : s.rest.length < fuel)
    (hrun : (scanPieces commands fuel false .word).run s = .ok (w, s')) (hw : w.IsText cs) :
    Accounts s.rest cs s'.rest := by
  induction fuel generalizing s w cs with
  | zero => omega
  | succ fuel ih =>
    -- joined lines are passed first, and make the text shorter
    suffices hplain : ∀ {s : Reading}, s.rest.length < fuel + 1 → dropJoined s.rest = (0, s.rest) →
        (scanPieces commands (fuel + 1) false .word).run s = .ok (w, s') →
        Accounts s.rest cs s'.rest by
      obtain hjoined | hless := dropJoined_cases s.rest
      · exact hplain hfuel hjoined hrun
      · rw [run_scanPieces_joined] at hrun
        exact (hplain (hless.trans hfuel) (dropJoined_idem s.rest) hrun).of_length_lt hless
    intro s hfuel hjoined hrun
    obtain ⟨rfl, rfl⟩ | hmarked | ⟨first, more, middle, rfl, hfirst, hmore⟩ :=
      scanPieces_cases hfuel hjoined hrun
    · obtain ⟨-, rfl⟩ | hnone := hw
      · exact .inl ⟨rfl, rfl⟩
      · cases hnone
    · exact absurd hw hmarked.not_isText
    · obtain ⟨read, hread, rfl⟩ := hw.of_cons
      have hless := hfirst.length_lt
      exact hfirst.accounts (ih (by omega) hmore hread)

end ArtifactPipeline.Shell
