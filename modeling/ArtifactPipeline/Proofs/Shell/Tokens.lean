import ArtifactPipeline.Proofs.Shell.Literals
import ArtifactPipeline.Proofs.Text.Words

/-!
# The words of a text for the shell

The shell reads a text token by token (`Tokens`). Where words that stand for themselves come first,
with blanks between them, these are the first tokens, and what is left is read as if it stood alone
(`tokens_words_append_iff`). A text is one such token, and nothing else, exactly if it is a bare word
(`tokens_singleton_iff`): not empty, no comment, and of characters that stand for themselves.
-/

namespace ArtifactPipeline.Shell

open Parse

variable {commands : Parse Command} {s s' : Reading} {c : Char} {cs after : List Char} {t : Token}
  {ts : List Token} {w : Word}

/-! ### Blanks and comments before a token -/

theorem eq_of_isSeparator (h : isSeparator c = true) : c = ' ' ∨ c = '\t' := by
  rwa [isSeparator, Bool.or_eq_true, beq_iff_eq, beq_iff_eq] at h

theorem dropBlanks_cons_of_isSeparator (h : isSeparator c = true) (cs : List Char) :
    dropBlanks (c :: cs) = dropBlanks cs := by
  obtain rfl | rfl := eq_of_isSeparator h <;> rfl

theorem dropBlanks_cases (cs : List Char) :
    dropBlanks cs = (0, cs) ∨ (dropBlanks cs).2.length < cs.length := by
  fun_induction dropBlanks cs with
  | case1 cs ih | case2 cs ih =>
    right
    obtain h | h := ih
    · rw [h]
      exact Nat.lt_succ_self _
    · exact h.trans (Nat.lt_succ_self _)
  | case3 cs n rest hrest ih =>
    rw [hrest] at ih
    right
    obtain h | h := ih
    · rw [(Prod.mk.inj h).2]
      simp only [List.length_cons]
      omega
    · simp only [List.length_cons] at h ⊢
      omega
  | case4 cs => exact .inl rfl

theorem dropBlanks_of_head (hsep : ∀ c ∈ cs.head?, isSeparator c = false)
    (h : cs.head? ≠ some '\\') : dropBlanks cs = (0, cs) := by
  fun_cases dropBlanks cs with
  | case1 | case2 => exact absurd (hsep _ rfl) (by decide)
  | case3 => exact absurd rfl h
  | case4 => rfl

/-- The text from a token on: blanks before it are dropped, and so is a comment in its place. -/
def fromToken (cs : List Char) : List Char :=
  let rest := (dropBlanks cs).2
  if rest.head? = some '#' then rest.dropWhile (· != '\n') else rest

/-- A reading that has come to a token. -/
def Reading.toToken (s : Reading) : Reading :=
  { s with rest := fromToken s.rest, line := s.line + (dropBlanks s.rest).1 }

/-- Coming to a token leaves the text as it is, if neither a blank nor a comment stands there, and
takes characters from it otherwise. -/
theorem fromToken_cases (cs : List Char) :
    fromToken cs = cs ∧ cs.head? ≠ some '#' ∨ (fromToken cs).length < cs.length := by
  have hle : (dropBlanks cs).2.length ≤ cs.length := by
    obtain h | h := dropBlanks_cases cs
    · rw [h]
    · exact h.le
  unfold fromToken
  extract_lets rest
  split
  · next hcomment =>
    right
    obtain ⟨cs', hcs'⟩ := List.head?_eq_some_iff.mp hcomment
    have hdropped := (List.dropWhile_suffix (· != '\n') (l := cs')).length_le
    rw [show (dropBlanks cs).2 = '#' :: cs' from hcs', List.length_cons] at hle
    rw [hcs', List.dropWhile_cons_of_pos (by decide)]
    omega
  · next hcomment =>
    obtain h | h := dropBlanks_cases cs
    · have hsame : rest = cs := congrArg Prod.snd h
      exact .inl ⟨hsame, hsame ▸ hcomment⟩
    · exact .inr h

theorem run_scanToken_congr (h : s.toToken = s'.toToken) :
    (scanToken commands).run s = (scanToken commands).run s' := by
  rw [scanToken, run_bind_to () s.toToken rfl, run_bind_to () s'.toToken rfl, h]

/-! ### Bare words -/

/-- **A bare word**: it is not empty, begins no comment, and stands for itself. -/
structure IsBareWord (cs : List Char) : Prop where
  ne_nil : cs ≠ []
  no_comment : cs.head? ≠ some '#'
  stands : standsForItself cs = true

instance (cs : List Char) : Decidable (IsBareWord cs) :=
  decidable_of_iff (cs ≠ [] ∧ cs.head? ≠ some '#' ∧ standsForItself cs = true)
    ⟨fun h => ⟨h.1, h.2.1, h.2.2⟩, fun h => ⟨h.ne_nil, h.no_comment, h.stands⟩⟩

/-- The token of a word that is read as it stands. -/
def Token.ofText (cs : List Char) : Token := .word [.literal false (String.ofList cs)]

/-- The first character of a bare word neither separates words nor makes an operator. -/
theorem IsBareWord.head (h : IsBareWord cs) {c : Char} (hc : c ∈ cs.head?) :
    endsWord c = false ∧ isQuoting c = false := by
  obtain ⟨cs', rfl⟩ := List.head?_eq_some_iff.mp hc
  have hstands := h.stands
  simp only [standsForItself, Bool.and_eq_true, Bool.not_eq_true'] at hstands
  exact hstands.1.1

theorem IsBareWord.no_separator (h : IsBareWord cs) : ∀ c ∈ cs, isSeparator c = false := by
  have hall : ∀ cs, standsForItself cs = true → ∀ c ∈ cs, endsWord c = false := by
    intro cs
    induction cs with
    | nil => exact fun _ c hc => absurd hc List.not_mem_nil
    | cons d cs ih =>
      intro hcs c hc
      simp only [standsForItself, Bool.and_eq_true, Bool.not_eq_true'] at hcs
      rcases List.mem_cons.mp hc with rfl | hc
      · exact hcs.1.1.1
      · exact ih hcs.2 c hc
  intro c hc
  have hends := hall cs h.stands c hc
  rw [endsWord, Bool.or_eq_false_iff, Bool.or_eq_false_iff] at hends
  exact hends.1.1

/-- **A bare word is one token**, which ends where a blank or the end of the text follows. -/
theorem run_scanToken_of_isBareWord (hcs : IsBareWord cs) (hrest : s.rest = cs ++ after)
    (hafter : ∀ c ∈ after.head?, isSeparator c = true) :
    (scanToken commands).run s = .ok (.ofText cs, { s with rest := after }) := by
  obtain ⟨c, cs', rfl⟩ := List.exists_cons_of_ne_nil hcs.ne_nil
  obtain ⟨hends, hquoting⟩ := hcs.head rfl
  simp only [endsWord, Bool.or_eq_false_iff, beq_eq_false_iff_ne] at hends
  obtain ⟨⟨hsep, hline⟩, hoperator⟩ := hends
  have hblanks : dropBlanks (c :: cs' ++ after) = (0, c :: cs' ++ after) := by
    refine dropBlanks_of_head (fun d hd => Option.some.inj hd ▸ hsep) ?_
    rintro ⟨⟩
    exact absurd hquoting (by decide)
  have hcome : s.toToken = s := by
    rw [Reading.toToken, fromToken, hrest, hblanks]
    simp only
    rw [if_neg (show (c :: cs' ++ after).head? ≠ some '#' from hcs.no_comment), ← hrest]
    rfl
  have hredirects : ¬(c = '<' ∨ c = '>') := by
    rintro (rfl | rfl)
    · exact absurd hoperator (by decide)
    · exact absurd hoperator (by decide)
  rw [scanToken, run_bind_to () s.toToken rfl, hcome, run_get_bind, hrest]
  simp only [List.cons_append, hline, hredirects, hoperator, if_false, Bool.false_eq_true]
  have hword : (scanPieces commands (s.rest.length + 1) false .word).run s =
      .ok (literalWord (c :: cs'), { s with rest := after }) :=
    run_scanPieces_of_standsForItself hrest hcs.stands hafter
      (by rw [hrest, List.length_append]; omega)
  rw [run_get_bind, run_bind_of_eq hword, run_get_bind]
  -- only a redirection could take a word that is a digit
  cases after with
  | nil => rfl
  | cons d after =>
    obtain rfl | rfl := eq_of_isSeparator (hafter d rfl)
    · rfl
    · rfl

/-- The sign of a redirection is no word. -/
theorem scanRedirection_ne_word (channel : Option Nat) (c : Char) :
    Parse.Ensures (scanRedirection channel c) fun t => ∀ w, t ≠ .word w := by
  have hsign : ∀ text, Parse.Ensures (pure (Token.redirection channel text) : Parse Token)
      fun t => ∀ w, t ≠ .word w := fun text => .pure (by rintro w ⟨⟩)
  unfold scanRedirection
  extract_lets followers
  refine .bind fun next => ?_
  split
  · split
    · refine .bind fun _ => ?_
      extract_lets sign plain
      split
      · refine .bind fun dash => ?_
        split
        · exact hsign _
        · exact hsign _
      · exact hsign _
    · exact hsign _
  · exact hsign _

/-- A word is read where a token stands. -/
theorem exists_of_run_scanToken (hrun : (scanToken commands).run s = .ok (.word w, s')) :
    s.toToken.rest ≠ [] ∧
      (scanPieces commands (s.toToken.rest.length + 1) false .word).run s.toToken = .ok (w, s') := by
  rw [scanToken, run_bind_to () s.toToken rfl, run_get_bind] at hrun
  have hnot : ∀ {x : Parse Token}, Parse.Ensures x (fun t => ∀ w, t ≠ .word w) →
      x.run s.toToken ≠ .ok (.word w, s') := fun hx h => hx h w rfl
  have hsign : ∀ t : Token, (∀ w, t ≠ .word w) →
      Parse.Ensures (pure t : Parse Token) fun t => ∀ w, t ≠ .word w := fun t h => .pure h
  split at hrun
  · cases hrun
  · next c cs hrest =>
    refine ⟨by rw [hrest]; exact List.cons_ne_nil c cs, ?_⟩
    split at hrun
    · exact absurd hrun (hnot (.bind fun _ => hsign _ (by rintro w ⟨⟩)))
    split at hrun
    · exact absurd hrun (hnot (.bind fun _ => scanRedirection_ne_word _ _))
    split at hrun
    · refine absurd hrun (hnot (.bind fun _ => ?_))
      extract_lets single
      split
      · refine .bind fun doubled => ?_
        split
        · exact hsign _ (by rintro w ⟨⟩)
        · exact hsign _ (by rintro w ⟨⟩)
      · exact hsign _ (by rintro w ⟨⟩)
    · rw [run_get_bind] at hrun
      obtain ⟨w', middle, hpieces, hrun⟩ := run_bind_eq_ok_iff.mp hrun
      rw [run_get_bind] at hrun
      have hredirects : ∀ channel sign, ((skip >>= fun _ => scanRedirection channel sign).run middle) ≠
          .ok (.word w, s') := by
        intro channel sign h
        have hmarked : Parse.Ensures (skip >>= fun _ => scanRedirection channel sign)
            fun t => ∀ w, t ≠ .word w := .bind fun _ => scanRedirection_ne_word channel sign
        exact hmarked h w rfl
      split at hrun
      · exact absurd hrun (hredirects _ _)
      · exact absurd hrun (hredirects _ _)
      · cases hrun
        exact hpieces

/-- **Only a bare word is one token that is itself**, with nothing left after it. -/
theorem isBareWord_of_run_scanToken (hrest : s.rest = cs)
    (hrun : (scanToken commands).run s = .ok (.ofText cs, s')) : IsBareWord cs := by
  obtain ⟨hne, hpieces⟩ := exists_of_run_scanToken hrun
  have hread := accounts_of_isText (Nat.lt_succ_self _) hpieces (.inr rfl)
  rw [show s.toToken.rest = fromToken cs by rw [Reading.toToken, hrest]] at hne hread
  -- no character of the text is dropped before the token, since all of them are in it
  obtain ⟨hsame, hcomment⟩ | hless := fromToken_cases cs
  · rw [hsame] at hne hread
    obtain ⟨-, hstands⟩ | hless := hread
    · exact ⟨hne, hcomment, hstands⟩
    · omega
  · obtain ⟨hrest, -⟩ | hless' := hread
    · rw [hrest, List.length_append] at hless
      omega
    · omega

/-! ### The tokens of a text -/

/-- **The tokens of a text**, up to its end. -/
inductive Tokens (commands : Parse Command) : Reading → List Token → Prop
  | ended {s s' : Reading} (h : (scanToken commands).run s = .ok (.ended, s')) : Tokens commands s []
  | token {s s' : Reading} {t : Token} {ts : List Token} (ht : t ≠ .ended)
      (h : (scanToken commands).run s = .ok (t, s')) (hts : Tokens commands s' ts) :
      Tokens commands s (t :: ts)

theorem tokens_congr (h : s.toToken = s'.toToken) :
    Tokens commands s ts ↔ Tokens commands s' ts := by
  have hrun : (scanToken commands).run s = (scanToken commands).run s' := run_scanToken_congr h
  constructor
  · rintro (⟨hended⟩ | ⟨ht, htoken, hts⟩)
    · exact .ended (hrun ▸ hended)
    · exact .token ht (hrun ▸ htoken) hts
  · rintro (⟨hended⟩ | ⟨ht, htoken, hts⟩)
    · exact .ended (hrun.symm ▸ hended)
    · exact .token ht (hrun.symm ▸ htoken) hts

/-- A blank before a token does not count. -/
theorem tokens_cons_of_isSeparator (h : isSeparator c = true) (hrest : s.rest = c :: cs) :
    Tokens commands s ts ↔ Tokens commands { s with rest := cs } ts := by
  refine tokens_congr ?_
  rw [Reading.toToken, Reading.toToken, fromToken, fromToken, hrest, dropBlanks_cons_of_isSeparator h]

theorem tokens_of_run_scanToken (hrun : (scanToken commands).run s = .ok (t, s')) (ht : t ≠ .ended) :
    Tokens commands s ts ↔ ∃ more, ts = t :: more ∧ Tokens commands s' more := by
  constructor
  · rintro (⟨hended⟩ | ⟨-, htoken, hts⟩)
    · rw [hrun] at hended
      cases hended
      exact absurd rfl ht
    · rw [hrun] at htoken
      cases htoken
      exact ⟨_, rfl, hts⟩
  · rintro ⟨more, rfl, hts⟩
    exact .token ht hrun hts

theorem tokens_nil (commands : Parse Command) (hrest : s.rest = []) : Tokens commands s [] := by
  have hrun : (scanToken commands).run s = .ok (.ended, s.toToken) := by
    rw [scanToken, run_bind_to () s.toToken rfl, run_get_bind,
      show s.toToken.rest = [] by rw [Reading.toToken, hrest]; rfl]
    rfl
  exact .ended hrun

/-- **Bare words with blanks between them** are the first tokens of a text, and the rest of it is read
as if it stood alone. -/
theorem tokens_words_append_iff (hcs : ∀ word ∈ Text.words isSeparator cs, IsBareWord word)
    (hc : isSeparator c = true) (hrest : s.rest = cs ++ c :: after) :
    Tokens commands s ts ↔ ∃ more, ts = (Text.words isSeparator cs).map Token.ofText ++ more ∧
      Tokens commands { s with rest := after } more := by
  induction cs using Text.words_induction isSeparator generalizing s ts with
  | nil =>
    rw [tokens_cons_of_isSeparator hc hrest]
    simp [Text.words_nil]
  | separator d cs hd ih =>
    rw [tokens_cons_of_isSeparator hd hrest]
    rw [Text.words_cons_of_separates hd] at hcs ⊢
    exact ih hcs rfl
  | word word left hne hword hleft ih =>
    rw [Text.words_append_of_head hne hword hleft] at hcs ⊢
    obtain ⟨hbare, hcs⟩ := List.forall_mem_cons.mp hcs
    have hafter : ∀ e ∈ (left ++ c :: after).head?, isSeparator e = true := by
      intro e he
      cases left with
      | nil => exact Option.some.inj he ▸ hc
      | cons f left => exact hleft e he
    rw [List.append_assoc] at hrest
    rw [tokens_of_run_scanToken (run_scanToken_of_isBareWord hbare hrest hafter) (by rintro ⟨⟩)]
    simp only [List.map_cons, List.cons_append]
    constructor
    · rintro ⟨_, rfl, htokens⟩
      obtain ⟨more, rfl, hmore⟩ := (ih hcs rfl).mp htokens
      exact ⟨more, rfl, hmore⟩
    · rintro ⟨more, rfl, hmore⟩
      exact ⟨_, rfl, (ih hcs rfl).mpr ⟨more, rfl, hmore⟩⟩

/-- **A text is one word that is itself**, and nothing else, exactly if it is a bare word. -/
theorem tokens_singleton_iff (hrest : s.rest = cs) :
    Tokens commands s [.ofText cs] ↔ IsBareWord cs := by
  constructor
  · rintro (_ | ⟨-, hrun, -⟩)
    exact isBareWord_of_run_scanToken hrest hrun
  · intro hcs
    have hrun : (scanToken commands).run s = .ok (.ofText cs, { s with rest := [] }) :=
      run_scanToken_of_isBareWord hcs (hrest.trans (List.append_nil cs).symm) fun c hc => by cases hc
    exact .token (by rintro ⟨⟩) hrun (tokens_nil commands rfl)

end ArtifactPipeline.Shell
