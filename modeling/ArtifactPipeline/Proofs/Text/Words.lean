import ArtifactPipeline.Text.Blank
import Mathlib.Data.List.Basic
import Mathlib.Data.List.Induction
import Mathlib.Data.List.TakeWhile

/-!
# Words of a text

The *words* of a text are the longest runs in it of characters that do not separate. Which
characters separate is a parameter, so that the lines of a text are words too, with the line break
as the only separator, as long as empty lines do not count.

* `exists_run_append` : the longest run of characters with a property that a text begins with;
* `words_append` : a separator cuts a text into two, whose words are apart;
* `words_eq_singleton_iff` : when a text is its own only word;
* `words_induction` : induction along a text, a separator or a word at a time;
* `words_trim` : trimming keeps the words.
-/

namespace ArtifactPipeline.Text

/-! ### Runs -/

/-- The longest run of characters with a property ends where the property does. -/
theorem span_append_of_head {α : Type} {p : α → Bool} {first rest : List α}
    (hfirst : ∀ a ∈ first, p a = true) (hrest : ∀ a ∈ rest.head?, p a = false) :
    (first ++ rest).takeWhile p = first ∧ (first ++ rest).dropWhile p = rest := by
  have hstop : rest.takeWhile p = [] ∧ rest.dropWhile p = rest := by
    cases rest with
    | nil => exact ⟨rfl, rfl⟩
    | cons a rest => simp [hrest a rfl]
  rw [List.takeWhile_append_of_pos hfirst, List.dropWhile_append_of_pos hfirst, hstop.1, hstop.2]
  exact ⟨List.append_nil first, rfl⟩

/-- What is left after the longest run of characters with a property does not have it in front. -/
theorem head_dropWhile {α : Type} {p : α → Bool} {as : List α} {a : α}
    (h : a ∈ (as.dropWhile p).head?) : p a = false := by
  have hhead := List.head?_dropWhile_not p as
  rw [show (as.dropWhile p).head? = some a from h] at hhead
  simpa using hhead

/-- The longest run of characters with a property that a text begins with. -/
theorem exists_run_append {α : Type} {p : α → Bool} {a : α} (ha : p a = true) (as : List α) :
    ∃ first rest, a :: as = first ++ rest ∧ first ≠ [] ∧ (∀ b ∈ first, p b = true) ∧
      ∀ b ∈ rest.head?, p b = false :=
  ⟨(a :: as).takeWhile p, (a :: as).dropWhile p, List.takeWhile_append_dropWhile.symm, by simp [ha],
    fun _ => List.mem_takeWhile_imp, fun _ => head_dropWhile⟩

/-! ### Words -/

/-- A run of characters is a word unless it is empty. -/
def wordOf : List Char → List (List Char)
  | [] => []
  | word => [word]

/-- The words of a text that continues a run of characters. -/
def wordsFrom (separates : Char → Bool) (run : List Char) : List Char → List (List Char)
  | [] => wordOf run
  | c :: cs =>
    if separates c then wordOf run ++ wordsFrom separates [] cs
    else wordsFrom separates (run ++ [c]) cs

/-- The words of a text. -/
def words (separates : Char → Bool) (cs : List Char) : List (List Char) :=
  wordsFrom separates [] cs

section Words

variable {separates : Char → Bool} {run before word cs : List Char} {c : Char}

theorem mem_wordOf : word ∈ wordOf run ↔ word = run ∧ run ≠ [] := by
  cases run <;> simp [wordOf]

/-- A separator ends the run. -/
theorem wordsFrom_cons_of_separates (h : separates c = true) (run cs : List Char) :
    wordsFrom separates run (c :: cs) = wordOf run ++ words separates cs := by
  rw [wordsFrom, if_pos h, words]

/-- Characters that do not separate continue the run. -/
theorem wordsFrom_append (h : ∀ c ∈ before, separates c = false) (run cs : List Char) :
    wordsFrom separates run (before ++ cs) = wordsFrom separates (run ++ before) cs := by
  induction before generalizing run with
  | nil => rw [List.nil_append, List.append_nil]
  | cons c before ih =>
    obtain ⟨hc, hbefore⟩ := List.forall_mem_cons.mp h
    rw [List.cons_append, wordsFrom, hc, if_neg Bool.false_ne_true, ih hbefore, List.append_assoc,
      List.singleton_append]

/-- A run that has begun is the beginning of the first word. -/
theorem exists_wordsFrom (h : run ≠ []) (cs : List Char) :
    ∃ more rest, wordsFrom separates run cs = (run ++ more) :: rest := by
  induction cs generalizing run with
  | nil =>
    obtain ⟨c, run, rfl⟩ := List.exists_cons_of_ne_nil h
    exact ⟨[], [], by rw [wordsFrom, wordOf, List.append_nil]; exact List.cons_ne_nil c run⟩
  | cons c cs ih =>
    rw [wordsFrom]
    split
    · obtain ⟨d, run, rfl⟩ := List.exists_cons_of_ne_nil h
      exact ⟨[], _, by rw [List.append_nil]; rfl⟩
    · obtain ⟨more, rest, hwords⟩ := ih (List.append_ne_nil_of_left_ne_nil h [c])
      exact ⟨c :: more, rest, by rw [hwords, List.append_assoc, List.singleton_append]⟩

/-- Words are made of characters of the text that do not separate, and they are not empty. -/
theorem of_mem_wordsFrom (hrun : ∀ c ∈ run, separates c = false)
    (hword : word ∈ wordsFrom separates run cs) :
    word ≠ [] ∧ ∀ c ∈ word, separates c = false ∧ (c ∈ run ∨ c ∈ cs) := by
  induction cs generalizing run with
  | nil =>
    obtain ⟨rfl, hne⟩ := mem_wordOf.mp hword
    exact ⟨hne, fun c hc => ⟨hrun c hc, .inl hc⟩⟩
  | cons d cs ih =>
    rw [wordsFrom] at hword
    split at hword
    · rcases List.mem_append.mp hword with hfirst | hrest
      · obtain ⟨rfl, hne⟩ := mem_wordOf.mp hfirst
        exact ⟨hne, fun c hc => ⟨hrun c hc, .inl hc⟩⟩
      · obtain ⟨hne, hword⟩ := ih (fun _ hc => absurd hc List.not_mem_nil) hrest
        refine ⟨hne, fun c hc => ⟨(hword c hc).1, .inr ?_⟩⟩
        exact List.mem_cons_of_mem d ((hword c hc).2.resolve_left List.not_mem_nil)
    · next hd =>
      have hlonger : ∀ c ∈ run ++ [d], separates c = false := fun c hc => by
        rcases List.mem_append.mp hc with hc | hc
        · exact hrun c hc
        · rw [List.mem_singleton.mp hc, Bool.eq_false_iff]
          exact hd
      obtain ⟨hne, hword⟩ := ih hlonger hword
      refine ⟨hne, fun c hc => ⟨(hword c hc).1, ?_⟩⟩
      rw [List.mem_cons, ← or_assoc, ← List.mem_singleton, ← List.mem_append]
      exact (hword c hc).2

theorem words_nil : words separates [] = [] := rfl

theorem words_cons_of_separates (h : separates c = true) (cs : List Char) :
    words separates (c :: cs) = words separates cs :=
  wordsFrom_cons_of_separates h [] cs

/-- A separator cuts a text into two, whose words are apart. -/
theorem words_append (h : separates c = true) (before after : List Char) :
    words separates (before ++ c :: after) = words separates before ++ words separates after := by
  -- the induction is on what stands before, whatever run it continues
  suffices hfrom : ∀ run, wordsFrom separates run (before ++ c :: after) =
      wordsFrom separates run before ++ words separates after from hfrom []
  intro run
  induction before generalizing run with
  | nil => exact wordsFrom_cons_of_separates h run after
  | cons d before ih =>
    rw [List.cons_append, wordsFrom, wordsFrom]
    split
    · rw [ih, List.append_assoc]
    · exact ih (run ++ [d])

theorem of_mem_words (hword : word ∈ words separates cs) :
    word ≠ [] ∧ ∀ c ∈ word, separates c = false ∧ c ∈ cs := by
  obtain ⟨hne, hchars⟩ := of_mem_wordsFrom (fun _ hc => absurd hc List.not_mem_nil) hword
  exact ⟨hne, fun c hc => ⟨(hchars c hc).1, (hchars c hc).2.resolve_left List.not_mem_nil⟩⟩

/-- **A text is its own only word** when it is not empty and nothing in it separates. -/
theorem words_eq_singleton_iff :
    words separates cs = [cs] ↔ cs ≠ [] ∧ ∀ c ∈ cs, separates c = false := by
  constructor
  · intro h
    obtain ⟨hne, hchars⟩ := of_mem_words (h ▸ List.mem_singleton_self cs)
    exact ⟨hne, fun c hc => (hchars c hc).1⟩
  · rintro ⟨hne, hchars⟩
    have hrun := wordsFrom_append hchars [] []
    rw [List.append_nil, List.nil_append] at hrun
    obtain ⟨c, cs, rfl⟩ := List.exists_cons_of_ne_nil hne
    exact hrun

/-- A text that begins with a word and then separates. -/
theorem words_append_of_head {rest : List Char} (hne : word ≠ [])
    (hword : ∀ c ∈ word, separates c = false) (hrest : ∀ c ∈ rest.head?, separates c = true) :
    words separates (word ++ rest) = word :: words separates rest := by
  have hsingle := words_eq_singleton_iff.mpr ⟨hne, hword⟩
  cases rest with
  | nil => rw [List.append_nil, hsingle, words_nil]
  | cons c rest =>
    rw [words_append (hrest c rfl), hsingle, words_cons_of_separates (hrest c rfl),
      List.singleton_append]

/-- **Induction along a text**, a separator or a word at a time. -/
@[elab_as_elim]
theorem words_induction (separates : Char → Bool) {motive : List Char → Prop} (nil : motive [])
    (separator : ∀ c cs, separates c = true → motive cs → motive (c :: cs))
    (word : ∀ word rest, word ≠ [] → (∀ c ∈ word, separates c = false) →
      (∀ c ∈ rest.head?, separates c = true) → motive rest → motive (word ++ rest))
    (cs : List Char) : motive cs := by
  induction hlength : cs.length using Nat.strongRecOn generalizing cs with
  | ind n ih =>
    subst hlength
    cases cs with
    | nil => exact nil
    | cons c cs =>
      by_cases hc : separates c = true
      · exact separator c cs hc (ih cs.length (Nat.lt_succ_self _) cs rfl)
      · obtain ⟨first, rest, hsplit, hne, hfirst, hrest⟩ :=
          exists_run_append (p := (!separates ·)) (by simpa using hc) cs
        simp only [Bool.not_eq_true', Bool.not_eq_false'] at hfirst hrest
        have hpos := List.length_pos_iff.mpr hne
        have hshorter : rest.length < (c :: cs).length := by
          rw [hsplit, List.length_append]
          omega
        rw [hsplit]
        exact word first rest hne hfirst hrest (ih rest.length hshorter rest rfl)

/-- There are no more words than characters. -/
theorem length_words_le (separates : Char → Bool) (cs : List Char) :
    (words separates cs).length ≤ cs.length := by
  induction cs using words_induction separates with
  | nil => exact Nat.le_refl 0
  | separator c cs hc ih =>
    rw [words_cons_of_separates hc]
    exact Nat.le_succ_of_le ih
  | word word rest hne hword hrest ih =>
    have hpos := List.length_pos_iff.mpr hne
    rw [words_append_of_head hne hword hrest, List.length_cons, List.length_append]
    omega

/-- Trimming keeps the words. -/
theorem words_trim (cs : List Char) : words isBlank (trim cs) = words isBlank cs := by
  have hstart : words isBlank (trimStart cs) = words isBlank cs := by
    induction cs with
    | nil => rfl
    | cons c cs ih =>
      rw [trimStart, List.dropWhile_cons]
      split
      · next hc =>
        rw [words_cons_of_separates hc]
        exact ih
      · rfl
  rw [trim, ← hstart]
  -- at the end the characters are taken off one by one, the last first
  induction trimStart cs using List.reverseRecOn with
  | nil => rfl
  | append_singleton cs c ih =>
    rw [trimEnd, List.reverse_append, List.reverse_singleton, List.singleton_append,
      List.dropWhile_cons]
    split
    · next hc =>
      rw [words_append hc, words_nil, List.append_nil]
      exact ih
    · rw [List.reverse_cons, List.reverse_reverse]

end Words

end ArtifactPipeline.Text
