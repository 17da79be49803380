import ArtifactPipeline.CommandStage
import ArtifactPipeline.Proofs.Shell.SimpleCommand

/-!
# The words of a command stage

A command stage gives the shell one line: its command, its flags and the path of its input, with one
blank between any two. What the shell makes of the line is said here for settings of bare words
(`IsPlain`).

The line is read as the words of the settings, and then as the path is read that stands alone: the
path is not quoted, and nothing of it is protected. It is therefore one word, equal to the path,
exactly if the path is a bare word (`input_is_last_word_iff`). A path with a blank is several
(`input_of_two_words`).

The tokens are those that the reader of the shell finds, with any reader of the commands that a word
may hold. Where the path is a bare word, the line is moreover one command, and its arguments are the
words themselves unless one of them is replaced when it is expanded.
-/

namespace ArtifactPipeline.CommandStage

open Shell (Tokens Token IsBareWord Parse Reading isSeparator)

variable {commands : Parse Shell.Command} {reading : Reading} {ts : List Token} {texts : List String}
  {last : String}

/-- The words of a text that quotes nothing. -/
def wordsOf (text : String) : List (List Char) := Text.words isSeparator text.toList

/-- A text of bare words. -/
def IsPlain (text : String) : Prop := ∀ word ∈ wordsOf text, IsBareWord word

instance (text : String) : Decidable (IsPlain text) :=
  inferInstanceAs (Decidable (∀ word ∈ wordsOf text, IsBareWord word))

/-- The words that a stage puts before the path of its input. -/
def settingWords (s : Settings) : List (List Char) := (s.exec :: s.flags).flatMap wordsOf

/-- The words that a stage means to run: those of the settings, and the path as one. -/
def meantWords (s : Settings) (input : String) : List (List Char) := settingWords s ++ [input.toList]

/-- The shell at the start of a line. -/
def atStart (line : String) : Reading := { rest := line.toList }

theorem toList_ofTokens_cons (text : String) (texts : List String) (last : String) :
    (CommandLine.ofTokens (text :: (texts ++ [last]))).toList =
      text.toList ++ ' ' :: (CommandLine.ofTokens (texts ++ [last])).toList := by
  obtain ⟨next, more, hmore⟩ := List.exists_cons_of_ne_nil (List.append_ne_nil_of_right_ne_nil texts
    (List.cons_ne_nil last []))
  rw [CommandLine.ofTokens, CommandLine.ofTokens, hmore, String.intercalate_cons_cons]
  simp

/-- **Plain texts are read as their words**, and the last text as if it stood alone. -/
theorem tokens_ofTokens_iff (hplain : ∀ text ∈ texts, IsPlain text)
    (hrest : reading.rest = (CommandLine.ofTokens (texts ++ [last])).toList) :
    Tokens commands reading ts ↔
      ∃ more, ts = (texts.flatMap wordsOf).map Token.ofText ++ more ∧
        Tokens commands { reading with rest := last.toList } more := by
  induction texts generalizing reading ts with
  | nil =>
    have hsame : reading = { reading with rest := last.toList } := by
      rw [← show reading.rest = last.toList by simpa [CommandLine.ofTokens] using hrest]
    rw [← hsame]
    simp
  | cons text texts ih =>
    obtain ⟨htext, htexts⟩ := List.forall_mem_cons.mp hplain
    rw [List.cons_append, toList_ofTokens_cons] at hrest
    rw [Shell.tokens_words_append_iff htext (by decide) hrest]
    simp only [List.flatMap_cons, List.map_append, List.append_assoc]
    constructor
    · rintro ⟨_, rfl, hmore⟩
      obtain ⟨more, rfl, hlast⟩ := (ih htexts rfl).mp hmore
      exact ⟨more, rfl, hlast⟩
    · rintro ⟨more, rfl, hlast⟩
      exact ⟨_, rfl, (ih htexts rfl).mpr ⟨more, rfl, hlast⟩⟩

/-- The line of a stage with plain settings is read as their words, and then as its input is. -/
theorem tokens_commandLine_iff {s : Settings} (hexec : IsPlain s.exec)
    (hflags : ∀ flag ∈ s.flags, IsPlain flag) (input : String) :
    Tokens commands (atStart (commandLine s input)) ts ↔
      ∃ more, ts = (settingWords s).map Token.ofText ++ more ∧ Tokens commands (atStart input) more :=
  tokens_ofTokens_iff (List.forall_mem_cons.mpr ⟨hexec, hflags⟩) rfl

/-- The words of a line are those of its tokens. -/
theorem words_ofTokens (texts : List String) (last : String) :
    Text.words isSeparator (CommandLine.ofTokens (texts ++ [last])).toList =
      texts.flatMap wordsOf ++ wordsOf last := by
  induction texts with
  | nil => simp [CommandLine.ofTokens, wordsOf]
  | cons text texts ih =>
    rw [List.cons_append, toList_ofTokens_cons, Text.words_append (by decide), ih, List.flatMap_cons,
      List.append_assoc]
    rfl

/-- **A path that is a bare word** makes the line one command of the words that are meant. -/
theorem nextLine_commandLine {s : Settings} {input : String} {first : List Char}
    {more : List (List Char)} (hexec : IsPlain s.exec) (hflags : ∀ flag ∈ s.flags, IsPlain flag)
    (hinput : IsBareWord input.toList) (hfirst : settingWords s = first :: more)
    (hcommand : Shell.IsCommandWord first) :
    ∃ final, Shell.nextLine (atStart (commandLine s input)) =
      .ok (some (.simple 1 [] ((meantWords s input).map Shell.bareWord) [], final)) := by
  have hwords : Text.words isSeparator (atStart (commandLine s input)).rest = meantWords s input := by
    have hone : wordsOf input = [input.toList] :=
      Text.words_eq_singleton_iff.mpr ⟨hinput.ne_nil, hinput.no_separator⟩
    rw [meantWords, ← hone]
    exact words_ofTokens (s.exec :: s.flags) input
  have hbare : ∀ word ∈ meantWords s input, IsBareWord word := by
    intro word hword
    rcases List.mem_append.mp hword with hword | hword
    · obtain ⟨text, htext, hword⟩ := List.mem_flatMap.mp hword
      exact List.forall_mem_cons.mpr ⟨hexec, hflags⟩ text htext word hword
    · exact List.mem_singleton.mp hword ▸ hinput
  have hstart : (atStart (commandLine s input)).IsFresh := ⟨rfl, rfl, hwords ▸ hbare⟩
  have hmeant : meantWords s input = first :: (more ++ [input.toList]) := by
    rw [meantWords, hfirst, List.cons_append]
  rw [hmeant] at hwords ⊢
  exact Shell.nextLine_of_bareWords hstart rfl hwords hcommand

/-- **What the shell reads from the line of a command stage.**

* First come the words of the settings, and then what the path of the input is read as by itself.
* That is one word, the path, exactly if the path is a bare word.
* The line is then one command of these words, if the first of them can start one.
* Where none of these words is replaced when it is expanded, they are the arguments of the command. -/
theorem input_is_last_word_iff {s : Settings} (hexec : IsPlain s.exec)
    (hflags : ∀ flag ∈ s.flags, IsPlain flag) (commands : Parse Shell.Command) (input : String) :
    (∀ ts, Tokens commands (atStart (commandLine s input)) ts ↔
      ∃ more, ts = (settingWords s).map Token.ofText ++ more ∧
        Tokens commands (atStart input) more) ∧
    (Tokens commands (atStart (commandLine s input)) ((meantWords s input).map Token.ofText) ↔
      IsBareWord input.toList) ∧
    (∀ first more, settingWords s = first :: more → Shell.IsCommandWord first →
      IsBareWord input.toList → ∃ final, Shell.nextLine (atStart (commandLine s input)) =
        .ok (some (.simple 1 [] ((meantWords s input).map Shell.bareWord) [], final))) ∧
    ((∀ word ∈ meantWords s input, Shell.ExpandsToItself word) → ∀ capture state,
      (Shell.expandWords capture ((meantWords s input).map Shell.bareWord)).run.run state =
        (.ok ((meantWords s input).map String.ofList), state)) := by
  have hinput : Tokens commands (atStart input) [.ofText input.toList] ↔ IsBareWord input.toList :=
    Shell.tokens_singleton_iff rfl
  refine ⟨fun ts => tokens_commandLine_iff hexec hflags input, ?_, ?_, ?_⟩
  · rw [tokens_commandLine_iff hexec hflags, ← hinput, meantWords, List.map_append,
      List.map_singleton]
    constructor
    · rintro ⟨more, hmore, htokens⟩
      rwa [List.append_cancel_left hmore]
    · intro htokens
      exact ⟨_, rfl, htokens⟩
  · intro first more hfirst hcommand hbare
    exact nextLine_commandLine hexec hflags hbare hfirst hcommand
  · exact fun hself capture state => Shell.run_expandWords_of_expandsToItself hself

/-- A command of two words, a flag of two, and a path that is one. -/
theorem input_is_last_word_iff_of_bare_path :
    let s : Settings := ⟨"verilog", "futil -q", "futil", ["-b verilog"], "", ⟨.warn⟩⟩
    IsPlain s.exec ∧ (∀ flag ∈ s.flags, IsPlain flag) ∧
      meantWords s "dir/in" = ["futil", "-q", "-b", "verilog", "dir/in"].map String.toList ∧
      Tokens (Shell.readCommands 2 (.list true)) (atStart (commandLine s "dir/in"))
        ((meantWords s "dir/in").map Token.ofText) := by
  intro s
  have hexec : IsPlain s.exec := by decide
  have hflags : ∀ flag ∈ s.flags, IsPlain flag := by decide
  exact ⟨hexec, hflags, by decide,
    (input_is_last_word_iff hexec hflags (Shell.readCommands 2 (.list true)) "dir/in").2.1.mpr
      (by decide)⟩

/-- **A path with a blank is read as two words**, and not as one. -/
theorem input_of_two_words :
    let s : Settings := ⟨"copy", "cat", "text", [], "", ⟨.warn⟩⟩
    let commands := Shell.readCommands 2 (.list true)
    IsPlain s.exec ∧ (∀ flag ∈ s.flags, IsPlain flag) ∧
      settingWords s = [['c', 'a', 't']] ∧
      Tokens commands (atStart (commandLine s "a b"))
        ((settingWords s ++ [['a'], ['b']]).map Token.ofText) ∧
      ¬Tokens commands (atStart (commandLine s "a b")) ((meantWords s "a b").map Token.ofText) := by
  intro s commands
  have hexec : IsPlain s.exec := by decide
  have hflags : ∀ flag ∈ s.flags, IsPlain flag := by decide
  refine ⟨hexec, hflags, by decide, ?_, ?_⟩
  · rw [tokens_commandLine_iff hexec hflags, List.map_append]
    refine ⟨[.ofText ['a'], .ofText ['b']], rfl, ?_⟩
    have hsplit : (atStart "a b").rest = ['a'] ++ ' ' :: ['b'] := rfl
    refine (Shell.tokens_words_append_iff (by decide) (by decide) hsplit).mpr
      ⟨[.ofText ['b']], rfl, ?_⟩
    exact (Shell.tokens_singleton_iff rfl).mpr (by decide)
  · rw [tokens_commandLine_iff hexec hflags, meantWords, List.map_append]
    rintro ⟨more, hmore, hinput⟩
    rw [← List.append_cancel_left hmore] at hinput
    exact absurd ((Shell.tokens_singleton_iff rfl).mp hinput) (by decide)

end ArtifactPipeline.CommandStage
