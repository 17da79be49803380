import ArtifactPipeline.Proofs.Emulation.Plan
import ArtifactPipeline.Proofs.Text.Words

/-!
# The name of the workspace

The name of a workspace is whatever the remote shell has answered to the provisioning, in all its
lines, with the blanks at the two ends taken off. It is then written into command lines as it is.
This file says what the remote shell makes of it there, assuming only that it separates words at
blanks and commands at line breaks (`shellCommands`).

* `unbroken_of_mem` : every word that the shell finds is unbroken;
* `removeCommand_iff`, `workspaceCommand_iff` : the name is found whole in a command line exactly
  when it is unbroken;
* `provisioned_of_done` : the name is unbroken when it was the only word of the answer, and
  `provision_of_banner` has an answer with more words than one.
-/

namespace ArtifactPipeline.Emulation

open Remote

/-! ### Words of the shell -/

/-- The characters at which the shell separates words. -/
def isShellBlank (c : Char) : Bool := c == ' ' || c == '\t'

/-- The character at which the shell separates commands. -/
def isLineBreak (c : Char) : Bool := c == '\n'

/-- The words that the shell finds in a line. -/
def lineWords (line : List Char) : List String :=
  (Text.words isShellBlank line).map String.ofList

/-- **The commands that the shell finds in a text**, each with its words. Lines without a word are
none. -/
def shellCommands (text : String) : List (List String) :=
  ((Text.words isLineBreak text.toList).map lineWords).filter (!·.isEmpty)

/-- A text is unbroken when the shell takes it for one word. -/
structure Unbroken (text : String) : Prop where
  ne_nil : text.toList ≠ []
  no_blank : ∀ c ∈ text.toList, isShellBlank c = false
  no_break : ∀ c ∈ text.toList, isLineBreak c = false

theorem mem_lineWords {line : List Char} {word : String} :
    word ∈ lineWords line ↔ word.toList ∈ Text.words isShellBlank line := by
  rw [lineWords, List.mem_map]
  constructor
  · rintro ⟨chars, hchars, rfl⟩
    rwa [String.toList_ofList]
  · exact fun h => ⟨word.toList, h, String.ofList_toList⟩

/-- Every word that the shell finds is unbroken. -/
theorem unbroken_of_mem {text word : String} {command : List String} (hword : word ∈ command)
    (hcommand : command ∈ shellCommands text) : Unbroken word := by
  obtain ⟨line, hline, rfl⟩ := List.mem_map.mp (List.mem_filter.mp hcommand).1
  obtain ⟨hne, hchars⟩ := Text.of_mem_words (mem_lineWords.mp hword)
  refine ⟨hne, fun c hc => (hchars c hc).1, fun c hc => ?_⟩
  exact ((Text.of_mem_words hline).2 c (hchars c hc).2).1

/-- What the shell separates at is blank. -/
theorem isBlank_of_separates {c : Char} (h : isShellBlank c = true ∨ isLineBreak c = true) :
    Text.isBlank c = true := by
  rw [isShellBlank, Bool.or_eq_true, isLineBreak, beq_iff_eq, beq_iff_eq, beq_iff_eq] at h
  rcases h with (rfl | rfl) | rfl <;> decide

/-- Whether there is a blank of any kind in a text. -/
def hasBlank (text : String) : Bool := text.toList.any Text.isBlank

theorem hasBlank_eq_false_iff {text : String} :
    hasBlank text = false ↔ ∀ c ∈ text.toList, Text.isBlank c = false := by
  simp only [hasBlank, List.any_eq_false, Bool.not_eq_true]

/-- What has no blank is unbroken. -/
theorem unbroken_of_hasBlank {text : String} (hne : text ≠ "") (h : hasBlank text = false) :
    Unbroken text := by
  have hseparates : ∀ c ∈ text.toList, ¬(isShellBlank c = true ∨ isLineBreak c = true) :=
    fun c hc hseparates =>
      Bool.eq_false_iff.mp (hasBlank_eq_false_iff.mp h c hc) (isBlank_of_separates hseparates)
  refine ⟨fun hnil => hne (String.toList_eq_nil_iff.mp hnil), fun c hc => ?_, fun c hc => ?_⟩
  · exact Bool.eq_false_iff.mpr fun hblank => hseparates c hc (.inl hblank)
  · exact Bool.eq_false_iff.mpr fun hbreak => hseparates c hc (.inr hbreak)

/-! ### Command lines that begin with given words -/

/-- The text of some words, each with a blank behind it. -/
def spelled (words : List String) : List Char := words.flatMap fun word => word.toList ++ [' ']

section Spelled

variable {words : List String} {text : String} {rest : List Char}

theorem lineWords_of_unbroken (h : Unbroken text) : lineWords text.toList = [text] := by
  rw [lineWords, Text.words_eq_singleton_iff.mpr ⟨h.ne_nil, h.no_blank⟩, List.map_singleton,
    String.ofList_toList]

theorem lineWords_spelled (h : ∀ word ∈ words, Unbroken word) (rest : List Char) :
    lineWords (spelled words ++ rest) = words ++ lineWords rest := by
  induction words with
  | nil => rfl
  | cons word words ih =>
    obtain ⟨hword, hwords⟩ := List.forall_mem_cons.mp h
    have hcut : lineWords (word.toList ++ ' ' :: (spelled words ++ rest)) =
        lineWords word.toList ++ lineWords (spelled words ++ rest) := by
      rw [lineWords, Text.words_append rfl, List.map_append, lineWords, lineWords]
    rw [spelled, List.flatMap_cons, List.append_assoc, List.append_assoc, List.singleton_append,
      ← spelled, hcut, lineWords_of_unbroken hword, ih hwords, List.singleton_append,
      List.cons_append]

theorem no_break_spelled (h : ∀ word ∈ words, Unbroken word) :
    ∀ c ∈ spelled words, isLineBreak c = false := by
  intro c hc
  obtain ⟨word, hword, hc⟩ := List.mem_flatMap.mp hc
  rcases List.mem_append.mp hc with hc | hc
  · exact (h word hword).no_break c hc
  · rw [List.mem_singleton.mp hc]
    rfl

/-- **The first command begins with the words that its text begins with.** -/
theorem exists_shellCommands (h : ∀ word ∈ words, Unbroken word) (hne : words ≠ [])
    (htext : text.toList = spelled words ++ rest) :
    ∃ more commands, shellCommands text = (words ++ more) :: commands := by
  have hspelled : spelled words ≠ [] := by
    obtain ⟨word, words, rfl⟩ := List.exists_cons_of_ne_nil hne
    rw [spelled, List.flatMap_cons]
    exact List.append_ne_nil_of_left_ne_nil
      (List.append_ne_nil_of_right_ne_nil word.toList (List.cons_ne_nil ' ' [])) _
  -- the first line goes on for some time after these words
  obtain ⟨more, lines, hlines⟩ : ∃ more lines, Text.wordsFrom isLineBreak (spelled words) rest =
      (spelled words ++ more) :: lines := Text.exists_wordsFrom hspelled rest
  have hwords : Text.words isLineBreak text.toList = (spelled words ++ more) :: lines := by
    rw [htext, Text.words, Text.wordsFrom_append (no_break_spelled h), List.nil_append, hlines]
  refine ⟨lineWords more, (lines.map lineWords).filter (!·.isEmpty), ?_⟩
  rw [shellCommands, hwords, List.map_cons, lineWords_spelled h, List.filter_cons_of_pos]
  rw [List.isEmpty_eq_false_iff.mpr (List.append_ne_nil_of_left_ne_nil hne _)]
  rfl

/-- A text on one line is one command. -/
theorem shellCommands_of_no_break (hbreak : ∀ c ∈ text.toList, isLineBreak c = false)
    (hne : lineWords text.toList ≠ []) : shellCommands text = [lineWords text.toList] := by
  have htext : text.toList ≠ [] := fun hnil => hne (by rw [hnil]; rfl)
  rw [shellCommands, Text.words_eq_singleton_iff.mpr ⟨htext, hbreak⟩, List.map_singleton,
    List.filter_singleton, List.isEmpty_eq_false_iff.mpr hne]
  rfl

end Spelled

/-! ### The workspace in command lines -/

variable {workspace command : String}

/-- **The command that removes a workspace** names that workspace and nothing else exactly when the
name is unbroken. -/
theorem removeCommand_iff :
    shellCommands (Session.removeCommand workspace) = [["rm", "-rf", workspace]] ↔
      Unbroken workspace := by
  constructor
  · intro hcommands
    have hcommand : ["rm", "-rf", workspace] ∈ shellCommands (Session.removeCommand workspace) :=
      hcommands ▸ List.mem_singleton_self _
    have hword : workspace ∈ ["rm", "-rf", workspace] := .tail _ (.tail _ (.head _))
    exact unbroken_of_mem hword hcommand
  · intro h
    have hrm : ∀ word ∈ ["rm", "-rf"], Unbroken word := by
      intro word hword
      rcases List.mem_pair.mp hword with rfl | rfl <;> exact unbroken_of_hasBlank (by decide) rfl
    have htext : (Session.removeCommand workspace).toList =
        spelled ["rm", "-rf"] ++ workspace.toList := by
      rw [Session.removeCommand, String.toList_append]
      rfl
    have hwords :
        lineWords (Session.removeCommand workspace).toList = ["rm", "-rf", workspace] := by
      rw [htext, lineWords_spelled hrm, lineWords_of_unbroken h]
      rfl
    have hbreak : ∀ c ∈ (Session.removeCommand workspace).toList, isLineBreak c = false := by
      rw [htext]
      exact List.forall_mem_append.mpr ⟨no_break_spelled hrm, h.no_break⟩
    have hne : lineWords (Session.removeCommand workspace).toList ≠ [] :=
      hwords ▸ List.cons_ne_nil "rm" _
    rw [shellCommands_of_no_break hbreak hne, hwords]

/-- Every command in the workspace first goes there. -/
theorem toList_workspaceCommand {settings : Settings}
    (hcommand : command ∈ workspaceCommands settings workspace) :
    ∃ rest, command.toList = spelled ["cd", workspace, "&&"] ++ rest := by
  obtain ⟨third, tokens, rfl⟩ := exists_tokens_of_mem hcommand
  refine ⟨(String.intercalate " " (third :: tokens)).toList, ?_⟩
  rw [CommandLine.ofTokens, String.intercalate_cons_cons, String.intercalate_cons_cons]
  simp [spelled]

/-- **The commands in a workspace** go to that workspace exactly when its name is unbroken. -/
theorem workspaceCommand_iff {settings : Settings}
    (hcommand : command ∈ workspaceCommands settings workspace) :
    (∃ more commands, shellCommands command = ("cd" :: workspace :: "&&" :: more) :: commands) ↔
      Unbroken workspace := by
  constructor
  · rintro ⟨more, commands, hcommands⟩
    have hfirst : "cd" :: workspace :: "&&" :: more ∈ shellCommands command :=
      hcommands ▸ .head _
    exact unbroken_of_mem (.tail _ (.head _)) hfirst
  · intro h
    have hwords : ∀ word ∈ ["cd", workspace, "&&"], Unbroken word := by
      intro word hword
      rcases List.mem_cons.mp hword with rfl | hword
      · exact unbroken_of_hasBlank (by decide) rfl
      rcases List.mem_pair.mp hword with rfl | rfl
      · exact h
      · exact unbroken_of_hasBlank (by decide) rfl
    obtain ⟨rest, htext⟩ := toList_workspaceCommand hcommand
    exact exists_shellCommands hwords (List.cons_ne_nil _ _) htext

/-! ### Provisioning -/

variable {ε : Type} {b : Backend ε} {s : Session} {host : Host ε} {after : Session × Host ε}

/-- What the backend delivers when a workspace is provisioned. -/
def provisionDelivery (b : Backend ε) (s : Session) (host : Host ε) : Delivery :=
  (b.exec s.connection Session.provisionCommand .unlimited (fun _ => id)
    (host.note (Session.commandEvent Session.provisionCommand))).1

/-- **A provisioned workspace.**

* `name`, `ne_empty`: it is called what was written, without the blanks at both ends;
* `recorded`: the session holds the name, and the release of the session takes it from there;
* `word`: the name is without blanks exactly when it was the only word written;
* `unbroken`: then it is one word for the shell, too;
* `removal`, `going`: exactly when it is one word for the shell, the removal names this workspace
  and nothing else, and every command in the workspace first goes to it. -/
structure Provisioned (written : String) (s : Session) (workspace : String)
    (after : Session) : Prop where
  name : workspace = Text.trimmed written
  ne_empty : workspace ≠ ""
  recorded : after = { s with workspace := some workspace }
  word : hasBlank workspace = false ↔
    Text.words Text.isBlank written.toList = [workspace.toList]
  unbroken : hasBlank workspace = false → Unbroken workspace
  removal : shellCommands (Session.removeCommand workspace) = [["rm", "-rf", workspace]] ↔
    Unbroken workspace
  going : ∀ settings, ∀ command ∈ workspaceCommands settings workspace,
    (∃ more commands, shellCommands command = ("cd" :: workspace :: "&&" :: more) :: commands) ↔
      Unbroken workspace

/-- What provisioning collects is what the backend delivers, unless it reports a failure. -/
theorem run_capture (b : Backend ε) (s : Session) (host : Host ε) :
    ∃ after, (Session.capture b s Session.provisionCommand .unlimited).run host =
      (match (provisionDelivery b s host).failure? Session.provisionCommand with
        | some f => .failed f
        | none => .done (provisionDelivery b s host).written, after) := by
  rcases hx : b.exec s.connection Session.provisionCommand .unlimited (fun _ => id)
    (host.note (Session.commandEvent Session.provisionCommand)) with ⟨delivery, middle⟩
  have hdelivered : provisionDelivery b s host = delivery := by rw [provisionDelivery, hx]
  obtain ⟨after, hrun, -, -⟩ := Session.run_exec_eq b s _ _ _ hx
  refine ⟨after, ?_⟩
  rw [hdelivered, Session.capture, Action.run_bind, hrun]
  cases delivery.failure? Session.provisionCommand <;> rfl

/-- What provisioning answers is what was written, trimmed. -/
theorem eq_trimmed_of_done
    (hdone : (Session.provision b).run (s, host) = (.done workspace, after)) :
    workspace = Text.trimmed (provisionDelivery b s host).written ∧ workspace ≠ "" ∧
      after.1 = { s with workspace := some workspace } := by
  obtain ⟨middle, hcapture⟩ := run_capture b s host
  rw [Action.run, Session.provision, hcapture] at hdone
  cases hfailure : (provisionDelivery b s host).failure? Session.provisionCommand with
  | some f =>
    rw [hfailure] at hdone
    cases (Prod.mk.inj hdone).1
  | none =>
    rw [hfailure] at hdone
    by_cases hnameless : Text.trimmed (provisionDelivery b s host).written = ""
    · simp only [if_pos hnameless] at hdone
      cases (Prod.mk.inj hdone).1
    · simp only [if_neg hnameless] at hdone
      obtain ⟨hworkspace, rfl⟩ := Prod.mk.inj hdone
      obtain rfl := Outcome.done.inj hworkspace
      exact ⟨rfl, hnameless, rfl⟩

/-- **A provisioned workspace is one word for the shell** when it was the only word written. -/
theorem provisioned_of_done
    (hdone : (Session.provision b).run (s, host) = (.done workspace, after)) :
    Provisioned (provisionDelivery b s host).written s workspace after.1 := by
  obtain ⟨hname, hne, hrecorded⟩ := eq_trimmed_of_done hdone
  have hchars : workspace.toList = Text.trim (provisionDelivery b s host).written.toList := by
    rw [hname, Text.trimmed, String.toList_ofList]
  have hword : hasBlank workspace = false ↔
      Text.words Text.isBlank (provisionDelivery b s host).written.toList = [workspace.toList] := by
    rw [← Text.words_trim, ← hchars, Text.words_eq_singleton_iff, hasBlank_eq_false_iff]
    exact (and_iff_right fun hnil => hne (String.toList_eq_nil_iff.mp hnil)).symm
  exact ⟨hname, hne, hrecorded, hword, unbroken_of_hasBlank hne, removeCommand_iff,
    fun _ _ hcommand => workspaceCommand_iff hcommand⟩

/-- A backend on which every command ends well and writes the same lines. -/
def answering (lines : List String) : Backend Unit where
  connect _ host := (.ok 0, host)
  exec _ _ _ _ host := (⟨lines, .ok ⟨0, ""⟩⟩, host)
  put _ _ _ host := (.ok (), host)
  get _ _ _ host := (.ok (), host)
  close _ host := (.ok (), host)

/-- A single name is one word. -/
theorem provisioned_of_done_alone :
    ∃ after, (Session.provision (answering ["/tmp/tmp.Ab12"])).run
        (⟨0, none⟩, { files := .empty, outside := () }) = (.done "/tmp/tmp.Ab12", after) ∧
      Provisioned "/tmp/tmp.Ab12\n" ⟨0, none⟩ "/tmp/tmp.Ab12" after.1 ∧
      Unbroken "/tmp/tmp.Ab12" := by
  have hdone : (Session.provision (answering ["/tmp/tmp.Ab12"])).run
      (⟨0, none⟩, { files := .empty, outside := () }) = (.done "/tmp/tmp.Ab12", _) := rfl
  have hprovisioned := provisioned_of_done hdone
  exact ⟨_, hdone, hprovisioned, hprovisioned.unbroken rfl⟩

/-- **A line before the name becomes part of it.** The removal then names other files, and the
workspace itself is taken for a command. -/
theorem provision_of_banner :
    ∃ after, (Session.provision (answering ["Welcome to build01", "/tmp/tmp.Ab12"])).run
        (⟨0, none⟩, { files := .empty, outside := () }) =
          (.done "Welcome to build01\n/tmp/tmp.Ab12", after) ∧
      hasBlank "Welcome to build01\n/tmp/tmp.Ab12" = true ∧
      shellCommands (Session.removeCommand "Welcome to build01\n/tmp/tmp.Ab12") =
        [["rm", "-rf", "Welcome", "to", "build01"], ["/tmp/tmp.Ab12"]] :=
  ⟨_, rfl, rfl, by decide⟩

end ArtifactPipeline.Emulation
