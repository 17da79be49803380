import ArtifactPipeline.Shell.Regular.Reader

/-!
# Scripts that edit lines

A script is a list of commands that are carried out on each line of a text. A command can be meant for some
lines only: those with a number, those in which an expression matches, or a range of lines.

* `Scope` says for which lines a command is meant;
* `Command` is what is done with them;
* `Replacement.expand` is the text that takes the place of a match.
-/

namespace ArtifactPipeline.Shell.Editing

/-- An expression that is searched in a line; without one, the last one that was searched is meant. -/
structure LinePattern where
  expression : Option Regular.Expression := none
  folds : Bool := false
  byLines : Bool := false
deriving Repr, DecidableEq

/-- What a line must be like. -/
inductive Address where
  | line (n : Nat)
  /-- The first line with a number, and every one a step further. -/
  | every (first step : Nat)
  | last
  | pattern (p : LinePattern)
deriving Repr, DecidableEq

/-- Where a range of lines stops. -/
inductive Stop where
  | line (n : Nat)
  | last
  | pattern (p : LinePattern)
  /-- After so many more lines. -/
  | more (n : Nat)
  /-- At the next line whose number is a multiple. -/
  | multiple (n : Nat)
deriving Repr, DecidableEq

/-- The lines for which a command is meant. -/
structure Scope where
  start : Option Address := none
  stop : Option Stop := none
  /-- Whether all other lines are meant. -/
  inverse : Bool := false
deriving Repr, DecidableEq

/-! ### Replacements -/

/-- How letters change. -/
inductive LetterChange where
  | same
  | capital
  | small
deriving Repr, DecidableEq

namespace LetterChange

/-- A letter after its change. -/
def apply : LetterChange → UInt8 → UInt8
  | same, b => b
  | capital, b => Regular.raised b
  | small, b => Regular.lowered b

end LetterChange

/-- A part of a replacement. -/
inductive ReplacementPart where
  | text (bytes : Bytes)
  /-- What a group stands for; the group with the number zero is the whole match. -/
  | group (n : Nat)
  /-- From here on, letters change. -/
  | letters (c : LetterChange)
  /-- The next letter changes. -/
  | oneLetter (c : LetterChange)
deriving Repr, DecidableEq

namespace Replacement

/-- The greatest number of a group in a replacement. -/
def greatestGroup (parts : List ReplacementPart) : Nat :=
  parts.foldl (fun n part => match part with
    | .group k => max n k
    | _ => n) 0

/-- Octets whose first one changes in one way and the others in another. -/
def changed (one : Option LetterChange) (all : LetterChange) : Bytes → Bytes
  | [] => []
  | b :: rest => (one.getD all).apply b :: rest.map all.apply

/-- The text of a replacement, given what groups stand for. -/
def expand (group : Nat → Bytes) : (one : Option LetterChange) → (all : LetterChange) →
    List ReplacementPart → Bytes
  | _, _, [] => []
  | one, all, part :: rest =>
    match part with
    | .letters c => expand group none c rest
    | .oneLetter c => expand group (some c) all rest
    | .text bytes =>
      changed one all bytes ++ expand group (if bytes.isEmpty then one else none) all rest
    | .group n =>
      changed one all (group n) ++ expand group (if (group n).isEmpty then one else none) all rest

theorem changed_same (bytes : Bytes) : changed none .same bytes = bytes := by
  cases bytes with
  | nil => rfl
  | cons b rest => simp [changed, show LetterChange.same.apply = id from rfl]

/-- A replacement of one text is that text, whatever the groups stand for. -/
theorem expand_text (group : Nat → Bytes) (bytes : Bytes) :
    expand group none .same [.text bytes] = bytes := by
  simp [expand, changed_same]

end Replacement

/-- A change of the matches in a line. -/
structure Substitution where
  pattern : LinePattern
  replacement : List ReplacementPart
  /-- The number of the first match that is changed. -/
  first : Nat := 1
  /-- Whether all further matches are changed, too. -/
  global : Bool := false
  /-- Whether a line that was changed is written. -/
  prints : Bool := false
  /-- The file to which a line that was changed is written. -/
  file : Option String := none
deriving Repr, DecidableEq

/-! ### Commands -/

/-- When a jump is made. -/
inductive JumpCause where
  | always
  /-- If something was replaced since the line was read, or since the last such jump. -/
  | replaced
  | nothingReplaced
deriving Repr, DecidableEq

/-- A command. The line that is edited may hold line breaks, and there is a second text that is held. -/
inductive Command where
  /-- The commands up to a place belong together. -/
  | block (stop : Nat)
  | blockEnd
  | label (name : String)
  | jump (cause : JumpCause) (name : String)
  | append (text : Bytes)
  | insert (text : Bytes)
  | change (text : Bytes)
  | number
  | delete
  | deleteFirst
  | fileName
  | get
  | getMore
  | hold
  | holdMore
  | exchange
  | list (width : Option Nat)
  | next
  | nextMore
  | print
  | printFirst
  | quit (status : Nat) (prints : Bool)
  | readFile (name : String)
  | readLine (name : String)
  | substitute (s : Substitution)
  | writeTo (name : String)
  | writeFirstTo (name : String)
  | transpose (pairs : List (UInt8 × UInt8))
  | clear
deriving Repr, DecidableEq

/-- A command with its scope. -/
structure Order where
  scope : Scope
  command : Command
deriving Repr, DecidableEq

/-- The names of the files to which a script writes. -/
def writtenFiles (script : Array Order) : List String :=
  script.toList.filterMap fun order => match order.command with
    | .writeTo name => some name
    | .writeFirstTo name => some name
    | .substitute s => s.file
    | _ => none

/-- The place of a label in a script. -/
def labelPlace? (script : Array Order) (name : String) : Option Nat :=
  script.findIdx? fun order => order.command == .label name

end ArtifactPipeline.Shell.Editing
