import ArtifactPipeline.Shell.Pattern
import ArtifactPipeline.Shell.Regular.Reader
import ArtifactPipeline.Shell.Utility.Contents

/-!
# Lines that match

The program `grep` chooses the lines of files in which one of some patterns matches, and writes them, or
the parts that match, or tells only how many there are or in which files they are. Lines around the chosen
ones can be written, too.

* `Choice.find?` finds the first match in a line, and `Choice.holds` says whether a line is chosen;
* `Passage.step` goes on by one line, and `searchText` goes through the lines of a file;
* `grep` searches files.
-/

namespace ArtifactPipeline.Shell.Utility

/-! ### Choosing lines -/

/-- How lines are chosen. -/
structure Choice where
  expressions : List Regular.Expression
  folds : Bool := false
  /-- Whether only whole words match. -/
  words : Bool := false
  /-- Whether only whole lines match. -/
  lines : Bool := false
  /-- Whether the lines without a match are chosen. -/
  inverts : Bool := false

namespace Choice

variable (c : Choice)

/-- A line as a text that is searched. -/
def subject (line : Bytes) : Regular.Subject := { octets := line.toArray, folds := c.folds }

/-- The farthest end of a match of an expression at a place. -/
def end? (e : Regular.Expression) (t : Regular.Subject) (i : Nat) : Option Nat :=
  let like : Regular.Spot → Regular.Spot → Bool :=
    if e.remembers then fun a b => a == b else fun a b => a.place == b.place
  let ends := (e.from like t ⟨i, []⟩).map Regular.Spot.place
  (ends.filter fun j =>
    (!c.lines || (i == 0 && j == t.octets.size)) && (!c.words || (!t.wordBefore i && !t.wordAfter j))).max?

/-- The farthest end of a match at a place. -/
def endAt? (t : Regular.Subject) (i : Nat) : Option Nat :=
  (c.expressions.filterMap fun e => c.end? e t i).max?

/-- The first match from a place on: where it starts and where it ends. -/
def findFrom? (t : Regular.Subject) : (tries : Nat) → (i : Nat) → Option (Nat × Nat)
  | 0, _ => none
  | tries + 1, i =>
    match c.endAt? t i with
    | some j => some (i, j)
    | none => findFrom? t tries (i + 1)

/-- The first match in a text from a place on. -/
def find? (t : Regular.Subject) (i : Nat) : Option (Nat × Nat) :=
  c.findFrom? t (t.octets.size + 1 - i) i

/-- The matches in a text from a place on that are not empty. -/
def spans (t : Regular.Subject) : (fuel : Nat) → (i : Nat) → List (Nat × Nat)
  | 0, _ => []
  | fuel + 1, i =>
    match c.find? t i with
    | none => []
    | some (start, stop) =>
      if stop ≤ start then spans t fuel (start + 1) else (start, stop) :: spans t fuel stop

/-- Whether a line is chosen. -/
def holds (line : Bytes) : Bool := (c.find? (c.subject line) 0).isSome != c.inverts

end Choice

/-! ### Writing lines -/

/-- How lines that are found are written. -/
structure MatchForm where
  choice : Choice
  /-- The mark at the end of a line. -/
  mark : UInt8 := 0x0A
  /-- The name of the file, if it stands before each line. -/
  name : Option String := none
  /-- Whether the octet zero stands after the name. -/
  zeroNames : Bool := false
  numbers : Bool := false
  places : Bool := false
  /-- The columns for numbers, if a tab stands before the line. -/
  columns : Option Nat := none
  /-- Whether only the parts that match are written. -/
  parts : Bool := false
  /-- The number of lines before and after a chosen one. -/
  before : Nat := 0
  after : Nat := 0
  /-- What stands between lines that do not follow each other. -/
  gap : Option String := none

/-- A line of a file. -/
structure Row where
  /-- The number of the line, from one on. -/
  number : Nat
  /-- The number of the octets before it. -/
  place : Nat
  octets : Bytes

/-- The lines of a file. -/
def rowsFrom (mark : UInt8) : (number place : Nat) → List Bytes → List Row
  | _, _, [] => []
  | number, place, line :: rest =>
    { number, place, octets := withoutEnd mark line }
      :: rowsFrom mark (number + 1) (place + line.length) rest

namespace MatchForm

variable (f : MatchForm)

/-- What stands before a line, or before a part of it; a sign tells chosen lines from others. -/
def head (number place : Nat) (sign : String) (filled : Bool) : String :=
  let counted (n : Nat) : String := rightAligned (f.columns.getD 0) (toString n) ++ sign
  (match f.name with
    | some name => name ++ if f.zeroNames then "\x00" else sign
    | none => "")
    ++ (if f.numbers then counted number else "")
    ++ (if f.places then counted place else "")
    ++ if f.columns.isSome && filled && (f.name.isSome || f.numbers || f.places) then "\t" else ""

/-- A line as it is written. -/
def line (chosen : Bool) (r : Row) : Bytes :=
  let sign := if chosen then ":" else "-"
  if f.parts then
    if !chosen || f.choice.inverts then []
    else
      let t := f.choice.subject r.octets
      (f.choice.spans t (r.octets.length + 1) 0).flatMap fun (start, stop) =>
        Octets.bytes (f.head r.number (r.place + start) sign true)
          ++ (r.octets.drop start).take (stop - start) ++ [f.mark]
  else Octets.bytes (f.head r.number r.place sign (!r.octets.isEmpty)) ++ r.octets ++ [f.mark]

end MatchForm

/-- How far the lines of a file have been searched. -/
structure Passage where
  /-- What is written, the latest first. -/
  written : List Bytes := []
  /-- The number of chosen lines. -/
  count : Nat := 0
  /-- The number of lines that may still be chosen, if there is a limit. -/
  left : Option Nat := none
  /-- The number of lines after a chosen one that are still to be written. -/
  pending : Nat := 0
  /-- The latest lines that are not written, the last one first. -/
  kept : List Row := []
  /-- Whether lines were left out since the last one that was written. -/
  skipped : Bool := true
  /-- Whether any line was chosen, in this file or in one before. -/
  used : Bool := false
  /-- The number of octets up to the end of the last chosen line. -/
  reached : Nat := 0

namespace Passage

variable (f : MatchForm)

/-- Write a line. -/
def write (chosen : Bool) (r : Row) (p : Passage) : Passage :=
  { p with written := f.line chosen r :: p.written, skipped := false }

/-- Go on by one line. -/
def step (p : Passage) (r : Row) : Passage :=
  let full := p.left = some 0
  if !full && f.choice.holds r.octets then
    let gap := match f.gap with
      | some text => if p.used && p.skipped then [Octets.bytes (text ++ "\n")] else []
      | none => []
    let p := { p with written := gap ++ p.written }
    let p := p.kept.reverse.foldl (fun p r => p.write f false r) p
    { p.write f true r with
      count := p.count + 1
      left := p.left.map (· - 1)
      pending := f.after
      kept := []
      used := true
      reached := r.place + r.octets.length + 1 }
  else if 0 < p.pending then { p.write f false r with pending := p.pending - 1 }
  else
    let kept := r :: p.kept
    if f.before < kept.length then { p with kept := kept.take f.before, skipped := true }
    else { p with kept }

/-- Go on by lines, up to where no more can be written. -/
def steps (p : Passage) : List Row → Passage
  | [] => p
  | r :: rest => if p.left = some 0 && p.pending = 0 then p else (p.step f r).steps rest

end Passage

/-! ### Requests -/

/-- What is told about files. -/
inductive FileTelling where
  | lines
  | counts
  | matching
  | others
  /-- Nothing; only the status tells something. -/
  | nothing
deriving Repr, DecidableEq

/-- What is asked of `grep`. -/
structure SearchRequest where
  form : MatchForm
  telling : FileTelling := .lines
  most : Option Nat := none
  /-- Whether names stand before lines, where that is said. -/
  names : Option Bool := none
  tabs : Bool := false
  label : String := "(standard input)"
  quiet : Bool := false
  /-- What is made of files with the octet zero. -/
  octets : String := "binary"
  /-- What is made of directories. -/
  directories : String := "read"
  followsLinks : Bool := false
  included : List String := []
  excluded : List String := []
  excludedDirectories : List String := []

/-- The options of `grep`. -/
def grepOptions : OptionTable where
  flags := "GEFPUbcilLTnxhsZzoqrRvauVHwyI0123456789\x04\x05\x06"
  valued := "ABCDdfmeX\x07\x0E\x0F\x10\x11\x12\x13"
  optional := "\x03"
  long := longNames ("G=basic-regexp E=extended-regexp F=fixed-regexp F=fixed-strings P=perl-regexp "
    ++ "A=after-context B=before-context \x07=binary-files U=binary b=byte-offset C=context \x03=color "
    ++ "\x03=colour c=count D=devices d=directories \x0E=exclude \x0F=exclude-from \x10=exclude-dir f=file "
    ++ "l=files-with-matches L=files-without-match \x11=group-separator") ++ longNames ("\x12=include "
    ++ "i=ignore-case \x04=no-ignore-case T=initial-tab \x13=label \x05=line-buffered n=line-number "
    ++ "x=line-regexp m=max-count h=no-filename \x06=no-group-separator s=no-messages Z=null z=null-data "
    ++ "o=only-matching q=quiet r=recursive R=dereference-recursive e=regexp v=invert-match q=silent "
    ++ "a=text u=unix-byte-offsets H=with-filename w=word-regexp")

/-- Point to help, and stop with a status. -/
def grepUsageWith {α : Type} (status : Nat) : Task α := do
  Task.note "Usage: grep [OPTION]... PATTERNS [FILE]..."
  Task.note "Try 'grep --help' for more information."
  Task.ends status
  Task.stop

/-- Point to help, and stop. -/
def grepUsage {α : Type} : Task α := grepUsageWith 2

/-- A number of lines around a chosen one. -/
def contextLength (text : String) : Task Nat :=
  match Amount.read [] text with
  | .exactly n => return n
  | .tooLarge => return Amount.bound
  | _ => Task.fail (text ++ ": invalid context length argument")

/-- The number of lines that may be chosen; a number below zero is no limit. -/
def maxCount (text : String) : Task (Option Nat) :=
  match text.toList with
  | '-' :: digits =>
    match Amount.read [] (String.ofList digits) with
    | .exactly n => return if n = 0 then some 0 else none
    | .tooLarge => return none
    | _ => Task.fail "invalid max count"
  | _ =>
    match Amount.read [] text with
    | .exactly n => return some n
    | .tooLarge => return none
    | _ => Task.fail "invalid max count"

/-! ### Patterns -/

/-- The names of ways to write patterns, and the letters of the options for them. -/
def matcherNames : List (String × Char) :=
  [("grep", 'G'), ("egrep", 'E'), ("fgrep", 'F'), ("awk", 'E'), ("gawk", 'E'), ("posixawk", 'E'), ("perl", 'P')]

/-- How patterns are written, by the letter of an option. -/
def matcherOf (a : Arguments) : Task Char := do
  let letters ← a.options.filterMapM fun (letter, value) =>
    if "EFGP".toList.contains letter then return some letter
    else if letter = 'X' then
      match matcherNames.lookup value with
      | some letter => return some letter
      | none => Task.fail ("invalid matcher " ++ value)
    else return none
  match letters with
  | [] => return 'G'
  | first :: rest =>
    if rest.all (· == first) then return first else Task.fail "conflicting matchers specified"

/-- A pattern with the classes of digits spelled out. -/
def digitsSpelled : List Char → List Char
  | '\\' :: 'd' :: rest => "[0-9]".toList ++ digitsSpelled rest
  | '\\' :: 'D' :: rest => "[^0-9]".toList ++ digitsSpelled rest
  | '\\' :: c :: rest => '\\' :: c :: digitsSpelled rest
  | c :: rest => c :: digitsSpelled rest
  | [] => []

/-- The expression that a pattern is. -/
def expressionOf (matcher : Char) (pattern : String) : Except Regular.Fault Regular.Expression :=
  match matcher with
  | 'F' => .ok (pattern.toList.foldl (fun e c => e.then (.just c)) .empty)
  | 'P' => Regular.Expression.read { extended := true } (String.ofList (digitsSpelled pattern.toList))
  | matcher => Regular.Expression.read { extended := matcher == 'E', lenient := true } pattern

/-- The signs for repetition that stand at a start, where nothing can be repeated. -/
def idleSigns (d : Regular.Dialect) : (fuel : Nat) → (starts : Bool) → List Char → List String
  | 0, _, _ => []
  | fuel + 1, starts, cs =>
    let (sign, rest) := Regular.nextSign d false cs
    match sign with
    | .stop | .backslash => []
    | .openGroup | .choice => idleSigns d fuel true rest
    | .edge _ => idleSigns d fuel starts rest
    | .times _ _ written =>
      (if starts then [String.singleton written] else []) ++ idleSigns d fuel starts rest
    | .openBound =>
      match Regular.readBound d rest with
      | .ok (some (_, _, rest)) => (if starts then ["\x7b...\x7d"] else []) ++ idleSigns d fuel false rest
      | _ => idleSigns d fuel false rest
    | .openSet =>
      match Regular.readSet rest with
      | .ok (_, rest) => idleSigns d fuel false rest
      | .error _ => []
    | _ => idleSigns d fuel false rest

/-- The patterns in a text, one in each line. -/
def patternsIn (text : String) : List String := (Text.splitOn '\n' text.toList).map String.ofList

/-- The patterns that options give. -/
def givenPatterns (a : Arguments) : Task (List String) := do
  let mut patterns := []
  for (letter, value) in a.options do
    if letter = 'e' then patterns := patterns ++ patternsIn value
    if letter = 'f' then
      match ← Task.readOperand value with
      | .error fault =>
        Task.fail ((if value = "-" then "(standard input)" else value) ++ ": " ++ faultText fault)
      | .ok bytes =>
        let text := textOf (withoutEnd 0x0A bytes)
        if !bytes.isEmpty then patterns := patterns ++ patternsIn text
  return patterns

/-- The patterns of names that are left out, some of which stand in the lines of files, where blanks at an
end do not count. -/
def namesLeftOut (a : Arguments) : Task (List String) := do
  let mut patterns := []
  for (letter, value) in a.options do
    if letter = '\x0E' then patterns := patterns ++ [value]
    if letter = '\x0F' then
      match ← Task.readOperand value with
      | .error fault => Task.fail (value ++ ": " ++ faultText fault)
      | .ok bytes =>
        let lines := (patternsIn (textOf bytes)).map fun line =>
          String.ofList (line.toList.reverse.dropWhile Char.isWhitespace).reverse
        patterns := patterns ++ lines.filter (· != "")
  return patterns

/-- The expressions of patterns, and remarks on them. -/
def expressionsOf (matcher : Char) (patterns : List String) : Task (List Regular.Expression) := do
  let expressions ← patterns.mapM fun pattern =>
    match expressionOf matcher pattern with
    | .ok e => pure e
    | .error fault => Task.fail fault.message
  if matcher = 'E' then
    for pattern in patterns do
      for sign in idleSigns { extended := true, lenient := true } (pattern.length + 1) true pattern.toList do
        Task.remark ("warning: " ++ sign ++ " at start of expression")
  return expressions

/-! ### Files -/

/-- Whether a pattern matches a name, or the end of it after a slash. -/
def matchesName (pattern name : String) : Bool :=
  let glyphs := Glyphs.wild pattern.toList
  let parts := Path.parts name
  (List.range parts.length).any fun i =>
    Pattern.matchesText glyphs (String.intercalate "/" (parts.drop i))

/-- Whether a file is left out because of its name. -/
def SearchRequest.leavesOut (r : SearchRequest) (name : String) : Bool :=
  (!r.included.isEmpty && !r.included.any (matchesName · name)) || r.excluded.any (matchesName · name)

/-- Whether a directory is left out because of its name. -/
def SearchRequest.leavesOutDirectory (r : SearchRequest) (name : String) : Bool :=
  r.excludedDirectories.any fun pattern =>
    matchesName (Path.withoutEndSlashes pattern) (Path.withoutEndSlashes name)

/-- The files below a directory. -/
def SearchRequest.filesBelow (r : SearchRequest) (files : FileSystem) : (fuel : Nat) → (start : String) →
    Location → List String
  | 0, _, _ => []
  | fuel + 1, start, l =>
    (files.list l).flatMap fun (name, node) =>
      let path := start ++ Octets.ofText name
      let found := match node with
        | .link _ =>
          if r.followsLinks then (files.find (State.fileName path)).toOption else none
        | node => some (l ++ [name], node)
      match found with
      | some (k, .directory) =>
        if r.leavesOutDirectory (Octets.ofText name) then [] else r.filesBelow files fuel (path ++ "/") k
      | some (_, .file _) => if r.leavesOut (Octets.ofText name) then [] else [path]
      | _ => []

/-- How the search of files has gone so far. -/
structure SearchState where
  /-- Whether a line was chosen. -/
  found : Bool := false
  /-- Whether a file could not be read. -/
  wrong : Bool := false
  /-- Whether the search is over before its end. -/
  done : Bool := false

namespace SearchRequest

variable (r : SearchRequest)

/-- Report something that goes wrong, unless reports are not wanted. -/
def report (s : SearchState) (text : String) : Task SearchState := do
  if !r.quiet then Task.remark text
  return { s with wrong := true }

/-- What is written about a file with so many chosen lines. -/
def summary (form : MatchForm) (shown : String) (count : Nat) : String :=
  let ending := if form.zeroNames then "\x00" else "\n"
  match r.telling with
  | .counts =>
    (match form.name with
      | some name => name ++ if form.zeroNames then "\x00" else ":"
      | none => "") ++ toString count ++ "\n"
  | .matching => if count = 0 then "" else shown ++ ending
  | .others => if count = 0 then shown ++ ending else ""
  | .lines | .nothing => ""

/-- The place in the input from which others go on: after the last chosen line if no more lines may be
chosen, or else the end. -/
def leaveInput (number : Nat) (length : Nat) (p : Passage) : Task Unit := do
  let early := r.most.isSome && p.left = some 0 && (← get).toMachine.isSeekableOpening number
  stepOver number (if early then min p.reached length else length)

/-- Search a file that is open. -/
def searchOpen (named : Bool) (name : String) (number : Nat) (s : SearchState) : Task SearchState := do
  let d ← get
  let shown := if name = "-" then r.label else name
  let id? := match d.openings[number]? with
    | some { target := .node (.file id), .. } => some id
    | _ => none
  let writesSame := match d.toMachine.opening? 1 with
    | some { target := .node (.file id), .. } => id? == some id
    | _ => false
  if r.telling == .lines && writesSame && r.most != some 1 then
    r.report s (shown ++ ": input file is also the output")
  else
    let (bytes, s) ← match d.toMachine.leftOf number none with
      | .ok bytes => pure (bytes, s)
      | .error fault => do
        let s ← r.report s (shown ++ ": " ++ faultText fault)
        pure ([], s)
    let hidden := r.octets != "text" && r.form.mark != 0 && bytes.contains 0
    if hidden && r.octets = "without-match" then
      Task.putText (r.summary { r.form with name := if named then some shown else none } shown 0)
      stepOver number bytes.length
      return s
    else
      let size := match id? with
        | some id => (toString (d.files.sizeOf id)).length
        | none => 19
      let form : MatchForm := { r.form with
        name := if named then some shown else none
        columns := if r.tabs then some size else none }
      let text := if hidden then bytes.map fun b => if b = 0 then r.form.mark else b else bytes
      let silent := r.telling != .lines || hidden
      let first := silent && r.telling != .counts
      let start : Passage := { left := if first then some 1 else r.most, used := s.found }
      let plain : MatchForm := if silent then { form with before := 0, after := 0, parts := true } else form
      let p := start.steps plain (rowsFrom r.form.mark 1 0 (endedBy r.form.mark text))
      if !silent then Task.put p.written.reverse.flatten
      Task.putText (r.summary form shown p.count)
      if first then stepOver number bytes.length else r.leaveInput number bytes.length p
      if hidden && r.telling == .lines && 0 < p.count then
        Task.remark (shown ++ ": binary file matches")
      return { s with found := s.found || 0 < p.count, done := r.telling == .nothing && 0 < p.count }

/-- Search a file. -/
def searchFile (named : Bool) (s : SearchState) (name : String) : Task SearchState := do
  if s.done then return s
  match ← Task.openOperand name with
  | .ok number => r.searchOpen named name number s
  | .error fault => r.report s ((if name = "-" then r.label else name) ++ ": " ++ faultText fault)

/-- Search what an operand names; the names of several files stand before their lines. -/
def searchOperand (several : Bool) (s : SearchState) (name : String) : Task SearchState := do
  let d ← get
  let named := r.names.getD several
  match (if name = "-" then none else (d.files.find (State.fileName name)).toOption) with
  | some (l, .directory) =>
    if r.leavesOutDirectory name || r.directories = "skip" then return s
    else if r.directories = "recurse" then
      let start := if Path.endsWithSlash name then name else name ++ "/"
      (r.filesBelow d.files (d.files.nodes.length + 1) start l).foldlM
        (fun s name => r.searchFile (r.names.getD true) s name) s
    else r.searchFile named s name
  | some _ => if r.leavesOut name then return s else r.searchFile named s name
  | none => r.searchFile named s name

/-- Search all files below the working directory. -/
def searchHere (s : SearchState) : Task SearchState := do
  let d ← get
  (r.filesBelow d.files (d.files.nodes.length + 1) "" d.files.workingDirectory).foldlM
    (fun s name => r.searchFile (r.names.getD true) s name) s

end SearchRequest

/-- The number that the options with digits spell. -/
def digitOptions? (a : Arguments) : Option String :=
  let digits := (a.options.map Prod.fst).filter Char.isDigit
  if digits.isEmpty then none else some (String.ofList digits)

/-- The lines of files in which patterns match. Before other options, one can say how patterns are
written. -/
def grepWith (given : List String) : Utility := fun arguments => do
  Task.faultsEndWith 2
  modify fun d => { d with program := "grep" }
  let arguments := given ++ arguments
  let a := grepOptions.read true (arguments.length + 1) arguments
  let mut most : Option Nat := none
  for (letter, value) in a.options do
    match letter with
    | 'A' | 'B' | 'C' => discard (contextLength value)
    | 'm' => most ← maxCount value
    | '\x07' =>
      if !(["binary", "text", "without-match"].contains value) then
        Task.fail "unknown binary-files type"
    | 'D' => if !(["read", "skip"].contains value) then Task.fail "unknown devices method"
    | 'd' =>
      if !(["read", "recurse", "skip"].contains value) then
        Task.remark ("invalid argument " ++ Quoting.text value ++ " for '--directories'")
        Task.note "Valid arguments are:"
        for word in ["read", "recurse", "skip"] do Task.note ("  - " ++ Quoting.text word)
        grepUsageWith 1
    | 'u' => Task.remark "warning: --unix-byte-offsets (-u) is obsolete"
    | _ => pure ()
  match a.fault with
  | some fault =>
    Task.remark fault.message
    grepUsage
  | none => pure ()
  let matcher ← matcherOf a
  let patterns ← givenPatterns a
  let (patterns, operands) ← if a.hasAny "ef" then pure (patterns, a.operands)
    else
      match a.operands with
      | [] => grepUsage
      | first :: rest => pure (patternsIn first, rest)
  let expressions ← expressionsOf matcher patterns
  let context ← match a.value? 'C', digitOptions? a with
    | some text, _ => some <$> contextLength text
    | none, some text => some <$> contextLength text
    | none, none => pure none
  let around (letter : Char) : Task (Option Nat) :=
    match a.value? letter with
    | some text => some <$> contextLength text
    | none => return context
  let before ← around 'B'
  let after ← around 'A'
  let gap := if before.isNone && after.isNone || (a.last? "\x11\x06").any (·.1 == '\x06') then none
    else some ((a.value? '\x11').getD "--")
  let form : MatchForm := {
    choice := {
      expressions
      folds := (a.last? "iy\x04").any (·.1 != '\x04')
      words := a.has 'w'
      lines := a.has 'x'
      inverts := a.has 'v' }
    mark := if a.has 'z' then 0 else 0x0A
    zeroNames := a.has 'Z'
    numbers := a.has 'n'
    places := a.has 'b'
    parts := a.has 'o'
    before := before.getD 0
    after := after.getD 0
    gap }
  let excluded ← namesLeftOut a
  let r : SearchRequest := {
    form
    telling := if a.has 'q' then .nothing
      else
        match a.last? "lL" with
        | some ('l', _) => .matching
        | some _ => .others
        | none => if a.has 'c' then .counts else .lines
    most
    names := (a.last? "hH").map (·.1 == 'H')
    tabs := a.has 'T'
    label := (a.value? '\x13').getD "(standard input)"
    quiet := a.has 's'
    octets := match a.last? "aI\x07" with
      | some ('a', _) => "text"
      | some ('I', _) => "without-match"
      | some (_, value) => value
      | none => "binary"
    directories := match a.last? "rRd" with
      | some ('d', value) => value
      | some _ => "recurse"
      | none => "read"
    followsLinks := (a.last? "rR").any (·.1 == 'R')
    included := a.values '\x12'
    excluded
    excludedDirectories := a.values '\x10' }
  if most = some 0 && r.telling != .others then Task.ends 1
  else
    let s ←
      if operands.isEmpty && r.directories = "recurse" then r.searchHere {}
      else
        (if operands.isEmpty then ["-"] else operands).foldlM
          (r.searchOperand (1 < operands.length)) {}
    Task.ends (if s.wrong && !s.done then 2 else if s.found then 0 else 1)

/-- The lines of files in which patterns match. -/
def grep : Utility := grepWith []

/-- The lines in which patterns match that are written in the extended way. -/
def egrep : Utility := grepWith ["-E"]

/-- The lines in which one of some texts stands. -/
def fgrep : Utility := grepWith ["-F"]

end ArtifactPipeline.Shell.Utility
