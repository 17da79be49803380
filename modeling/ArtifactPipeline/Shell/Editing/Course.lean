import ArtifactPipeline.Shell.Editing.Script
import ArtifactPipeline.Shell.Utility.Attributes

/-!
# Editing lines

The commands of a script are carried out on one line after the other. What is written stays in order: the
line that is edited, texts that commands insert before it, and texts that wait until it has been written.

* `Editor.inScope` says whether a command is meant for the line that is edited;
* `Editor.substitute` changes the matches in a line;
* `Editor.edit` goes through all lines.
-/

namespace ArtifactPipeline.Shell.Editing

/-- What is asked of an editor. -/
structure EditRequest where
  script : Array Order
  /-- The place in the script that is named when an expression is missing. -/
  place : String
  /-- Whether lines are written only where the script says so. -/
  silent : Bool := false
  /-- Whether each file has its own first and last line. -/
  separate : Bool := false
  /-- The ending of the names of files as they were, if files are replaced; it may be empty. -/
  replaces : Option String := none
  /-- Whether the files to which links lead are replaced, and not the links. -/
  followsLinks : Bool := false
  /-- Whether no more of the input is taken than the lines that are edited. -/
  sparing : Bool := false
  /-- The mark at the end of a line. -/
  mark : UInt8 := 0x0A
  /-- The columns in which lines are shown. -/
  width : Nat := 70

/-- How far a range of lines has been followed. -/
inductive RangeState where
  | outside
  | inside
  /-- Up to the line with a number. -/
  | upTo (n : Nat)
  /-- The range is over. Where it starts with the number of a line, it does not start again. -/
  | passed
deriving Repr, DecidableEq

/-- Whether a range goes on. -/
def RangeState.goesOn : RangeState → Bool
  | outside | passed => false
  | inside | upTo _ => true

/-- A file whose lines are edited. -/
structure OpenFile where
  name : String
  lines : List Bytes
  /-- The opening, if what is not used can be left for others. -/
  shared : Option Nat := none

/-- A text that is written after the line. -/
inductive Waiting where
  | text (bytes : Bytes)
  | file (name : String)

/-- A file to which commands write, and whether its last line lacks an end. -/
structure Outlet where
  name : String
  number : Nat
  lacksEnd : Bool := false

/-- A line or another text, and whether a mark ends it. -/
structure Space where
  bytes : Bytes := []
  ended : Bool := true

/-- How far an editor has come. -/
structure Course where
  /-- The line that is edited. -/
  space : Space := {}
  /-- The text that is held. -/
  held : Space := {}
  number : Nat := 0
  current : OpenFile := { name := "-", lines := [] }
  /-- Whether there is a current file. -/
  isOpen : Bool := false
  /-- The next file, if it has been opened already. -/
  ahead : Option OpenFile := none
  /-- The files that are still to be opened. -/
  files : List String
  replaced : Bool := false
  lastExpression : Option Regular.Expression := none
  ranges : Array RangeState
  waiting : List Waiting := []
  outlets : List Outlet := []
  /-- Why a file could not be written. -/
  fault : Option IoFault := none
  /-- What has been written, the last part first. -/
  written : List Bytes := []
  lacksEnd : Bool := false
  /-- The lines that are left of files that are read line by line. -/
  readers : List (String × List Bytes) := []
  status : Nat := 0

/-- The work of an editor. -/
abbrev Editor := StateT Course Task

/-- What comes after a command. -/
inductive After where
  /-- The command at a place. -/
  | command (place : Nat)
  /-- The next line; the flag says whether this one is written before. -/
  | line (prints : Bool)
  /-- The script from its start, with what is left of the line. -/
  | again
  | quit (status : Nat)

namespace Editor

variable (r : EditRequest)

/-! ### Writing -/

/-- Report a fault after which nothing more can be done. What was written before stays. -/
def stop {α : Type} (status : Nat) (text : String) : Editor α := do
  Task.remark text
  Task.put (← get).written.reverse.flatten
  Task.ends status
  (Task.stop : Task α)

/-- Write octets as they are. -/
def putRaw (bytes : Bytes) : Editor Unit := modify fun c =>
  { c with
    written := bytes :: (if c.lacksEnd then [r.mark] :: c.written else c.written)
    lacksEnd := false }

/-- Write a text with its end, if it has one. -/
def putSpace (s : Space) : Editor Unit := do
  putRaw r (if s.ended then s.bytes ++ [r.mark] else s.bytes)
  modify fun c => { c with lacksEnd := !s.ended }

/-- Write a text to a file of commands. -/
def putTo (name : String) (s : Space) : Editor Unit := do
  match (← get).outlets.find? (·.name == name) with
  | none => pure ()
  | some o =>
    let bytes := (if o.lacksEnd then [r.mark] else []) ++ s.bytes ++ (if s.ended then [r.mark] else [])
    if name = "/dev/stdout" ∧ r.replaces.isNone then modify fun c => { c with written := bytes :: c.written }
    else
      match ← Task.writeTo o.number bytes with
      | .ok () => pure ()
      | .error fault => modify fun c => { c with fault := some fault }
    modify fun c => { c with outlets := c.outlets.map fun p =>
      if p.name == name then { p with lacksEnd := !s.ended } else p }

/-- The contents of a file, or nothing if it is not there. -/
def contents (name : String) : Editor Bytes := do
  match ← Task.openName .read name with
  | .error _ => return []
  | .ok number =>
    match ← Task.takeAll number with
    | .ok bytes => return bytes
    | .error fault => stop 4 ("read error on " ++ name ++ ": " ++ faultText fault)

/-- Write the texts that wait until the line has been written. -/
def release : Editor Unit := do
  let waiting := (← get).waiting
  modify fun c => { c with waiting := [] }
  for w in waiting.reverse do
    match w with
    | .text bytes => putRaw r bytes
    | .file name =>
      let bytes ← contents name
      if !bytes.isEmpty then putRaw r bytes

/-! ### Reading -/

/-- The name of a file as it was, before it is replaced. Stars in the ending stand for the name. -/
def keptName (ending name : String) : String :=
  if ending.toList.contains '*' then
    String.ofList (ending.toList.flatMap fun c => if c = '*' then name.toList else [c])
  else name ++ ending

/-- Put what has been written in the place of the current file. -/
def replaceCurrent (ending : String) : Editor Unit := do
  let c ← get
  let name := c.current.name
  modify fun c => { c with written := [], lacksEnd := false }
  let files := (← (MonadLift.monadLift (MonadState.get : Task Desk) : Editor Desk)).files
  let place := if r.followsLinks then files.find (State.fileName name)
    else files.findLink (State.fileName name)
  match place, files.find (State.fileName name) with
  | .ok (l, _), .ok (k, n) =>
    let mode := Utility.modeAt files k n
    let kept := keptName ending name
    let target := if kept.toList.getLast? = some '/' then .error .notDirectory
      else if files.hasDirectory (State.fileName kept) then .error .isDirectory
      else files.place (State.fileName kept)
    let files ←
      if ending.isEmpty then pure files
      else
        match target with
        | .ok target => pure ((files.forget (· == target)).move l target)
        | .error fault => stop 4 ("cannot rename " ++ name ++ ": " ++ faultText fault)
    let files := files.addFile l c.written.reverse.flatten
    Task.change (match files.node? l with
      | some n => Utility.setModeAt files l mode n
      | none => files)
  | _, _ => pure ()

/-- Leave the current file. -/
def leave : Editor Unit := do
  let c ← get
  if c.isOpen then
    match c.current.shared with
    | some number =>
      let left := c.current.lines.foldl (fun n line => n + line.length) 0
      match (← (MonadLift.monadLift (MonadState.get : Task Desk) : Editor Desk)).toMachine.leftOf number none with
      | .ok bytes => Utility.stepOver number (bytes.length - left)
      | .error _ => pure ()
    | none => pure ()
    match r.replaces with
    | some ending => replaceCurrent r ending
    | none => pure ()
    modify fun c => { c with isOpen := false, current := { c.current with lines := [] } }

/-- Open a file, unless it cannot be read. What cannot be read although it can be opened is left out if
`lenient` says so. -/
def openFile (lenient : Bool) (name : String) : Editor (Option OpenFile) := do
  let unreadable {α : Type} (fault : IoFault) : Editor α :=
    stop 4 ("read error on " ++ (if name = "-" then "stdin" else name) ++ ": " ++ faultText fault)
  let isInput := name == "-" && r.replaces.isNone
  match ← if isInput then Task.openOperand name else Task.openName .read name with
  | .error fault =>
    if isInput then unreadable fault
    if r.followsLinks then stop 4 ("couldn't readlink " ++ name ++ ": " ++ faultText fault)
    Task.remark ("can't read " ++ name ++ ": " ++ faultText fault)
    modify fun c => { c with status := 2 }
    return none
  | .ok number =>
    let d : Desk ← MonadLift.monadLift (MonadState.get : Task Desk)
    let isPlain := match d.files.find (State.fileName name) with
      | .ok (_, .file _) => true
      | _ => false
    if r.replaces.isSome && !isPlain then
      stop 4 ("couldn't edit " ++ name ++ ": not a regular file")
    match d.toMachine.leftOf number none with
    | .error fault => if lenient then return none else unreadable fault
    | .ok bytes =>
      let shared := r.sparing || d.toMachine.isSeekableOpening number
      if !shared then Utility.stepOver number bytes.length
      return some {
        name
        lines := Utility.endedBy r.mark bytes
        shared := if shared then some number else none }

/-- Open the next file in which there is something. -/
def lookAhead (lenient : Bool) : (tries : Nat) → Editor Bool
  | 0 => return false
  | tries + 1 => do
    let c ← get
    if c.ahead.isSome then return true
    match c.files with
    | [] => return false
    | name :: rest =>
      set { c with files := rest }
      match ← openFile r lenient name with
      | none => lookAhead lenient tries
      | some file =>
        if file.lines.isEmpty && r.replaces.isNone then lookAhead lenient tries
        else
          modify fun c => { c with ahead := some file }
          return true

/-- The range states at the start. -/
def startRanges : Array RangeState := r.script.map fun order =>
  if order.scope.start == some (.line 0) then .inside else .outside

/-- Take the next line, and the mark at its end. -/
def takeLine : (tries : Nat) → Editor (Option Space)
  | 0 => return none
  | tries + 1 => do
    let c ← get
    match c.current.lines with
    | line :: rest =>
      set { c with current := { c.current with lines := rest }, number := c.number + 1 }
      return some { bytes := Utility.withoutEnd r.mark line, ended := line.getLast? == some r.mark }
    | [] =>
      leave r
      if !(← lookAhead r false (c.files.length + 1)) then return none
      modify fun c => match c.ahead with
        | some file =>
          let c := { c with current := file, isOpen := true, ahead := none }
          if r.separate then { c with number := 0, ranges := startRanges r } else c
        | none => c
      takeLine tries

/-- Go on to the next line; `joins` says that it comes after the one that is edited. -/
def advance (joins : Bool) : Editor Bool := do
  release r
  modify fun c => { c with replaced := false }
  match ← takeLine r ((← get).files.length + 3) with
  | none => return false
  | some line =>
    modify fun c => { c with
      space := if joins then { line with bytes := c.space.bytes ++ r.mark :: line.bytes } else line }
    return true

/-- Whether the line that is edited is the last one. -/
def isLast : Editor Bool := do
  let c ← get
  if !c.current.lines.isEmpty then return false
  else if r.separate then return true
  else return !(← lookAhead r true (c.files.length + 1))

/-- Whether there is no line after the one that is edited. -/
def isEnd : Editor Bool := do
  let c ← get
  if !c.current.lines.isEmpty then return false
  else if r.separate then return c.files.isEmpty && c.ahead.isNone
  else return !(← lookAhead r true (c.files.length + 1))

/-! ### Scopes -/

/-- The expression of a pattern, which then is the last one. -/
def expressionOf (p : LinePattern) : Editor Regular.Expression := do
  match p.expression, (← get).lastExpression with
  | some e, _ =>
    modify fun c => { c with lastExpression := some e }
    return e
  | none, some e => return e
  | none, none => stop 1 (r.place ++ ": no previous regular expression")

/-- The text that a pattern searches. -/
def subject (p : LinePattern) (bytes : Bytes) : Regular.Subject :=
  { octets := bytes.toArray, folds := p.folds, byLines := p.byLines && r.mark == 0x0A }

/-- Whether a pattern matches in the line. -/
def matchesPattern (p : LinePattern) : Editor Bool := do
  let e ← expressionOf r p
  return (e.search? (subject r p (← get).space.bytes) 0).isSome

/-- Whether the line is at an address. -/
def isAt (a : Address) : Editor Bool := do
  let c ← get
  match a with
  | .line n => return c.number == n
  | .every first step => return first ≤ c.number && (c.number - first) % step == 0
  | .last => isLast r
  | .pattern p => matchesPattern r p

/-- Say how far the range of a command has been followed. -/
def setRange (place : Nat) (state : RangeState) : Editor Unit := modify fun c =>
  { c with ranges := c.ranges.set! place state }

/-- Whether a range starts at the line. If lines were joined since, it starts after its first line. -/
def startsRange (state : RangeState) (start : Address) : Editor Bool := do
  match start with
  | .line n => return state != .passed && n ≤ (← get).number
  | a => isAt r a

/-- Whether the line is in a range. -/
def inRange (place : Nat) (start : Address) (stop : Stop) : Editor Bool := do
  let c ← get
  match c.ranges.getD place .outside with
  | .upTo n =>
    if n ≤ c.number then setRange place .passed
    return match stop with
      | .line _ => c.number ≤ n
      | _ => true
  | .inside =>
    let stops ← match stop with
      | .last => isLast r
      | .pattern p => matchesPattern r p
      | _ => pure true
    if stops then setRange place .passed
    return true
  | state =>
    if !(← startsRange r state start) then return false
    let follow (n : Nat) : Editor Bool := do
      setRange place (if c.number < n then .upTo n else .passed)
      return true
    match stop with
    | .line n =>
      discard (follow n)
      return match start with
        | .line first => first == c.number || c.number ≤ n
        | _ => true
    | .more n => follow (c.number + n)
    | .multiple n =>
      if n = 0 then follow c.number else follow ((c.number / n + 1) * n)
    | .last | .pattern _ =>
      setRange place .inside
      return true

/-- Whether the command at a place is meant for the line. -/
def inScope (place : Nat) (s : Scope) : Editor Bool := do
  match s.start, s.stop with
  | none, _ => return !s.inverse
  | some a, none => return (← isAt r a) != s.inverse
  | some a, some stop => return (← inRange r place a stop) != s.inverse

/-! ### Changes -/

/-- What the groups of a match stand for. -/
def groupText (line : Bytes) (start : Nat) (s : Regular.Spot) (n : Nat) : Bytes :=
  let part (i j : Nat) : Bytes := (line.drop i).take (j - i)
  if n = 0 then part start s.place
  else
    match s.groups.lookup n with
    | some (i, j) => part i j
    | none => []

/-- Change the matches in a line from a place on. The answer is the changed text and whether there is a
change; `nth` is the number of the next match, and `afterMatch` says that a match ends at the place, after
which no empty one counts. -/
def substituted (s : Substitution) (e : Regular.Expression) (t : Regular.Subject) (line : Bytes) :
    (fuel : Nat) → (nth i : Nat) → (afterMatch : Bool) → List Bytes × Bool
  | 0, _, i, _ => ([line.drop i], false)
  | fuel + 1, nth, i, afterMatch =>
    match e.search? t i with
    | none => ([line.drop i], false)
    | some (start, spot) =>
      let before := (line.drop i).take (start - i)
      let stop := spot.place
      let single := (line.drop start).take 1
      let further (nth from_ : Nat) (here : List Bytes) (changed after : Bool) : List Bytes × Bool :=
        if line.length < from_ then (here, changed)
        else
          let (rest, more) := substituted s e t line fuel nth from_ after
          (here ++ rest, changed || more)
      if start = stop ∧ afterMatch ∧ start = i then
        further nth (start + 1) [before, single] false false
      else if nth < s.first then
        if start = stop then further (nth + 1) (start + 1) [before, single] false false
        else further (nth + 1) stop [before, groupText line start spot 0] false true
      else
        let text := Replacement.expand (groupText line start spot) none .same s.replacement
        if !s.global then ([before, text, line.drop stop], true)
        else if start = stop then further (nth + 1) (start + 1) [before, text, single] true false
        else further (nth + 1) stop [before, text] true true

/-- Change the matches in the line. -/
def substitute (s : Substitution) : Editor Unit := do
  let e ← expressionOf r s.pattern
  let line := (← get).space.bytes
  let (parts, changed) := substituted s e (subject r s.pattern line) line (line.length + 2) 1 0 false
  if changed then
    modify fun c => { c with space := { c.space with bytes := parts.flatten }, replaced := true }
    if s.prints then putSpace r (← get).space
    match s.file with
    | some name => putTo r name (← get).space
    | none => pure ()

/-- The form in which an octet is shown. -/
def shownOctet (b : UInt8) : Bytes :=
  if b = 0x5C then [0x5C, 0x5C]
  else if Utility.isPrintedByte b then [b]
  else
    match Quoting.escapeLetter? (Char.ofUInt8 b) with
    | some letter => [0x5C, letter.toUInt8]
    | none => 0x5C :: Octets.bytes (Utility.zeroPadded 8 3 b.toNat)

/-- The forms of octets, with breaks between so many columns. -/
def folded (width : Nat) : (used : Nat) → List Bytes → Bytes
  | _, [] => [0x24, 0x0A]
  | used, form :: rest =>
    if 0 < width ∧ width - 1 < used + form.length then
      [0x5C, 0x0A] ++ form ++ folded width form.length rest
    else form ++ folded width (used + form.length) rest

/-- The part of the line before its first break. -/
def firstPart (s : Space) (mark : UInt8) : Space :=
  if s.bytes.contains mark then { bytes := s.bytes.takeWhile (· != mark) } else s

/-! ### Commands -/

/-- Take the next line of a file that is read line by line. -/
def readerLine (name : String) : Editor (Option Bytes) := do
  let lines ← match (← get).readers.lookup name with
    | some lines => pure lines
    | none => pure (Utility.endedBy r.mark (← contents name))
  modify fun c => { c with readers := (name, lines.tail) :: c.readers.filter (·.1 != name) }
  return lines.head?

/-- Let a text wait until the line has been written. -/
def wait (w : Waiting) : Editor Unit := modify fun c => { c with waiting := w :: c.waiting }

/-- Carry out a command; `next` is the place of the one after it. -/
def carryOut (place : Nat) (stop? : Option Stop) (next : Nat) (command : Command) : Editor After := do
  let c ← get
  let go (work : Editor Unit) : Editor After := do
    work
    return .command next
  match command with
  | .block _ | .blockEnd | .label _ => return .command next
  | .jump cause name =>
    let jumps := match cause with
      | .always => true
      | .replaced => c.replaced
      | .nothingReplaced => !c.replaced
    if cause != .always then modify fun c => { c with replaced := false }
    if !jumps then return .command next
    return .command (if name = "" then r.script.size else (labelPlace? r.script name).getD r.script.size)
  | .append text => go (if text.isEmpty then pure () else wait (.text text))
  | .insert text => go (if text.isEmpty then pure () else putRaw r text)
  | .change text =>
    let inside := stop?.isSome && (c.ranges.getD place .outside).goesOn
    if !inside && !text.isEmpty then putRaw r text
    return .line false
  | .number => go (putRaw r (Octets.bytes (toString c.number ++ "\n")))
  | .delete => return .line false
  | .deleteFirst =>
    if c.space.bytes.contains r.mark then
      modify fun c => { c with space := { c.space with
        bytes := (c.space.bytes.dropWhile (· != r.mark)).drop 1 } }
      return .again
    else return .line false
  | .fileName => go (putRaw r (Octets.bytes (c.current.name ++ "\n")))
  | .get => go (set { c with space := c.held })
  | .getMore =>
    go (set { c with space := { c.held with bytes := c.space.bytes ++ r.mark :: c.held.bytes } })
  | .hold => go (set { c with held := c.space })
  | .holdMore =>
    go (set { c with held := { c.space with bytes := c.held.bytes ++ r.mark :: c.space.bytes } })
  | .exchange => go (set { c with space := c.held, held := c.space })
  | .list width =>
    go (putRaw r (folded (width.getD r.width) 0 (c.space.bytes.map shownOctet)))
  | .next =>
    if !r.silent then putSpace r c.space
    if (← isEnd r) || !(← advance r false) then return .quit 0 else return .command next
  | .nextMore =>
    if (← isEnd r) || !(← advance r true) then
      if !r.silent then putSpace r c.space
      return .quit 0
    else return .command next
  | .print => go (putSpace r c.space)
  | .printFirst => go (putSpace r (firstPart c.space r.mark))
  | .quit status prints =>
    if prints then
      if !r.silent then putSpace r c.space
      release r
    return .quit (status % 256)
  | .readFile name => go (wait (.file name))
  | .readLine name =>
    match ← readerLine r name with
    | some line => go (wait (.text line))
    | none => return .command next
  | .substitute s => go (substitute r s)
  | .writeTo name => go (putTo r name c.space)
  | .writeFirstTo name => go (putTo r name { firstPart c.space r.mark with ended := true })
  | .transpose pairs =>
    let changed := c.space.bytes.map fun b => (pairs.lookup b).getD b
    go (set { c with space := { c.space with bytes := changed } })
  | .clear => go (set { c with space := { c.space with bytes := [] } })

/-- Carry out the commands from a place on. -/
def commandsFrom : (fuel : Nat) → (place : Nat) → Editor After
  | 0, _ => return .quit 0
  | fuel + 1, place => do
    match r.script[place]? with
    | none => return .line true
    | some order =>
      if ← inScope r place order.scope then
        match ← carryOut r place order.scope.stop (place + 1) order.command with
        | .command next => commandsFrom fuel next
        | after => return after
      else
        commandsFrom fuel (match order.command with
          | .block stop => stop + 1
          | _ => place + 1)

/-- The number of commands that are carried out at most for a line. -/
def patience : Nat := 1000000

/-- Carry out the script on one line after the other. -/
def lines : (fuel : Nat) → (again : Bool) → Editor Nat
  | 0, _ => return 0
  | fuel + 1, again => do
    if !again then
      if !(← advance r false) then return 0
    match ← commandsFrom r patience 0 with
    | .quit status =>
      release r
      return status
    | .again =>
      release r
      lines fuel true
    | .line prints =>
      if prints && !r.silent then putSpace r (← get).space
      lines fuel false
    | .command _ => lines fuel false

/-- Carry out the script on all lines, and write what comes of it. -/
def edit : Editor Unit := do
  let status ← lines r patience false
  leave r
  let c ← get
  match c.fault with
  | some fault => stop 4 ("couldn't flush <unknown>: " ++ faultText fault)
  | none => pure ()
  Task.put c.written.reverse.flatten
  Task.ends (if status = 0 then c.status else status)

end Editor

end ArtifactPipeline.Shell.Editing
