import ArtifactPipeline.Shell.Regular.Reader
import ArtifactPipeline.Shell.Utility.Amount
import ArtifactPipeline.Shell.Utility.Rows

/-!
# Programs that pass contents on

Programs that write what they read: all of it, or a part at the start or the end of it, or its lines
in another order or back to front.

* `cat`, `tac` and `rev` write all lines;
* `head` and `tail` write a part of what they read, which an `Extent` describes;
* `tee` writes to files, too.
-/

namespace ArtifactPipeline.Shell.Utility

/-! ### All lines -/

/-- An octet in a form that can be seen. Octets above the first half of them are shown as the octet
below with letters before it. -/
def visible (b : UInt8) : Bytes :=
  let low (b : UInt8) : Bytes :=
    if b = 0x7F then Octets.bytes "^?" else if b < 0x20 then [0x5E, b + 0x40] else [b]
  if b < 0x80 then low b else Octets.bytes "M-" ++ low (b - 0x80)

/-- What `cat` does with lines. -/
structure Showing where
  numbersAll : Bool
  numbersFilled : Bool
  squeezes : Bool
  marksEnds : Bool
  marksTabs : Bool
  showsHidden : Bool

/-- Where in a line an octet stands. -/
inductive LinePlace where
  | start
  | inside
  /-- At the start of a line after an empty one. -/
  | afterEmpty
deriving Repr, DecidableEq

/-- How far lines have been shown. -/
structure Shown where
  place : LinePlace := .start
  /-- The number of the next line. -/
  number : Nat := 1
  /-- Whether a carriage return is held back until it is known whether a line ends after it. -/
  holdsReturn : Bool := false
  written : Bytes := []

namespace Showing

variable (s : Showing)

/-- The form in which an octet within a line is shown. -/
def octet (b : UInt8) : Bytes :=
  if b = 0x09 then if s.marksTabs then Octets.bytes "^I" else [b]
  else if s.showsHidden then visible b
  else [b]

/-- Write octets, the last one first. -/
def add (bytes : Bytes) (p : Shown) : Shown := { p with written := bytes.reverse ++ p.written }

/-- Write the number of the line if there is to be one. -/
def addNumber (wanted : Bool) (p : Shown) : Shown :=
  if wanted then
    { add (paddedNumber 6 p.number ++ [0x09]) p with number := p.number + 1 }
  else p

/-- Write a carriage return that was held back. -/
def release (p : Shown) : Shown :=
  if p.holdsReturn then { add [0x0D] p with holdsReturn := false } else p

/-- Show one more octet. -/
def step (p : Shown) (b : UInt8) : Shown :=
  if b = 0x0A then
    let returned := if p.holdsReturn then { add (visible 0x0D) p with holdsReturn := false } else p
    let ends : Bytes := if s.marksEnds then [0x24, 0x0A] else [0x0A]
    match p.place with
    | .inside => { add ends returned with place := .start }
    | .start => { add ends (addNumber s.numbersAll returned) with place := .afterEmpty }
    | .afterEmpty =>
      if s.squeezes then p else add ends (addNumber s.numbersAll returned)
  else
    let p := release p
    let p := if p.place = .inside then p else addNumber (s.numbersAll || s.numbersFilled) p
    let p := { p with place := .inside }
    if b = 0x0D ∧ s.marksEnds ∧ !s.showsHidden then { p with holdsReturn := true }
    else add (s.octet b) p

end Showing

/-- The options of `cat`. -/
def catOptions : OptionTable where
  flags := "nbsEeTtAvu"
  long := longNames ("b=number-nonblank n=number s=squeeze-blank v=show-nonprinting E=show-ends "
    ++ "T=show-tabs A=show-all")

/-- Whether the output would be read again: both go to one file, and the reader is not beyond the
writer. -/
def readsOutput (d : Desk) (number : Nat) : Bool :=
  match d.openings[number]?, d.toMachine.opening? 1 with
  | some input, some output =>
    match input.target, output.target with
    | .node (.file i), .node (.file j) =>
      i == j && input.place < (if output.appends then d.files.sizeOf j else output.place)
    | _, _ => false
  | _, _ => false

/-- Go through the octets of each operand, unless they would be read from where they go. -/
def passOn {α : Type} (names : List String) (start : α) (use : α → Bytes → Task α) : Task α := do
  if ((← get).toMachine.opening? 1).isNone then
    Task.fail ("standard output: " ++ faultText badChannel)
  let mut state := start
  for name in (if names.isEmpty then ["-"] else names) do
    match ← Task.openOperand name with
    | .error fault => Task.unreadable name fault
    | .ok number =>
      if readsOutput (← get) number then
        Task.complain (Quoting.name name ++ ": input file is output file")
      else
        match ← Task.takeAll number with
        | .ok bytes => state ← use state bytes
        | .error fault => Task.unreadable name fault
  if (names.isEmpty || names.contains "-") && ((← get).toMachine.number? 0).isNone then
    Task.complain ("closing standard input: " ++ faultText badChannel)
  return state

/-- The operands, one after another. -/
def cat : Utility := fun arguments => do
  let a ← Task.options catOptions arguments
  if !a.hasAny "nbsEeTtAv" then passOn a.operands () fun _ bytes => Task.put bytes
  else
    let s : Showing := {
      numbersAll := a.has 'n' && !a.has 'b'
      numbersFilled := a.has 'b'
      squeezes := a.has 's'
      marksEnds := a.hasAny "EeA"
      marksTabs := a.hasAny "TtA"
      showsHidden := a.hasAny "vetA" }
    let p ← passOn a.operands {} fun p bytes => do
      let p := bytes.foldl s.step p
      Task.put p.written.reverse
      return { p with written := [] }
    Task.put (Showing.release p).written.reverse

/-! ### Back to front -/

/-- The places where a text stands in octets, found from the end; the places do not overlap. -/
def marksBackward (mark : Bytes) (bytes : Bytes) : List (Nat × Nat) :=
  let found := bytes.length + 1
  let starts := ((List.range found).reverse.filter fun i => mark.isPrefixOf (bytes.drop i))
  (starts.foldl (fun (kept, limit) i =>
    if i + mark.length ≤ limit then (kept ++ [(i, i + mark.length)], i) else (kept, limit))
    (([] : List (Nat × Nat)), found)).1

/-- The places where an expression matches, found from the end. A match ends where the one after it
starts. -/
def matchesBackward (e : Regular.Expression) (bytes : Bytes) :
    (fuel : Nat) → (limit : Nat) → List (Nat × Nat)
  | 0, _ => []
  | fuel + 1, limit =>
    let t : Regular.Subject := { octets := (bytes.take limit).toArray, byLines := true }
    match (List.range limit).reverse.findSome? fun i => (e.longest? t i).map fun s => (i, s.place) with
    | none => []
    | some (i, stop) => (i, stop) :: matchesBackward e bytes fuel i

/-- The parts of octets, from the last to the first, that places between them make. The places are
given from the end; `before` says that they start parts. -/
def partsBackward (before : Bool) (bytes : Bytes) : (first : Bool) → (stop : Nat) →
    List (Nat × Nat) → Bytes
  | _, stop, [] => bytes.take stop
  | first, stop, (i, j) :: rest =>
    let part (k : Nat) : Bytes := (bytes.take stop).drop k
    if before then part i ++ partsBackward before bytes false i rest
    else if first && j == stop then partsBackward before bytes false j rest
    else part j ++ partsBackward before bytes false j rest

/-- The options of `tac`. -/
def tacOptions : OptionTable where
  flags := "br"
  valued := "s"
  long := longNames "b=before r=regex s=separator"

/-- Report an operand that `tac` cannot read. -/
def noTac (name : String) (fault : IoFault) : Task Unit :=
  Task.complain (match fault with
    | .isDirectory =>
      (if name = "-" then "'standard input'" else Quoting.name name) ++ ": read error: Invalid argument"
    | fault =>
      if name = "-" then "'standard input': read error: " ++ faultText fault
      else "failed to open " ++ Quoting.always name ++ " for reading: " ++ faultText fault)

/-- The lines, from the last to the first. -/
def tac : Utility := fun arguments => do
  let a ← Task.options tacOptions arguments
  let mark := (a.value? 's').getD "\n"
  let find : Bytes → List (Nat × Nat) ← if a.has 'r' then do
      if mark.isEmpty then Task.fail "separator cannot be empty"
      match Regular.Expression.read { lenient := true } mark with
      | .error fault => Task.fail fault.message
      | .ok e => pure fun bytes => matchesBackward e bytes (bytes.length + 1) bytes.length
    else
      let octets := if mark.isEmpty then [0] else Octets.bytes mark
      pure (marksBackward octets)
  Task.forOperands a.operands noTac fun _ bytes =>
    Task.put (partsBackward (a.has 'b') bytes true bytes.length (find bytes))

/-- A line back to front; its octets are read as text. -/
def reversedLine (line : Bytes) : Bytes :=
  Text.Utf8.encodeChars (Text.Utf8.decodeLossy line).toList.reverse

/-- The lines, each back to front. -/
def rev : Utility := fun arguments => do
  let a ← Task.options { flags := "" } arguments
  Task.forOperands a.operands
    (fun name fault => Task.complain ("cannot open " ++ name ++ ": " ++ faultText fault))
    fun _ bytes => Task.put ((endedLines bytes).flatMap fun line =>
      if line.getLast? = some 0x0A then reversedLine line.dropLast ++ [0x0A] else reversedLine line)

/-! ### Parts -/

/-- A part at the start or the end, by octets or lines. -/
structure Extent where
  octets : Bool := false
  amount : Nat := 10
  /-- Whether the amount is counted from the other end. -/
  opposite : Bool := false

/-- Octets up to the end of the `n`-th line. -/
def firstLines (mark : UInt8) : Nat → Bytes → Bytes
  | _, [] => []
  | 0, _ => []
  | n + 1, b :: rest => b :: firstLines mark (if b = mark then n else n + 1) rest

/-- The part at the start; a mark ends lines. -/
def Extent.start (e : Extent) (mark : UInt8) (bytes : Bytes) : Bytes :=
  match e.octets, e.opposite with
  | true, false => bytes.take e.amount
  | true, true => bytes.take (bytes.length - e.amount)
  | false, false => firstLines mark e.amount bytes
  | false, true =>
    let lines := endedBy mark bytes
    (lines.take (lines.length - e.amount)).flatten

/-- The part at the end; a mark ends lines. -/
def Extent.rest (e : Extent) (mark : UInt8) (bytes : Bytes) : Bytes :=
  match e.octets, e.opposite with
  | true, false => bytes.drop (bytes.length - e.amount)
  | true, true => bytes.drop (e.amount - 1)
  | false, false =>
    let lines := endedBy mark bytes
    (lines.drop (lines.length - e.amount)).flatten
  | false, true => bytes.drop (firstLines mark (e.amount - 1) bytes).length

/-- The extent that the value of an option asks for; `mark` is the sign for the other end, and
`plain` the sign that means nothing. -/
def extentOf (octets : Bool) (mark : Char) (plain : Option Char) (text : String) : Task Extent := do
  let what := "invalid number of " ++ if octets then "bytes" else "lines"
  let first := text.toList.head?
  let rest := String.ofList text.toList.tail
  if first = some mark then
    let number := if mark = '+' then text else rest
    return ⟨octets, ← Amount.natural Amount.usualLetters what number, true⟩
  else
    let number := if first.isSome ∧ first = plain then rest else text
    return ⟨octets, ← Amount.natural Amount.usualLetters what number, false⟩

/-- Take in an option of `head` or `tail`; others leave the extent as it is. -/
def Extent.with (e : Extent) (mark : Char) (plain : Option Char) (letter : Char) (value : String) :
    Task Extent :=
  match letter with
  | 'n' => extentOf false mark plain value
  | 'c' => extentOf true mark plain value
  | _ => pure e

/-- What is asked of a part. -/
structure PartRequest where
  extent : Extent
  /-- What ends lines. -/
  mark : UInt8
  /-- Whether names stand above parts, where that is said. -/
  heads : Option Bool
  operands : List String

/-- The request that options make after an extent that was written as an option of its own. -/
def PartRequest.ofArguments (start : Extent) (mark : Char) (plain : Option Char) (a : Arguments) :
    Task PartRequest := do
  let mut extent := start
  for (letter, value) in a.options do extent ← extent.with mark plain letter value
  return {
    extent
    mark := if a.has 'z' then 0 else 0x0A
    heads := (a.last? "qv").map fun o => o.1 == 'v'
    operands := a.operands }

/-- The heading of an operand among several. -/
def heading (first : Bool) (name : String) : String :=
  (if first then "" else "\n") ++ "==> " ++ (if name = "-" then "standard input" else name) ++ " <=="

/-- Report an operand of which no part can be written. -/
def noPart (name : String) (fault : IoFault) : Task Unit :=
  let shown := Quoting.always (if name = "-" then "standard input" else name)
  Task.complain (match fault with
    | .isDirectory => "error reading " ++ shown ++ ": Is a directory"
    | fault =>
      if name = "-" then "error reading " ++ shown ++ ": " ++ faultText fault
      else "cannot open " ++ shown ++ " for reading: " ++ faultText fault)

/-- Write a part of each operand, with headings where there are several. Only so many octets are wanted
of what has no end. -/
def writeParts (r : PartRequest) (limit : Option Nat) (usePart : Nat → Bytes → Task Unit) :
    Task Unit := do
  let names := if r.operands.isEmpty then ["-"] else r.operands
  let heads := r.heads.getD (1 < names.length)
  let mut first := true
  for name in names do
    let opened ← Task.openOperand name
    let found ← match opened with
      | .ok number => pure ((← get).toMachine.leftOf number limit)
      | .error fault => pure (.error fault)
    let readable := match found with
      | .ok _ => true
      | .error fault => fault == .isDirectory
    if heads && readable then
      Task.putLine (heading first name)
      first := false
    match opened, found with
    | .ok number, .ok bytes => usePart number bytes
    | _, .error fault => noPart name fault
    | _, _ => pure ()

/-- The octets in which input is read that cannot be given back. -/
def blockSize : Nat := 8192

/-- What of the input is used when a part at its start is written. -/
def Extent.used (e : Extent) (seekable : Bool) (part all : Nat) : Nat :=
  if seekable then part
  else if e.opposite then all
  else if e.octets then part
  else (part + blockSize - 1) / blockSize * blockSize

/-- Step over octets of an opening. -/
def stepOver (number n : Nat) : Task Unit :=
  modify fun d => { d with toMachine := d.toMachine.advance number n }

/-! ### The start -/

/-- The options of `head`. -/
def headOptions : OptionTable where
  flags := "qvz0123456789"
  valued := "nc"
  long := longNames "c=bytes n=lines q=quiet q=silent v=verbose z=zero-terminated"

/-- A number that is written as an option, with letters after it: the options for which it stands. -/
def spelledStart (cs : List Char) : Task (List (Char × String)) := do
  let digits := cs.takeWhile Char.isDigit
  let letters := cs.drop digits.length
  let mut unit : String := ""
  let mut octets := false
  let mut others : List (Char × String) := []
  for c in letters do
    if c = 'c' then
      octets := true
      unit := ""
    else if c = 'b' ∨ c = 'k' ∨ c = 'm' then
      octets := true
      unit := String.singleton c
    else if c = 'l' then octets := false
    else if c = 'q' ∨ c = 'v' ∨ c = 'z' then others := others ++ [(c, "")]
    else
      Task.complain ("invalid trailing option -- " ++ String.singleton c)
      Task.seekHelp
  let amount := String.ofList digits ++ unit
  return others ++ [(if octets then 'c' else 'n', amount)]

/-- The start of each operand. -/
def head : Utility := fun arguments => do
  let (first, arguments) ← match arguments with
    | a :: rest =>
      match a.toList with
      | '-' :: c :: cs =>
        if c.isDigit then do pure ((← spelledStart (c :: cs)), rest) else pure ([], a :: rest)
      | _ => pure ([], a :: rest)
    | [] => pure ([], [])
  let mut start : Extent := {}
  for (letter, value) in first do start ← start.with '-' none letter value
  let a ← Task.optionsWith headOptions arguments fun letter value => do
    if letter.isDigit then
      Task.complain ("invalid trailing option -- " ++ String.singleton letter)
      Task.seekHelp
    else discard (start.with '-' none letter value)
  let r ← PartRequest.ofArguments start '-' none (a.after (first.filter (·.2 == "")))
  let e := r.extent
  let limit := if e.octets && !e.opposite then some e.amount else none
  writeParts r limit fun number bytes => do
    let part := e.start r.mark bytes
    stepOver number (e.used ((← get).toMachine.isSeekableOpening number) part.length bytes.length)
    Task.put part

/-! ### The end -/

/-- The options of `tail`. -/
def tailOptions : OptionTable where
  flags := "qvfFz0123456789"
  valued := "ncsPM"
  optional := "o"
  long := longNames ("c=bytes o=follow n=lines M=max-unchanged-stats P=pid q=quiet q=silent F=retry "
    ++ "s=sleep-interval v=verbose z=zero-terminated")

/-- The extent that an argument of its own asks for, if it does: a sign, a number and letters. -/
def spelledEnd? (argument : String) : Option (Bool × Char × List Char) :=
  match argument.toList with
  | sign :: rest =>
    let digits := rest.takeWhile Char.isDigit
    let letters := rest.drop digits.length
    let (unit, letters) := match letters with
      | 'b' :: more => ('b', more)
      | 'c' :: more => ('c', more)
      | 'l' :: more => ('l', more)
      | letters => ('l', letters)
    let fits := letters.isEmpty || letters == ['f']
    let plain := rest.drop (if rest.head? = some 'c' then 1 else 0)
    if !fits then none
    else if sign = '+' then some (true, unit, digits)
    else if sign = '-' ∧ !plain.isEmpty then some (false, unit, digits)
    else none
  | [] => none

/-- Whether the first of some arguments may be a number that is written as an option of its own. -/
def mayBeSpelled : List String → Bool
  | [_] => true
  | [_, a] => !(Text.startsWith a "-" && 1 < a.length) || a == "--"
  | [_, "--", _] => true
  | _ => false

/-- The end of each operand. -/
def tail : Utility := fun arguments => do
  let spelled := if mayBeSpelled arguments then arguments.head?.bind spelledEnd? else none
  let (start, arguments) : Extent × List String := match spelled with
    | some (opposite, unit, digits) =>
      let number := if digits.isEmpty then 10 else Amount.ofDigits digits
      (⟨unit != 'l', if unit = 'b' then 512 * number else number, opposite⟩, arguments.tail)
    | none => ({}, arguments)
  let a ← Task.optionsWith tailOptions arguments fun letter value => do
    if letter.isDigit then
      Task.fail ("option used in invalid context -- " ++ String.singleton letter)
    else discard (start.with '+' (some '-') letter value)
  let r ← PartRequest.ofArguments start '+' (some '-') a
  writeParts r none fun number bytes => do
    stepOver number bytes.length
    Task.put (r.extent.rest r.mark bytes)

/-! ### Copies -/

/-- The options of `tee`. -/
def teeOptions : OptionTable where
  flags := "aip"
  optional := "o"
  long := longNames "a=append i=ignore-interrupts o=output-error"

/-- Copy the input to files and to the output. -/
def tee : Utility := fun arguments => do
  let a ← Task.options teeOptions arguments
  let mut opened : List (String × Nat) := []
  for name in a.operands do
    match ← Task.openName (if a.has 'a' then .append else .replace) name with
    | .ok number => opened := opened ++ [(name, number)]
    | .error fault => Task.unreadable name fault
  match ← Task.takeInput with
  | .error fault => Task.complain ("read error: " ++ faultText fault)
  | .ok bytes =>
    Task.put bytes
    for (name, number) in opened do
      match ← Task.writeTo number bytes with
      | .ok _ => pure ()
      | .error fault => Task.unreadable name fault

end ArtifactPipeline.Shell.Utility
