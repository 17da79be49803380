import ArtifactPipeline.Shell.Utility.Contents

/-!
# Programs that lay lines out

Programs that put numbers before lines, break lines that are too long, and put blanks in the place of
tabulators or tabulators in the place of blanks.

* `nl` numbers lines, page by page;
* `fold` breaks lines;
* `expand` and `unexpand` work with places of tabulators (`TabStops`).
-/

namespace ArtifactPipeline.Shell.Utility

/-! ### Numbers before lines -/

/-- Which lines have numbers. -/
inductive Numbering where
  | all
  | filled
  | none
  /-- The lines in which an expression is found. -/
  | matching (e : Regular.Expression)

/-- The parts of a page. -/
inductive PagePart where
  | header
  | body
  | footer
deriving Repr, DecidableEq

/-- Where the number stands in its columns. -/
inductive NumberForm where
  | left
  | right
  | zeros
deriving Repr, DecidableEq

/-- What `nl` is asked for. -/
structure LineNumbers where
  header : Numbering := .none
  body : Numbering := .filled
  footer : Numbering := .none
  /-- What marks the parts of a page, when it makes up a line once, twice or three times. -/
  mark : Bytes := [0x5C, 0x3A]
  step : Int := 1
  /-- How many empty lines count as one. -/
  joined : Int := 1
  form : NumberForm := .right
  /-- Whether numbers go on from page to page. -/
  keeps : Bool := false
  separator : Bytes := [0x09]
  first : Int := 1
  width : Nat := 6

namespace LineNumbers

variable (n : LineNumbers)

/-- The numbering in a part of a page. -/
def numbering : PagePart → Numbering
  | .header => n.header
  | .body => n.body
  | .footer => n.footer

/-- A number in its columns. -/
def text (number : Int) : String :=
  let digits := toString number
  match n.form with
  | .left => leftAligned n.width digits
  | .right => rightAligned n.width digits
  | .zeros =>
    if number < 0 then "-" ++ zeroPadded 10 (n.width - 1) number.natAbs
    else zeroPadded 10 n.width number.natAbs

/-- The part of a page that a line starts. -/
def part? (line : Bytes) : Option PagePart :=
  if n.mark.length < 2 then none
  else if line == n.mark ++ n.mark ++ n.mark then some .header
  else if line == n.mark ++ n.mark then some .body
  else if line == n.mark then some .footer
  else none

/-- The state of numbering: the part, the next number, and the number of empty lines that were not
counted. -/
structure State where
  part : PagePart := .body
  number : Int
  empties : Int := 0

/-- Whether a line has a number, and the number of empty lines that have not been counted then. -/
def counts (s : State) (line : Bytes) : Bool × Int :=
  match n.numbering s.part with
  | .all =>
    if n.joined ≤ 1 then (true, s.empties)
    else if !line.isEmpty || s.empties + 1 == n.joined then (true, 0)
    else (false, s.empties + 1)
  | .filled => (!line.isEmpty, s.empties)
  | .none => (false, s.empties)
  | .matching e => ((e.search? { octets := line.toArray } 0).isSome, s.empties)

/-- A line, numbered. -/
def line (s : State) (bytes : Bytes) : State × Bytes :=
  match n.part? bytes with
  | some part => ({ s with part, number := if n.keeps then s.number else n.first }, [0x0A])
  | none =>
    let (numbered, empties) := n.counts s bytes
    if numbered then
      ({ s with number := s.number + n.step, empties },
        Octets.bytes (n.text s.number) ++ n.separator ++ bytes ++ [0x0A])
    else
      ({ s with empties }, List.replicate (n.width + n.separator.length) 0x20 ++ bytes ++ [0x0A])

/-- Lines, numbered. -/
def lines (s : State) : List Bytes → State × List Bytes
  | [] => (s, [])
  | bytes :: rest =>
    let (s, first) := n.line s bytes
    let (s, others) := lines s rest
    (s, first :: others)

end LineNumbers

/-- The numbering that a text asks for; `what` says of which part of a page. -/
def numbering? (what text : String) : Task (Option Numbering) := do
  match text.toList with
  | ['a'] => return some .all
  | ['t'] => return some .filled
  | ['n'] => return some .none
  | 'p' :: pattern =>
    match Regular.Expression.read { lenient := true } (String.ofList pattern) with
    | .ok e => return some (.matching e)
    | .error fault => Task.fail fault.message
  | c :: _ =>
    if c = 'a' then return some .all
    else if c = 't' then return some .filled
    else if c = 'n' then return some .none
    else
      Task.complain ("invalid " ++ what ++ " numbering style: " ++ Quoting.text text)
      return Option.none
  | [] =>
    Task.complain ("invalid " ++ what ++ " numbering style: " ++ Quoting.text text)
    return Option.none

/-- The greatest number in a small counter. -/
def smallCounter : Nat := 2147483647

/-- The greatest number in a large counter. -/
def largeCounter : Nat := 9223372036854775807

/-- Take in an option of `nl`. -/
def LineNumbers.with (n : LineNumbers) (letter : Char) (value : String) : Task LineNumbers := do
  let least : Int := -9223372036854775808
  match letter with
  | 'b' => return (← numbering? "body" value).elim n fun body => { n with body }
  | 'h' => return (← numbering? "header" value).elim n fun header => { n with header }
  | 'f' => return (← numbering? "footer" value).elim n fun footer => { n with footer }
  | 'd' =>
    match Octets.bytes value with
    | [b] => return { n with mark := [b, 0x3A] }
    | mark => return { n with mark }
  | 'i' => return { n with step := ← Amount.integer least largeCounter "invalid line number increment" value }
  | 'l' =>
    return { n with
      joined := ← Amount.integer 1 largeCounter "invalid line number of blank lines" value }
  | 'n' =>
    match value with
    | "ln" => return { n with form := .left }
    | "rn" => return { n with form := .right }
    | "rz" => return { n with form := .zeros }
    | _ =>
      Task.complain ("invalid line numbering format: " ++ Quoting.text value)
      return n
  | 'p' => return { n with keeps := true }
  | 's' => return { n with separator := Octets.bytes value }
  | 'v' =>
    return { n with first := ← Amount.integer least largeCounter "invalid starting line number" value }
  | 'w' =>
    let width ← Amount.integer 1 smallCounter "invalid line number field width" value
    return { n with width := width.toNat }
  | _ => return n

/-- The options of `nl`. -/
def nlOptions : OptionTable where
  flags := "p"
  valued := "bdfhilnsvw"
  long := longNames ("h=header-numbering b=body-numbering f=footer-numbering v=starting-line-number "
    ++ "i=line-increment p=no-renumber l=join-blank-lines s=number-separator w=number-width "
    ++ "n=number-format d=section-delimiter")

/-- The lines with numbers. -/
def nl : Utility := fun arguments => do
  let a := nlOptions.read true (arguments.length + 1) arguments
  let mut n : LineNumbers := {}
  for (letter, value) in a.options do n ← n.with letter value
  match a.fault with
  | some fault => Task.misuse fault.message
  | none => pure ()
  if (← get).status != 0 then Task.seekHelp
  let mut s : LineNumbers.State := { number := n.first }
  for name in (if a.operands.isEmpty then ["-"] else a.operands) do
    match ← Task.readOperand name with
    | .error fault => Task.unreadable name fault
    | .ok bytes =>
      let (after, lines) := n.lines s (plainLines bytes)
      s := after
      Task.put lines.flatten

/-! ### Long lines -/

/-- The distance of tabulators where nothing else is said. -/
def tabWidth : Nat := 8

/-- The column after an octet. -/
def columnAfter (byOctets : Bool) (column : Nat) (b : UInt8) : Nat :=
  if byOctets then column + 1
  else if b = 0x08 then column - 1
  else if b = 0x0D then 0
  else if b = 0x09 then column + (tabWidth - column % tabWidth)
  else column + 1

/-- How lines are broken. -/
structure Folding where
  byOctets : Bool := false
  /-- Whether lines are broken after blanks, as far as there are any. -/
  atBlanks : Bool := false
  width : Nat := 80

namespace Folding

variable (f : Folding)

/-- The column after octets at the start of a line. -/
def column (bytes : Bytes) : Nat := bytes.foldl (columnAfter f.byOctets) 0

/-- The state of folding: the octets of the line so far and of what is written, both the last one
first. -/
structure State where
  line : Bytes := []
  written : Bytes := []

/-- One more octet of a line. -/
def step (s : State) (b : UInt8) : State :=
  if b = 0x0A then { line := [], written := b :: s.line ++ s.written }
  else if columnAfter f.byOctets (f.column s.line.reverse) b ≤ f.width then { s with line := b :: s.line }
  else
    let after := s.line.takeWhile fun c => !isBlankByte c
    let before := s.line.drop after.length
    if f.atBlanks && !before.isEmpty then
      let s : State := { line := after, written := 0x0A :: before ++ s.written }
      if columnAfter f.byOctets (f.column s.line.reverse) b ≤ f.width || s.line.isEmpty then
        { s with line := b :: s.line }
      else { line := [b], written := 0x0A :: s.line ++ s.written }
    else if s.line.isEmpty then { s with line := [b] }
    else { line := [b], written := 0x0A :: s.line ++ s.written }

/-- Octets in lines that are broken. -/
def apply (bytes : Bytes) : Bytes :=
  let s := bytes.foldl f.step {}
  (s.line ++ s.written).reverse

end Folding

/-- The options of `fold`. -/
def foldOptions : OptionTable where
  flags := "bs"
  valued := "w"
  optional := "0123456789"
  long := longNames "b=bytes s=spaces w=width"

/-- Break long lines. -/
def fold : Utility := fun arguments => do
  let width (text : String) : Task Nat :=
    Amount.between 1 (Amount.bound - tabWidth - 2) [] "invalid number of columns" text
  let widthOf (letter : Char) (value : String) : Task (Option Nat) := do
    if letter = 'w' then return some (← width value)
    else if letter.isDigit then return some (← width (String.singleton letter ++ value))
    else return none
  let a ← Task.optionsWith foldOptions arguments fun letter value => discard (widthOf letter value)
  let mut f : Folding := { byOctets := a.has 'b', atBlanks := a.has 's' }
  for (letter, value) in a.options do
    match ← widthOf letter value with
    | some width => f := { f with width }
    | none => pure ()
  Task.forOperands a.operands Task.unreadable fun _ bytes => Task.put (f.apply bytes)

/-! ### Tabulators -/

/-- The columns of tabulators: some, and how they go on after the last one. -/
structure TabStops where
  columns : List Nat := []
  /-- The distance of those after the last column, counted from the start of the line. -/
  every : Option Nat := none
  /-- The distance of those after the last column, counted from it. -/
  onward : Option Nat := none

namespace TabStops

/-- The column of the next tabulator, if there is one. -/
def next? (t : TabStops) (column : Nat) : Option Nat :=
  match t.columns.find? (column < ·) with
  | some n => some n
  | none =>
    match t.every, t.onward with
    | some n, _ => some (column + (n - column % n))
    | none, some n =>
      let last := t.columns.getLast?.getD 0
      some (column + (n - (column - last) % n))
    | none, none => none

/-- Take in a number of a list. -/
def add (t : TabStops) (sign : Option Char) (n : Nat) : Task TabStops := do
  let onlyLast : String := "specifier only allowed with the last value"
  match sign with
  | some '/' =>
    if t.every.isSome then Task.fail ("'/' " ++ onlyLast)
    return { t with every := if n = 0 then none else some n }
  | some _ =>
    if t.onward.isSome then Task.fail ("'+' " ++ onlyLast)
    return { t with onward := if n = 0 then none else some n }
  | none => return { t with columns := t.columns ++ [n] }

/-- Take in a list of numbers. -/
def readList (t : TabStops) (text : String) : Task TabStops := do
  let cs := text.toList.map fun c => if c = ' ' ∨ c = '\t' then ',' else c
  let mut stops := t
  let mut rest := cs
  for part in Text.splitOn ',' cs do
    let signs := part.takeWhile fun c => c == '/' || c == '+'
    let digits := (part.drop signs.length).takeWhile Char.isDigit
    let after := part.drop (signs.length + digits.length)
    if !after.isEmpty then
      match after.head? with
      | some '/' => Task.complain ("'/' specifier not at start of number: " ++ Quoting.text
          (String.ofList (rest.drop (signs.length + digits.length))))
      | some '+' => Task.complain ("'+' specifier not at start of number: " ++ Quoting.text
          (String.ofList (rest.drop (signs.length + digits.length))))
      | _ => Task.complain ("tab size contains invalid character(s): " ++ Quoting.text
          (String.ofList (rest.drop (signs.length + digits.length))))
      Task.stop
    if !digits.isEmpty then
      let n := Amount.ofDigits digits
      if Amount.bound ≤ n then
        Task.fail ("tab stop is too large " ++ Quoting.text (String.ofList digits))
      stops ← stops.add signs.getLast? n
    rest := rest.drop (part.length + 1)
  return stops

/-- Check that columns make sense. -/
def checked (t : TabStops) : Task TabStops := do
  let mut before := 0
  for n in t.columns do
    if n = 0 then Task.fail "tab size cannot be 0"
    if n ≤ before then Task.fail "tab sizes must be ascending"
    before := n
  if t.every.isSome && t.onward.isSome then
    Task.fail "'/' specifier is mutually exclusive with '+'"
  match t.columns, t.every, t.onward with
  | [], none, none => return { every := some tabWidth }
  | [n], none, none => return { every := some n }
  | _, _, _ => return t

end TabStops

/-- The stops that options ask for. -/
def tabStops (a : Arguments) : Task TabStops := do
  let mut t : TabStops := {}
  let mut digits : String := ""
  for (letter, value) in a.options do
    if letter = 't' then t ← t.readList value
    else if letter.isDigit then
      if value.isEmpty then digits := digits.push letter
      else t ← t.readList (String.singleton letter ++ value)
    else if letter = ',' then
      t ← t.readList digits
      digits := ""
  if digits != "" then t ← t.readList digits
  t.checked

/-- A line with blanks in the place of tabulators; `initial` says only of those before anything else. -/
def expandLine (t : TabStops) (initial : Bool) : (converts : Bool) → (column : Nat) → Bytes → Bytes
  | _, _, [] => []
  | converts, column, b :: rest =>
    if !converts then b :: expandLine t initial converts column rest
    else if b = 0x0A then b :: expandLine t initial true 0 rest
    else if b = 0x09 then
      let next := (t.next? column).getD (column + 1)
      List.replicate (next - column) 0x20 ++ expandLine t initial true next rest
    else if b = 0x08 then b :: expandLine t initial (!initial) (column - 1) rest
    else b :: expandLine t initial (!initial || isBlankByte b) (column + 1) rest

/-- The options of `expand`. -/
def expandOptions : OptionTable where
  flags := "i,"
  valued := "t"
  optional := "0123456789"
  long := longNames "i=initial t=tabs"

/-- Put blanks in the place of tabulators. -/
def expand : Utility := fun arguments => do
  let a ← Task.options expandOptions arguments
  let t ← tabStops a
  Task.forOperands a.operands Task.unreadable fun _ bytes =>
    Task.put ((endedLines bytes).flatMap (expandLine t (a.has 'i') true 0))

/-- Where blanks of a line wait for it to be known whether a tabulator takes their place. -/
structure Blanks where
  converts : Bool := true
  column : Nat := 0
  afterBlank : Bool := true
  /-- Whether the first one that waits stands alone before a tabulator. -/
  lone : Bool := false
  waiting : Bytes := []

/-- The blanks that wait, as they are written. -/
def Blanks.released (k : Blanks) : Bytes :=
  if 1 < k.waiting.length && k.lone then 0x09 :: k.waiting.tail else k.waiting

/-- A line with tabulators in the place of blanks; `initial` says only of those before anything else. -/
def unexpandLine (t : TabStops) (initial : Bool) : Blanks → Bytes → Bytes
  | k, [] => k.released
  | k, b :: rest =>
    let plain (column : Nat) : Bytes :=
      let next : Blanks := { column, afterBlank := false, converts := !initial }
      k.released ++ b :: unexpandLine t initial next rest
    if !k.converts then b :: unexpandLine t initial k rest
    else if !isBlankByte b then plain (if b = 0x08 then k.column - 1 else k.column + 1)
    else
      match t.next? k.column with
      | none => k.released ++ b :: unexpandLine t initial { k with converts := false, waiting := [] } rest
      | some next =>
        let whole (waiting : Bytes) : Bytes :=
          let kept := if k.lone then waiting.take 1 else []
          kept ++ 0x09 :: unexpandLine t initial { column := next } rest
        if b = 0x09 then
          whole (if k.waiting.isEmpty then [] else 0x09 :: k.waiting.tail)
        else if k.afterBlank && k.column + 1 == next then whole (0x09 :: k.waiting.tail)
        else
          unexpandLine t initial { k with
            column := k.column + 1
            lone := k.lone || k.column + 1 == next
            waiting := k.waiting ++ [b]
            afterBlank := true } rest

/-- The options of `unexpand`. -/
def unexpandOptions : OptionTable where
  flags := "a,f0123456789"
  valued := "t"
  long := longNames "t=tabs a=all f=first-only"

/-- Put tabulators in the place of blanks. -/
def unexpand : Utility := fun arguments => do
  let a ← Task.options unexpandOptions arguments
  let t ← tabStops a
  let initial := a.has 'f' || !a.hasAny "at0123456789"
  Task.forOperands a.operands Task.unreadable fun _ bytes =>
    Task.put ((endedLines bytes).flatMap (unexpandLine t initial {}))

end ArtifactPipeline.Shell.Utility
