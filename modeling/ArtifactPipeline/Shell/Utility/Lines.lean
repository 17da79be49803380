import ArtifactPipeline.Shell.Utility.Sort

/-!
# Programs that work line by line

Programs that count repetitions of lines, cut lines and put them together, and compare files line by
line.

* `uniq` works on runs of lines that are alike;
* `cut` keeps the octets or fields whose numbers are in one of some spans (`Spans`);
* `paste` joins lines of several operands;
* `comm` and `join` go through two files whose lines are in order.
-/

namespace ArtifactPipeline.Shell.Utility

/-! ### Repetitions -/

/-- Runs of lines that follow each other and are alike. -/
def runsOf (like : Bytes → Bytes → Bool) (lines : List Bytes) : List (List Bytes) :=
  lines.foldr (fun line runs =>
    match runs with
    | (next :: run) :: rest =>
      if like line next then (line :: next :: run) :: rest else [line] :: runs
    | runs => [line] :: runs) []

/-- Where empty lines stand between groups. -/
inductive GroupMark where
  | none
  | before
  | between
  | after
  | around
deriving Repr, DecidableEq

/-- What `uniq` is asked for. -/
structure Repetitions where
  counts : Bool := false
  /-- Whether lines that stand alone are shown. -/
  showsSingle : Bool := true
  /-- Whether the first line of several is shown. -/
  showsFirst : Bool := true
  /-- Whether the other lines of several are shown, and how. -/
  showsOthers : Option GroupMark := Option.none
  /-- Whether all lines are shown, in groups. -/
  groups : Option GroupMark := Option.none
  fields : Nat := 0
  octets : Nat := 0
  width : Option Nat := Option.none
  folds : Bool := false
  mark : UInt8 := 0x0A

namespace Repetitions

variable (r : Repetitions)

/-- What of a line is compared. -/
def part (line : Bytes) : Bytes :=
  let rest := (afterFields Option.none (min r.fields line.length) line).drop r.octets
  let rest := match r.width with
    | some n => rest.take n
    | Option.none => rest
  if r.folds then rest.map upperByte else rest

/-- A line as it is written, with the number of lines like it. -/
def line (n : Nat) (bytes : Bytes) : Bytes :=
  (if r.counts then paddedNumber 7 n ++ [0x20] else []) ++ bytes ++ [r.mark]

/-- The lines of a run that are shown. -/
def shown (run : List Bytes) : List Bytes :=
  match run with
  | [] => []
  | [single] => if r.showsSingle then [r.line 1 single] else []
  | first :: others =>
    if r.showsOthers.isSome then
      (run.dropLast ++ if r.showsFirst then run.getLast?.toList else []).map (r.line 1)
    else if r.showsFirst then [r.line (others.length + 1) first]
    else []

/-- Groups with empty lines as a mark says. -/
def spaced (mark : GroupMark) (groups : List (List Bytes)) : Bytes :=
  let empty : Bytes := [r.mark]
  let bodies := groups.map List.flatten
  match mark with
  | .none => bodies.flatten
  | .before => bodies.flatMap (empty ++ ·)
  | .between => List.intercalate empty bodies
  | .after => bodies.flatMap (· ++ empty)
  | .around => if bodies.isEmpty then [] else bodies.flatMap (empty ++ ·) ++ empty

/-- What is written for lines. -/
def apply (lines : List Bytes) : Bytes :=
  let runs := runsOf (fun a b => r.part a == r.part b) lines
  match r.groups, r.showsOthers with
  | some mark, _ => r.spaced mark (runs.map fun run => run.map (r.line 1))
  | Option.none, some mark =>
    r.spaced mark ((runs.filter fun run => 1 < run.length).map r.shown)
  | Option.none, Option.none => (runs.flatMap r.shown).flatten

end Repetitions

/-- A number that `uniq` is given; `what` is what it is called. -/
def repetitionNumber (what text : String) : Task Nat := do
  match Amount.read [] text with
  | .exactly n => return n
  | .tooLarge => return Amount.bound - 1
  | _ => Task.fail (text ++ ": invalid number of " ++ what)

/-- Take in an option of `uniq`. -/
def Repetitions.with (r : Repetitions) (letter : Char) (value : String) : Task Repetitions := do
  match letter with
  | 'c' => return { r with counts := true }
  | 'd' => return { r with showsSingle := false }
  | 'u' => return { r with showsFirst := false }
  | 'D' | 'A' =>
    let word ← if value.isEmpty then pure 'n'
      else Task.wordLetter "--all-repeated" [["none"], ["prepend"], ["separate"]] ['n', 'p', 's'] value
    let mark : GroupMark := match word with
      | 'p' => .before
      | 's' => .between
      | _ => .none
    return { r with showsSingle := false, showsOthers := some mark }
  | 'G' =>
    let word ← if value.isEmpty then pure 's'
      else
        Task.wordLetter "--group" [["prepend"], ["append"], ["separate"], ["both"]] ['p', 'a', 's', 'b']
          value
    let mark : GroupMark := match word with
      | 'p' => .before
      | 'a' => .after
      | 'b' => .around
      | _ => .between
    return { r with groups := some mark }
  | 'f' => return { r with fields := ← repetitionNumber "fields to skip" value }
  | 's' => return { r with octets := ← repetitionNumber "bytes to skip" value }
  | 'w' => return { r with width := some (← repetitionNumber "bytes to compare" value) }
  | 'i' => return { r with folds := true }
  | 'z' => return { r with mark := 0 }
  | c => if c.isDigit then return { r with fields := 10 * r.fields + digitValue c } else return r

/-- The options of `uniq`. -/
def uniqOptions : OptionTable where
  flags := "cdDuiz0123456789"
  valued := "fsw"
  optional := "AG"
  long := longNames ("c=count d=repeated A=all-repeated G=group i=ignore-case u=unique f=skip-fields "
    ++ "s=skip-chars w=check-chars z=zero-terminated")

/-- The lines without repetitions of the one before. -/
def uniq : Utility := fun arguments => do
  let a := uniqOptions.read true (arguments.length + 1) arguments
  let mut r : Repetitions := {}
  for (letter, value) in a.options do r ← r.with letter value
  match a.fault with
  | some fault => Task.misuse fault.message
  | none => pure ()
  Task.atMost 2 a.operands
  if r.groups.isSome && a.hasAny "cdDAu" then
    Task.misuse "--group is mutually exclusive with -c/-d/-D/-u"
  if r.counts && r.showsOthers.isSome then
    Task.misuse "printing all duplicated lines and repeat counts is meaningless"
  let name := a.operands.head?.getD "-"
  match ← Task.openOperand name with
  | .error fault => Task.unreadable name fault
  | .ok number =>
    let target ← match a.operands[1]? with
      | none => pure none
      | some "-" => pure none
      | some target =>
        match ← Task.openName .replace target with
        | .ok number => pure (some number)
        | .error fault =>
          Task.unreadable target fault
          Task.stop
    match ← Task.takeAll number with
    | .error fault => Task.complain ("error reading " ++ Quoting.always name ++ ": " ++ faultText fault)
    | .ok bytes =>
      let written := r.apply (plainBy r.mark bytes)
      match target with
      | none => Task.put written
      | some number => discard (Task.writeTo number written)

/-! ### Columns -/

/-- Numbers from one to another. -/
structure Span where
  first : Nat
  last : Nat
deriving Repr, DecidableEq

/-- What the numbers of a list stand for. -/
inductive Numbered where
  | octets
  | fields
deriving DecidableEq

/-- Why a list of numbers makes no sense. -/
inductive SpanFault where
  | zero
  | twoEnds
  | noEnd
  | decreasing
  | tooLarge (digits : String)
  | noNumber (rest : String)

/-- The report of a fault. -/
def SpanFault.message (what : Numbered) : SpanFault → String
  | zero =>
    match what with
    | .octets => "byte/character positions are numbered from 1"
    | .fields => "fields are numbered from 1"
  | twoEnds =>
    match what with
    | .octets => "invalid byte or character range"
    | .fields => "invalid field range"
  | noEnd => "invalid range with no endpoint: -"
  | decreasing => "invalid decreasing range"
  | tooLarge digits =>
    (match what with
      | .octets => "byte/character offset "
      | .fields => "field number ") ++ Quoting.text digits ++ " is too large"
  | noNumber rest =>
    (match what with
      | .octets => "invalid byte/character position "
      | .fields => "invalid field value ") ++ Quoting.text rest

namespace Span

/-- The number after the last one of every line. -/
def endless : Nat := Amount.bound - 1

/-- A number at the start of a text, and what stands after it. -/
def number (cs : List Char) : Except SpanFault (Option Nat × List Char) :=
  let digits := cs.takeWhile Char.isDigit
  let rest := cs.drop digits.length
  let n := Amount.ofDigits digits
  if digits.isEmpty then .ok (none, rest)
  else if endless ≤ n then .error (.tooLarge (String.ofList digits))
  else .ok (some n, rest)

/-- The span at the start of a text, and what stands after it. -/
def read (cs : List Char) : Except SpanFault (Span × List Char) := do
  let (first, rest) ← number cs
  match rest with
  | '-' :: more =>
    if first = some 0 then throw .zero
    let (last, rest) ← number more
    if rest.head? = some '-' then throw .twoEnds
    match first, last with
    | none, none =>
      if rest.isEmpty || rest.head?.any fun c => c == ',' || c == ' ' || c == '\t' then throw .noEnd
      else return (⟨1, endless⟩, rest)
    | first, none => return (⟨first.getD 1, endless⟩, rest)
    | first, some n =>
      if n < first.getD 1 then throw .decreasing
      return (⟨first.getD 1, n⟩, rest)
  | rest =>
    let ends := rest.isEmpty || rest.head?.any fun c => c == ',' || c == ' ' || c == '\t'
    if ends && first.getD 0 == 0 then throw .zero
    return (⟨first.getD 0, first.getD 0⟩, rest)

/-- The spans of a list. -/
def readList : (fuel : Nat) → List Char → Except SpanFault (List Span)
  | 0, _ => .ok []
  | fuel + 1, cs => do
    let (span, rest) ← read cs
    match rest with
    | [] => return [span]
    | c :: more =>
      if c = ',' ∨ c = ' ' ∨ c = '\t' then return span :: (← readList fuel more)
      else throw (.noNumber (String.ofList rest))

/-- Spans in order, where those that overlap are put together. -/
def merged (spans : List Span) : List Span :=
  let sorted := spans.mergeSort fun a b => a.first ≤ b.first
  (sorted.foldl (fun (kept : List Span) s =>
    match kept with
    | last :: rest =>
      if s.first ≤ last.last then ⟨last.first, max last.last s.last⟩ :: rest else s :: kept
    | [] => [s]) []).reverse

/-- The spans between others, from a number on. -/
def gaps : (start : Nat) → List Span → List Span
  | start, [] => if start < endless then [⟨start, endless⟩] else []
  | start, s :: rest =>
    let more := if s.last = endless then [] else gaps (s.last + 1) rest
    if start < s.first then ⟨start, s.first - 1⟩ :: more else more

/-- Whether a number is in one of some spans. -/
def anyHolds (spans : List Span) (n : Nat) : Bool := spans.any fun s => s.first ≤ n && n ≤ s.last

end Span

/-- The members of a list whose numbers are wanted. -/
def selected {α : Type} (wanted : Nat → Bool) (as : List α) : List α :=
  as.zipIdx.filterMap fun (a, i) => if wanted (i + 1) then some a else none

/-- The octets of a line in spans, with something between them. -/
def cutOctets (spans : List Span) (joint : Option Bytes) (line : Bytes) : Bytes :=
  match joint with
  | none => selected (Span.anyHolds spans) line
  | some joint =>
    let parts := spans.map fun s => (line.take s.last).drop (s.first - 1)
    List.intercalate joint (parts.filter (!·.isEmpty))

/-- The options of `cut`. -/
def cutOptions : OptionTable where
  flags := "snzC"
  valued := "cbfdO"
  long := longNames ("b=bytes c=characters f=fields d=delimiter s=only-delimited "
    ++ "O=output-delimiter C=complement z=zero-terminated")

/-- The wanted octets or fields of each line. -/
def cut : Utility := fun arguments => do
  let a ← Task.options cutOptions arguments
  let lists := a.options.filter fun o => "cbf".toList.contains o.1
  for (letter, value) in a.options do
    if letter = 'd' && 1 < value.length then
      Task.misuse "the delimiter must be a single character"
  match lists with
  | [] => Task.misuse "you must specify a list of bytes, characters, or fields"
  | _ :: _ :: _ => Task.misuse "only one list may be specified"
  | [(letter, list)] =>
    let byFields := letter == 'f'
    if a.has 'd' && !byFields then
      Task.misuse "an input delimiter may be specified only when operating on fields"
    if a.has 's' && !byFields then
      Task.misuse "suppressing non-delimited lines makes sense\n\tonly when operating on fields"
    match Span.readList (list.length + 1) list.toList with
    | .error fault => Task.misuse (fault.message (if byFields then .fields else .octets))
    | .ok spans =>
      let spans := Span.merged spans
      let spans := if a.has 'C' then Span.gaps 1 spans else spans
      let nameless (text : String) : Bytes := if text.isEmpty then [0] else Octets.bytes text
      let mark := ((a.value? 'd').elim [0x09] nameless).headD 0
      let ending : UInt8 := if a.has 'z' then 0 else 0x0A
      Task.forOperands a.operands Task.unreadable fun _ bytes =>
        Task.put ((plainBy ending bytes).flatMap fun line =>
          if !byFields then cutOctets spans ((a.value? 'O').map nameless) line ++ [ending]
          else if !line.contains mark then if a.has 's' then [] else line ++ [ending]
          else
            List.intercalate ((a.value? 'O').elim [mark] nameless)
              (selected (Span.anyHolds spans) (Text.splitOn mark line)) ++ [ending])

/-! ### Lines side by side -/

/-- The signs that stand between pasted lines, which may be written with a backslash; `none` is no
sign. -/
def joints : List Char → Option (List (Option UInt8))
  | [] => some []
  | ['\\'] => none
  | '\\' :: c :: rest => do
    let joint := match c with
      | 'n' => some 0x0A
      | 't' => some 0x09
      | 'b' => some 0x08
      | 'f' => some 0x0C
      | 'r' => some 0x0D
      | 'v' => some 0x0B
      | '0' => none
      | c => some c.toUInt8
    return joint :: (← joints rest)
  | c :: rest => do return some c.toUInt8 :: (← joints rest)

/-- Lines with signs between them, which are used in turn. -/
def pasted (signs : List (Option UInt8)) (lines : List Bytes) : Bytes :=
  let parts := lines.zipIdx.map fun (line, i) =>
    if i = 0 then line
    else ((signs.getD ((i - 1) % max 1 signs.length) none).elim [] ([·])) ++ line
  parts.flatten

/-- The rows that columns of lines make. -/
def rowsOf : (fuel : Nat) → List (List Bytes) → List (List Bytes)
  | 0, _ => []
  | fuel + 1, columns =>
    if columns.all List.isEmpty then []
    else columns.map (·.headD []) :: rowsOf fuel (columns.map List.tail)

/-- The lines of operands; the lines of the input are dealt out among the operands that stand for it.
-/
def columnsOf (mark : UInt8) (names : List String) : Task (List (List Bytes)) := do
  let shares := (names.filter Task.isInput).length
  let input ← if 0 < shares then Task.readOperand "-" else pure (.ok [])
  let lines := plainBy mark (input.toOption.getD [])
  let mut columns : List (List Bytes) := []
  let mut share := 0
  for name in names do
    if Task.isInput name then
      let here := share
      columns := columns ++ [lines.zipIdx.filterMap fun (l, i) =>
        if i % shares = here then some l else none]
      share := share + 1
    else
      match ← Task.readOperand name with
      | .ok bytes => columns := columns ++ [plainBy mark bytes]
      | .error .isDirectory =>
        Task.unreadable name .isDirectory
        columns := columns ++ [[]]
      | .error fault =>
        Task.unreadable name fault
        Task.stop
  return columns

/-- The options of `paste`. -/
def pasteOptions : OptionTable where
  flags := "sz"
  valued := "d"
  long := longNames "s=serial d=delimiters z=zero-terminated"

/-- The lines of the operands side by side, or one operand in a line. -/
def paste : Utility := fun arguments => do
  let a ← Task.options pasteOptions arguments
  let list := (a.value? 'd').getD "\t"
  let mark : UInt8 := if a.has 'z' then 0 else 0x0A
  match joints list.toList with
  | none =>
    Task.fail ("delimiter list ends with an unescaped backslash: " ++ list)
  | some signs =>
    let names := if a.operands.isEmpty then ["-"] else a.operands
    if a.has 's' then
      for name in names do
        match ← Task.readOperand name with
        | .ok bytes => Task.put (pasted signs (plainBy mark bytes) ++ [mark])
        | .error fault => Task.unreadable name fault
    else
      let columns ← columnsOf mark names
      let longest := columns.foldl (fun n c => max n c.length) 0
      for row in rowsOf longest columns do Task.put (pasted signs row ++ [mark])

/-! ### Two files in order -/

/-- Two operands of a program, no more and no less. -/
def twoOperands (operands : List String) : Task (String × String) := do
  match operands with
  | [first, second] => return (first, second)
  | [] => Task.misuse "missing operand"
  | [first] => Task.misuse ("missing operand after " ++ Quoting.text first)
  | _ :: _ :: extra :: _ => Task.misuse ("extra operand " ++ Quoting.text extra)

/-- The octets of an operand without which a program cannot go on. -/
def requireOperand (name : String) : Task Bytes := do
  match ← Task.readOperand name with
  | .ok bytes => return bytes
  | .error fault => Task.fail (Quoting.name name ++ ": " ++ faultText fault)

/-- How much `comm` checks that lines are in order. -/
inductive OrderCheck where
  | never
  /-- As soon as there is a line that the other file lacks. -/
  | unpaired
  | always
deriving Repr, DecidableEq

/-- What `comm` has found out. -/
structure Comparison where
  /-- The last lines of the files that were compared. -/
  before : Option Bytes × Option Bytes := (none, none)
  unpaired : Bool := false
  disordered : Bool × Bool := (false, false)
  totals : Nat × Nat × Nat := (0, 0, 0)

/-- What `comm` is asked for. -/
structure Columns where
  first : Bool := true
  second : Bool := true
  both : Bool := true
  check : OrderCheck := .unpaired
  joint : Bytes := [0x09]
  mark : UInt8 := 0x0A

namespace Columns

variable (c : Columns)

/-- Write a line in the column for lines of the first file, of the second one, or of both. -/
def putLine (column : Nat) (line : Bytes) : Task Unit :=
  let one := if c.first then c.joint else []
  let two := if c.second then c.joint else []
  match column with
  | 0 => if c.first then Task.put (line ++ [c.mark]) else pure ()
  | 1 => if c.second then Task.put (one ++ line ++ [c.mark]) else pure ()
  | _ => if c.both then Task.put (one ++ two ++ line ++ [c.mark]) else pure ()

/-- Report a file whose lines are not in order, once; the flag says whether that was done. -/
def checkOrder (unpaired done : Bool) (number : Nat) (before next : Option Bytes) : Task Bool := do
  let wanted := c.check == .always || (c.check == .unpaired && unpaired)
  match before, next with
  | some a, some b =>
    if wanted && !done && compareBytes a b == .gt then
      Task.complain ("file " ++ toString number ++ " is not in sorted order")
      if c.check = .always then Task.stop
      return true
    else return done
  | _, _ => return done

/-- Go through the lines of two files. -/
def compare : (fuel : Nat) → Comparison → List Bytes → List Bytes → Task Comparison
  | 0, s, _, _ => pure s
  | fuel + 1, s, one, two => do
    let order := match one, two with
      | a :: _, b :: _ => compareBytes a b
      | _ :: _, [] => .lt
      | [], _ => .gt
    let (i, j, k) := s.totals
    match order, one, two with
    | _, [], [] => return s
    | .lt, a :: rest, two =>
      c.putLine 0 a
      let unpaired := true
      let done ← match rest.head? with
        | some b => c.checkOrder unpaired s.disordered.1 1 (some a) (some b)
        | none => c.checkOrder unpaired s.disordered.1 1 s.before.1 (some a)
      compare fuel { s with
        before := (some a, s.before.2), unpaired, disordered := (done, s.disordered.2)
        totals := (i + 1, j, k) } rest two
    | .gt, one, b :: rest =>
      c.putLine 1 b
      let unpaired := true
      let done ← match rest.head? with
        | some d => c.checkOrder unpaired s.disordered.2 2 (some b) (some d)
        | none => c.checkOrder unpaired s.disordered.2 2 s.before.2 (some b)
      compare fuel { s with
        before := (s.before.1, some b), unpaired, disordered := (s.disordered.1, done)
        totals := (i, j + 1, k) } one rest
    | _, a :: restA, b :: restB =>
      c.putLine 2 a
      let doneA ← match restA.head? with
        | some d => c.checkOrder s.unpaired s.disordered.1 1 (some a) (some d)
        | none => c.checkOrder s.unpaired s.disordered.1 1 s.before.1 (some a)
      let doneB ← match restB.head? with
        | some d => c.checkOrder s.unpaired s.disordered.2 2 (some b) (some d)
        | none => c.checkOrder s.unpaired s.disordered.2 2 s.before.2 (some b)
      compare fuel { s with
        before := (some a, some b), disordered := (doneA, doneB), totals := (i, j, k + 1) } restA restB
    | _, _, _ => return s

end Columns

/-- The options of `comm`. -/
def commOptions : OptionTable where
  flags := "123znct"
  valued := "O"
  long := longNames ("c=check-order n=nocheck-order O=output-delimiter t=total z=zero-terminated")

/-- The lines of two files in columns: those of the first only, of the second only, and of both. -/
def comm : Utility := fun arguments => do
  let a ← Task.options commOptions arguments
  let (first, second) ← twoOperands a.operands
  let joint := Octets.bytes ((a.value? 'O').getD "\t")
  let c : Columns := {
    first := !a.has '1'
    second := !a.has '2'
    both := !a.has '3'
    check := match a.last? "cn" with
      | some ('c', _) => .always
      | some _ => .never
      | none => .unpaired
    joint := if joint.isEmpty then [0] else joint
    mark := if a.has 'z' then 0 else 0x0A }
  let one := plainBy c.mark (← requireOperand first)
  let two := plainBy c.mark (← requireOperand second)
  let s ← c.compare (one.length + two.length + 1) {} one two
  if a.has 't' then
    let (i, j, k) := s.totals
    let number (n : Nat) : Bytes := Octets.bytes (toString n) ++ c.joint
    Task.put (number i ++ number j ++ number k ++ Octets.bytes "total" ++ [c.mark])
  if s.disordered.1 || s.disordered.2 then Task.complain "input is not in sorted order"

/-! ### Lines with the same field -/

/-- A field of an output line: a file and a field of it, or the field that lines have in common. -/
inductive OutputField where
  | common
  | of (second : Bool) (field : Nat)
deriving Repr, DecidableEq

/-- What `join` is asked for. Fields are counted from zero. -/
structure Joining where
  /-- Whether lines that the other file lacks are shown, too. -/
  loneFirst : Bool := false
  loneSecond : Bool := false
  pairs : Bool := true
  fill : Bytes := []
  folds : Bool := false
  keyFirst : Nat := 0
  keySecond : Nat := 0
  separator : Option UInt8 := none
  output : Option (List OutputField) := none
  /-- Whether the output has as many fields as the first lines. -/
  auto : Bool := false
  check : OrderCheck := .unpaired
  header : Bool := false
  mark : UInt8 := 0x0A

namespace Joining

variable (j : Joining)

/-- The fields of a line. -/
def fields (line : Bytes) : List Bytes :=
  match j.separator with
  | some c => if line.isEmpty then [[]] else Text.splitOn c line
  | none => (Text.splitOn 0x20 (line.map fun b => if isBlankByte b then 0x20 else b)).filter (!·.isEmpty)

/-- The field by which a line is joined. -/
def key (second : Bool) (fields : List Bytes) : Bytes :=
  fields.getD (if second then j.keySecond else j.keyFirst) []

/-- How fields compare. -/
def compareKeys (a b : Bytes) : Ordering :=
  if j.folds then compareBytes (a.map upperByte) (b.map upperByte) else compareBytes a b

/-- A field of a line, or what stands for one that is missing. -/
def fieldOr (fields : List Bytes) (i : Nat) : Bytes :=
  match fields[i]? with
  | some f => if f.isEmpty then j.fill else f
  | none => j.fill

/-- A joined line. -/
def joined (output : Option (List OutputField)) (one two : Option (List Bytes)) : Bytes :=
  let a := one.getD []
  let b := two.getD []
  let common := if one.isSome then j.fieldOr a j.keyFirst else j.fieldOr b j.keySecond
  let others (key : Nat) (fields : List Bytes) : List Bytes :=
    fields.zipIdx.filterMap fun (f, i) =>
      if i = key then none else some (if f.isEmpty then j.fill else f)
  let parts := match output with
    | none => common :: others j.keyFirst a ++ others j.keySecond b
    | some list => list.map fun
      | .common => common
      | .of false i => j.fieldOr a i
      | .of true i => j.fieldOr b i
  List.intercalate [j.separator.getD 0x20] parts ++ [j.mark]

/-- The lines with the same field at the start of a list, and those after them. -/
def sameKeys (second : Bool) (key : Bytes) (lines : List (List Bytes)) :
    List (List Bytes) × List (List Bytes) :=
  let same := lines.takeWhile fun l => j.compareKeys (j.key second l) key == .eq
  (same, lines.drop same.length)

/-- Join lines that are in order. -/
def run (output : Option (List OutputField)) : (fuel : Nat) →
    List (List Bytes) → List (List Bytes) → Bytes
  | 0, _, _ => []
  | fuel + 1, one, two =>
    match one, two with
    | [], [] => []
    | a :: rest, [] => (if j.loneFirst then j.joined output (some a) none else []) ++ run output fuel rest []
    | [], b :: rest => (if j.loneSecond then j.joined output none (some b) else []) ++ run output fuel [] rest
    | a :: restA, b :: restB =>
      match j.compareKeys (j.key false a) (j.key true b) with
      | .lt => (if j.loneFirst then j.joined output (some a) none else []) ++ run output fuel restA two
      | .gt => (if j.loneSecond then j.joined output none (some b) else []) ++ run output fuel one restB
      | .eq =>
        let (sameA, one) := j.sameKeys false (j.key false a) (a :: restA)
        let (sameB, two) := j.sameKeys true (j.key false a) (b :: restB)
        let pairs := sameA.flatMap fun x => sameB.flatMap fun y => j.joined output (some x) (some y)
        (if j.pairs then pairs else []) ++ run output fuel one two

/-- The first line of a file that is out of order, with its number. -/
def disorder? (second : Bool) : Nat → List (List Bytes) → Option Nat
  | n, a :: b :: rest =>
    if j.compareKeys (j.key second a) (j.key second b) == .gt then some (n + 1)
    else disorder? second (n + 1) (b :: rest)
  | _, _ => none

end Joining

/-- A number of a field, counted from zero. -/
def fieldNumber (text : String) : Task Nat := do
  match Amount.read [] text with
  | .exactly 0 => Task.fail ("invalid field number: " ++ Quoting.text text)
  | .exactly n => return n - 1
  | .tooLarge => return Amount.bound
  | _ => Task.fail ("invalid field number: " ++ Quoting.text text)

/-- The fields of a list such as `0,1.2`. -/
def outputFields (text : String) : Task (List OutputField) := do
  let parts := (Text.splitOn ',' (text.toList.map fun c => if c = ' ' ∨ c = '\t' then ',' else c))
  parts.mapM fun part => do
    let shown := Quoting.text (String.ofList part)
    match part with
    | ['0'] => return .common
    | '0' :: _ => Task.fail ("invalid field specifier: " ++ shown)
    | c :: '.' :: digits =>
      if c = '1' ∨ c = '2' then return .of (c == '2') (← fieldNumber (String.ofList digits))
      else Task.fail ("invalid file number in field spec: " ++ shown)
    | c :: _ =>
      if c = '1' ∨ c = '2' then Task.fail ("invalid field specifier: " ++ shown)
      else Task.fail ("invalid file number in field spec: " ++ shown)
    | [] => Task.fail ("invalid file number in field spec: " ++ shown)

/-- Take in an option of `join`. -/
def Joining.with (j : Joining) (letter : Char) (value : String) : Task Joining := do
  let file : Task Bool := match value with
    | "1" => return false
    | "2" => return true
    | _ => Task.fail ("invalid field number: " ++ Quoting.text value)
  match letter with
  | 'a' => if ← file then return { j with loneSecond := true } else return { j with loneFirst := true }
  | 'v' =>
    let j := { j with pairs := false }
    if ← file then return { j with loneSecond := true } else return { j with loneFirst := true }
  | 'e' => return { j with fill := Octets.bytes value }
  | 'i' => return { j with folds := true }
  | 'j' =>
    let n ← fieldNumber value
    return { j with keyFirst := n, keySecond := n }
  | '1' => return { j with keyFirst := ← fieldNumber value }
  | '2' => return { j with keySecond := ← fieldNumber value }
  | 'o' =>
    if value = "auto" then return { j with auto := true }
    else return { j with output := some (j.output.getD [] ++ (← outputFields value)) }
  | 't' =>
    match value, Octets.bytes value with
    | "\\0", _ => return { j with separator := some 0 }
    | _, [] => return { j with separator := some 0x0A }
    | _, [b] => return { j with separator := some b }
    | _, _ => Task.fail ("multi-character tab " ++ Quoting.text value)
  | 'c' => return { j with check := .always }
  | 'n' => return { j with check := .never }
  | 'H' => return { j with header := true }
  | 'z' => return { j with mark := 0 }
  | _ => return j

/-- The options of `join`. -/
def joinOptions : OptionTable where
  flags := "icnHz"
  valued := "aevj12ot"
  long := longNames "i=ignore-case c=check-order n=nocheck-order z=zero-terminated H=header"

/-- Report lines of a file that are out of order, where that matters. -/
def Joining.reportDisorder (j : Joining) (second : Bool) (name : String) (lines : List (List Bytes))
    (raw : List Bytes) : Task Bool := do
  match j.disorder? second 1 lines with
  | none => return false
  | some n =>
    let text := Quoting.name name ++ ":" ++ toString n ++ ": is not sorted: "
      ++ textOf (raw.getD (n - 1) [])
    if j.check = .always then Task.fail text
    Task.complain text
    return true

/-- Lines of two files that have a field in common, put together. -/
def join : Utility := fun arguments => do
  let a := joinOptions.read true (arguments.length + 1) arguments
  let mut j : Joining := {}
  for (letter, value) in a.options do j ← j.with letter value
  match a.fault with
  | some fault => Task.misuse fault.message
  | none => pure ()
  let (first, second) ← twoOperands a.operands
  let rawOne := plainBy j.mark (← requireOperand first)
  let rawTwo := plainBy j.mark (← requireOperand second)
  let one := rawOne.map j.fields
  let two := rawTwo.map j.fields
  let output := if j.auto then
      let others (second : Bool) (key : Nat) (line : Option (List Bytes)) : List OutputField :=
        ((List.range (line.getD []).length).filter (· != key)).map (OutputField.of second)
      some (.common :: others false j.keyFirst one.head? ++ others true j.keySecond two.head?)
    else j.output
  let n := one.length + two.length + 1
  if j.header then
    if !one.isEmpty || !two.isEmpty then Task.put (j.joined output one.head? two.head?)
    Task.put (j.run output n one.tail two.tail)
  else
    let paired := one.all fun x => two.any fun y => j.compareKeys (j.key false x) (j.key true y) == .eq
    let paired := paired && two.all fun y =>
      one.any fun x => j.compareKeys (j.key false x) (j.key true y) == .eq
    let checked := j.check == .always || (j.check == .unpaired && !paired)
    Task.put (j.run output n one two)
    if checked then
      let wrongOne ← j.reportDisorder false first one rawOne
      let wrongTwo ← j.reportDisorder true second two rawTwo
      if wrongOne || wrongTwo then Task.complain "input is not in sorted order"

end ArtifactPipeline.Shell.Utility
