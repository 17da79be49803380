import ArtifactPipeline.Shell.Utility.Amount
import ArtifactPipeline.Shell.Utility.Compare

/-!
# Lines in order

`sort` compares lines by keys, which are parts of lines, and then as a whole.

* `SortKey.part` is the part of a line that a key compares;
* `SortOrder.compareLines` compares lines by all keys;
* `sort` puts lines in order, merges lines that are in order, or checks that they are.
-/

namespace ArtifactPipeline.Shell.Utility

/-! ### Styles -/

/-- What a key compares. -/
structure SortStyle where
  skipsStartBlanks : Bool := false
  skipsStopBlanks : Bool := false
  dictionary : Bool := false
  printable : Bool := false
  folds : Bool := false
  general : Bool := false
  human : Bool := false
  months : Bool := false
  numeric : Bool := false
  random : Bool := false
  versions : Bool := false
  reverse : Bool := false
deriving DecidableEq

namespace SortStyle

variable (s : SortStyle)

/-- Whether nothing is asked for, apart from the direction. -/
def isUsual : Bool := s == { reverse := s.reverse }

/-- Take in a letter; the flags say whether blanks are skipped at the start and at the stop of a part. -/
def letter? (atStart atStop : Bool) (c : Char) : Option SortStyle :=
  match c with
  | 'b' =>
    some { s with
      skipsStartBlanks := s.skipsStartBlanks || atStart
      skipsStopBlanks := s.skipsStopBlanks || atStop }
  | 'd' => some { s with dictionary := true, printable := false }
  | 'f' => some { s with folds := true }
  | 'g' => some { s with general := true }
  | 'h' => some { s with human := true }
  | 'i' => some (if s.dictionary then s else { s with printable := true })
  | 'M' => some { s with months := true }
  | 'n' => some { s with numeric := true }
  | 'r' => some { s with reverse := true }
  | 'R' => some { s with random := true }
  | 'V' => some { s with versions := true }
  | _ => none

/-- Take in letters, and what stands after them. -/
def letters (atStart atStop : Bool) (s : SortStyle) : List Char → SortStyle × List Char
  | [] => (s, [])
  | c :: rest =>
    match s.letter? atStart atStop c with
    | some s => letters atStart atStop s rest
    | none => (s, c :: rest)

/-- The letters of styles that do not go together, if there are any. -/
def conflict? : Option String :=
  let kinds := [s.numeric, s.general, s.human, s.months,
    s.versions || s.random || s.dictionary || s.printable]
  if (kinds.filter id).length ≤ 1 then none
  else
    let shown := [(s.dictionary, 'd'), (s.folds, 'f'), (s.general, 'g'), (s.human, 'h'),
      (s.printable, 'i'), (s.months, 'M'), (s.numeric, 'n'), (s.random, 'R'), (s.versions, 'V')]
    some (String.ofList (shown.filterMap fun p => if p.1 then some p.2 else none))

/-- Whether an octet counts. -/
def counts (b : UInt8) : Bool :=
  if s.dictionary then isBlankByte b || isLetterByte b || isDigitByte b
  else if s.printable then isPrintedByte b
  else true

/-- How parts of lines compare, in ascending order. -/
def compareParts (a b : Bytes) : Ordering :=
  let seen (bytes : Bytes) : Bytes :=
    let bytes := if s.dictionary || s.printable then bytes.filter s.counts else bytes
    if s.folds then bytes.map upperByte else bytes
  if s.numeric then compareNumbers a b
  else if s.general then (AnyNumber.ofText (textOf a)).compare (AnyNumber.ofText (textOf b))
  else if s.human then compareUnits a b
  else if s.months then compare (monthOf (seen a)) (monthOf (seen b))
  else if s.versions then compareVersions (seen a) (seen b)
  else compareBytes (seen a) (seen b)

end SortStyle

/-! ### Keys -/

/-- A part of a line by which lines are compared. Fields and octets are counted from zero. -/
structure SortKey where
  /-- The field where it starts; `none` is the whole line. -/
  field : Option Nat := none
  octet : Nat := 0
  /-- The field where it stops, and the number of octets of that field that belong to it; zero is the
  whole field. -/
  stop : Option (Nat × Nat) := none
  style : SortStyle := {}

/-- What is left of a line after a number of fields. -/
def afterFields (separator : Option UInt8) : Nat → Bytes → Bytes
  | 0, line => line
  | n + 1, line =>
    match separator with
    | some c => afterFields separator n ((line.dropWhile (· != c)).drop 1)
    | none =>
      afterFields separator n ((line.dropWhile isBlankByte).dropWhile fun b => !isBlankByte b)

/-- The number of octets of a line before a key starts. -/
def SortKey.startOffset (k : SortKey) (separator : Option UInt8) (line : Bytes) : Nat :=
  let rest := afterFields separator (k.field.getD 0) line
  let rest := if k.style.skipsStartBlanks then rest.dropWhile isBlankByte else rest
  min line.length (line.length - rest.length + k.octet)

/-- The number of octets of a line before a key stops. -/
def SortKey.stopOffset (k : SortKey) (separator : Option UInt8) (line : Bytes) : Nat :=
  match k.stop with
  | none => line.length
  | some (field, 0) =>
    match separator with
    | some c =>
      let rest := (afterFields separator field line).dropWhile (· != c)
      line.length - rest.length
    | none => line.length - (afterFields none (field + 1) line).length
  | some (field, octets) =>
    let rest := afterFields separator field line
    let rest := if k.style.skipsStopBlanks then rest.dropWhile isBlankByte else rest
    min line.length (line.length - rest.length + octets)

/-- The part of a line that a key compares. -/
def SortKey.part (k : SortKey) (separator : Option UInt8) (line : Bytes) : Bytes :=
  (line.take (k.stopOffset separator line)).drop (k.startOffset separator line)

/-- Report a key that makes no sense. -/
def badKey {α : Type} (text spec : String) : Task α :=
  Task.fail (text ++ ": invalid field specification " ++ Quoting.text spec)

/-- Read a number of a key; `what` is what it is called in a report. -/
def keyNumber (what : String) (cs : List Char) : Task (Nat × List Char) := do
  let unsigned := match cs.dropWhile fun c => c == ' ' || ('\t' ≤ c && c ≤ '\r') with
    | '+' :: rest => rest
    | rest => rest
  let digits := unsigned.takeWhile Char.isDigit
  if digits.isEmpty then
    Task.fail (what ++ ": invalid count at start of " ++ Quoting.text (String.ofList cs))
  return (min (Amount.bound - 1) (Amount.ofDigits digits), unsigned.drop digits.length)

/-- Read a key. -/
def sortKey (spec : String) : Task SortKey := do
  let (field, rest) ← keyNumber "invalid number at field start" spec.toList
  if field = 0 then badKey "field number is zero" spec
  let (octet, rest) ← match rest with
    | '.' :: more =>
      let (octet, rest) ← keyNumber "invalid number after '.'" more
      if octet = 0 then badKey "character offset is zero" spec
      pure (octet - 1, rest)
    | rest => pure (0, rest)
  let start := if field = 1 ∧ octet = 0 then none else some (field - 1)
  let (style, rest) := SortStyle.letters true false {} rest
  match rest with
  | [] => return { field := start, octet, style }
  | ',' :: more =>
    let (last, rest) ← keyNumber "invalid number after ','" more
    if last = 0 then badKey "field number is zero" spec
    let (octets, rest) ← match rest with
      | '.' :: more => keyNumber "invalid number after '.'" more
      | rest => pure (0, rest)
    let (style, rest) := SortStyle.letters false true style rest
    if !rest.isEmpty then badKey "stray character in field spec" spec
    return { field := start, octet, stop := some (last - 1, octets), style }
  | _ => badKey "stray character in field spec" spec

/-! ### Orders -/

/-- How lines are put in order. -/
structure SortOrder where
  keys : List SortKey
  separator : Option UInt8 := none
  reverse : Bool := false
  /-- Whether lines are alike when their keys are. -/
  keysOnly : Bool := false

namespace SortOrder

variable (o : SortOrder)

/-- How lines compare by their keys. -/
def compareKeys (a b : Bytes) : Ordering :=
  o.keys.foldl (fun found k =>
    found.then <|
      let here := k.style.compareParts (k.part o.separator a) (k.part o.separator b)
      if k.style.reverse then here.swap else here) .eq

/-- How lines compare. -/
def compareLines (a b : Bytes) : Ordering :=
  let whole := if o.reverse then (compareBytes a b).swap else compareBytes a b
  if o.keys.isEmpty then whole
  else if o.keysOnly then o.compareKeys a b
  else (o.compareKeys a b).then whole

/-- The lines of which none is like the one kept before. -/
def dropAlike : List Bytes → List Bytes
  | [] => []
  | line :: rest =>
    (rest.foldl (fun (kept : List Bytes × Bytes) next =>
      if o.compareLines kept.2 next == .eq then kept else (next :: kept.1, next)) ([line], line)).1.reverse

/-- The first line that should not stand after the one before it, with its number. -/
def firstDisorder (strict : Bool) : Nat → List Bytes → Option (Nat × Bytes)
  | n, a :: b :: rest =>
    let order := o.compareLines a b
    if order == .gt || (strict && order == .eq) then some (n + 1, b)
    else firstDisorder strict (n + 1) (b :: rest)
  | _, _ => none

/-- The place of the list whose first line comes first. -/
def firstOf (lists : List (List Bytes)) : Option (Nat × Bytes) :=
  lists.zipIdx.foldl (fun (best : Option (Nat × Bytes)) entry =>
    match entry.1.head?, best with
    | some line, some (_, other) =>
      if o.compareLines other line == .gt then some (entry.2, line) else best
    | some line, none => some (entry.2, line)
    | none, best => best) none

/-- The lines of lists, of which always the first one that comes first is taken. -/
def merge : (fuel : Nat) → List (List Bytes) → List Bytes
  | 0, _ => []
  | fuel + 1, lists =>
    match o.firstOf lists with
    | none => []
    | some (i, line) => line :: merge fuel (lists.modify i List.tail)

end SortOrder

/-! ### What is asked for -/

/-- What `sort` is asked for. -/
structure SortRequest where
  usual : SortStyle := {}
  keys : List SortKey := []
  separator : Option UInt8 := none
  /-- Whether the order is only checked, and by which letter that is asked for. -/
  checks : Option Char := none
  output : Option String := none
  merges : Bool := false
  stable : Bool := false
  unique : Bool := false
  mark : UInt8 := 0x0A

/-- The letters for the words of the option for a style. -/
def sortWords : List (String × Char) :=
  [("general-numeric", 'g'), ("human-numeric", 'h'), ("month", 'M'), ("numeric", 'n'),
    ("random", 'R'), ("version", 'V')]

/-- The separator that a text asks for. -/
def sortSeparator (before : Option UInt8) (text : String) : Task (Option UInt8) := do
  let mark ← match text, Octets.bytes text with
    | "\\0", _ => pure 0
    | _, [b] => pure b
    | _, [] => Task.fail "empty tab"
    | _, _ => Task.fail ("multi-character tab " ++ Quoting.text text)
  if before.isSome ∧ before ≠ some mark then Task.fail "incompatible tabs"
  return some mark

/-- Take in an option of `sort`. -/
def SortRequest.with (r : SortRequest) (letter : Char) (value : String) : Task SortRequest := do
  match letter with
  | 'c' | 'C' | 'K' =>
    let word ← if value.isEmpty then pure (if letter = 'C' then 'C' else 'c')
      else Task.wordLetter "--check" [["quiet", "silent"], ["diagnose-first"]] ['C', 'c'] value
    if r.checks.any (· != word) then Task.fail "options '-cC' are incompatible"
    return { r with checks := some word }
  | 'k' => return { r with keys := r.keys ++ [← sortKey value] }
  | 'm' => return { r with merges := true }
  | 'o' =>
    if r.output.any (· != value) then Task.fail "multiple output files specified"
    return { r with output := some value }
  | 's' => return { r with stable := true }
  | 't' => return { r with separator := ← sortSeparator r.separator value }
  | 'u' => return { r with unique := true }
  | 'z' => return { r with mark := 0 }
  | 'S' =>
    let digits := value.toList.takeWhile Char.isDigit
    let rest := value.toList.drop digits.length
    if digits.isEmpty then Task.fail ("invalid -S argument " ++ Quoting.text value)
    else if !rest.isEmpty && !"%bEgGkKmMPQRtTYZ".toList.any (fun c => rest == [c]) then
      Task.fail ("invalid suffix in -S argument " ++ Quoting.text value)
    return r
  | 'p' =>
    if (value.toList.all fun c => c == '0') && !value.isEmpty then
      Task.fail "number in parallel must be nonzero"
    return r
  | 'w' =>
    let c ← Task.wordLetter "--sort" (sortWords.map fun w => [w.1]) (sortWords.map Prod.snd) value
    return { r with usual := (r.usual.letter? true true c).getD r.usual }
  | c => return { r with usual := (r.usual.letter? true true c).getD r.usual }

/-- The options of `sort`. -/
def sortOptions : OptionTable where
  flags := "bcCdfghimMnrRsuVzD"
  valued := "koStTypwBPAF"
  optional := "K"
  long := longNames ("b=ignore-leading-blanks P=compress-program D=debug d=dictionary-order "
    ++ "f=ignore-case F=files0-from g=general-numeric-sort i=ignore-nonprinting k=key m=merge "
    ++ "M=month-sort n=numeric-sort h=human-numeric-sort V=version-sort R=random-sort "
    ++ "A=random-source w=sort o=output r=reverse s=stable B=batch-size S=buffer-size "
    ++ "t=field-separator T=temporary-directory u=unique z=zero-terminated p=parallel "
    ++ "K=check")

/-- The order that a request is about. -/
def SortRequest.order (r : SortRequest) : Task SortOrder := do
  let keys := r.keys.map fun k =>
    if k.style.isUsual && !k.style.reverse then { k with style := r.usual } else k
  let keys := if keys.isEmpty && !r.usual.isUsual then [{ style := r.usual }] else keys
  match keys.findSome? fun k => k.style.conflict? with
  | some letters => Task.fail ("options '-" ++ letters ++ "' are incompatible")
  | none =>
    return {
      keys
      separator := r.separator
      reverse := r.usual.reverse
      keysOnly := r.stable || r.unique }

/-- The rows of each operand; a program that cannot read one of them stops, and says what it has tried. -/
def sortInput (mark : UInt8) (trial : String) (names : List String) : Task (List (List Bytes)) := do
  for name in names do
    if !Task.isInput name then
      match ← Task.find name with
      | .error fault => Task.fail (trial ++ ": " ++ Quoting.name name ++ ": " ++ faultText fault)
      | .ok _ => pure ()
  names.mapM fun name => do
    match ← Task.readOperand name with
    | .ok bytes => return plainBy mark bytes
    | .error fault => Task.fail ("read failed: " ++ Quoting.name name ++ ": " ++ faultText fault)

/-- Report the first line that is out of order. -/
def checkOrder (r : SortRequest) (o : SortOrder) (letter : Char) (name : String) (lines : List Bytes) :
    Task Unit :=
  match o.firstDisorder r.unique 1 lines with
  | none => pure ()
  | some (n, line) => do
    if letter = 'c' then
      Task.remark (Quoting.name name ++ ":" ++ toString n ++ ": disorder: " ++ textOf line)
    Task.ends 1

/-- The names of the files to read, which a file can hold. -/
def listedNames (a : Arguments) : Task (List String) := do
  match a.value? 'F', a.operands with
  | none, operands => return if operands.isEmpty then ["-"] else operands
  | some _, extra :: _ =>
    Task.complain ("extra operand " ++ Quoting.text extra)
    Task.note "file operands cannot be combined with --files0-from"
    Task.seekHelp
  | some list, [] =>
    match ← Task.readOperand list with
    | .error fault => Task.fail ("open failed: " ++ Quoting.name list ++ ": " ++ faultText fault)
    | .ok bytes =>
      match plainBy 0 bytes with
      | [] => Task.fail ("no input from " ++ Quoting.text list)
      | names =>
        let names := names.map textOf
        match names.zipIdx.find? fun entry => entry.1 == "" with
        | some (_, i) =>
          Task.fail (Quoting.name list ++ ":" ++ toString (i + 1) ++ ": invalid zero-length file name")
        | none => return names

/-- The lines in order. -/
def sort : Utility := fun arguments => do
  Task.faultsEndWith 2
  let a := sortOptions.read true (arguments.length + 1) arguments
  let mut r : SortRequest := {}
  for (letter, value) in a.options do r ← r.with letter value
  match a.fault with
  | some fault => Task.misuse fault.message
  | none => pure ()
  let names ← listedNames a
  let o ← r.order
  match r.checks with
  | some letter =>
    match names with
    | _ :: extra :: _ =>
      Task.fail ("extra operand " ++ Quoting.always extra ++ " not allowed with -"
        ++ String.singleton letter)
    | _ => pure ()
    if r.output.isSome then
      Task.fail ("options '-" ++ String.singleton letter ++ "o' are incompatible")
    let lists ← sortInput r.mark "open failed" names
    checkOrder r o letter (names.headD "-") lists.flatten
  | none =>
    let lists ← sortInput r.mark "cannot read" names
    let lines := lists.flatten
    let sorted :=
      if r.merges then o.merge (lines.length + 1) lists
      else lines.mergeSort fun x y => o.compareLines x y != .gt
    let kept := if r.unique then o.dropAlike sorted else sorted
    let written := kept.flatMap fun line => line ++ [r.mark]
    match r.output with
    | none => Task.put written
    | some name =>
      match ← Task.writeFile name written with
      | .ok _ => pure ()
      | .error fault => Task.fail ("open failed: " ++ Quoting.name name ++ ": " ++ faultText fault)

end ArtifactPipeline.Shell.Utility
