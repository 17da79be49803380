import ArtifactPipeline.Decimal.Floating
import ArtifactPipeline.Shell.Utility.Contents

/-!
# Differences of two files

The program `cmp` compares two files octet by octet. It tells where the first difference is, or shows all
of them, and it tells which file ends before the other one.

* `commonLength` counts the octets before the first difference (`take_commonLength`);
* `cmp` tells the differences.
-/

namespace ArtifactPipeline.Shell.Utility

/-- The number of octets before the first difference. -/
def commonLength : Bytes → Bytes → Nat
  | a :: as, b :: bs => if a = b then commonLength as bs + 1 else 0
  | _, _ => 0

theorem take_commonLength (as bs : Bytes) :
    as.take (commonLength as bs) = bs.take (commonLength as bs) := by
  induction as generalizing bs with
  | nil => simp [commonLength]
  | cons a as ih =>
    cases bs with
    | nil => simp [commonLength]
    | cons b bs =>
      by_cases h : a = b
      · simp [commonLength, h, ih]
      · simp [commonLength, h]

/-- Report arguments that make no sense, or only point to help, and stop. The name of the program stands
before both. -/
def namedMisuse {α : Type} (text : Option String) : Task α := do
  match text with
  | some text => Task.complain text
  | none => pure ()
  Task.fail ("Try '" ++ (← get).program ++ " --help' for more information.")

/-- Sort arguments into options and operands. -/
def namedOptions (t : OptionTable) (arguments : List String) : Task Arguments := do
  let a := t.read true (arguments.length + 1) arguments
  match a.fault with
  | some fault => namedMisuse (some fault.message)
  | none => return a

/-! ### Requests -/

/-- What a comparison shall tell. -/
inductive Telling where
  | first
  | all
  | status
deriving Repr, DecidableEq

/-- What is asked of a comparison. -/
structure ComparisonRequest where
  telling : Telling := .first
  /-- Whether octets are shown, too. -/
  shows : Bool := false
  limit : Option Nat := none
  /-- The numbers of octets to step over. -/
  skips : Nat × Nat := (0, 0)

/-- The largest place in a file. -/
def placeBound : Nat := 9223372036854775808

/-- The number at the start of a text, with a letter for a factor behind it, and what stands after it. -/
def countAt? (cs : List Char) : Option (Nat × List Char) := do
  let known := "kKMGTPEZY0".toList
  let (isDigit, base, start) := match cs with
    | '0' :: 'x' :: _ => (Decimal.FloatFormat.isHexDigit, 16, cs.drop 2)
    | '0' :: _ => ((fun c => '0' ≤ c && c ≤ '7'), 8, cs)
    | _ => (Char.isDigit, 10, cs)
  let digits := start.takeWhile isDigit
  if digits.isEmpty then none
  else
    let n := digits.foldl (fun n c => base * n + Decimal.FloatFormat.hexValue c) 0
    let rest := start.drop digits.length
    let (n, rest) := match rest with
      | c :: more =>
        match Amount.factor? known c more with
        | some (k, more) => (n * k, more)
        | none => (n, rest)
      | [] => (n, [])
    if n < placeBound then some (n, rest) else none

/-- The number that a text denotes, with the name of an option that it belongs to. -/
def countOf (option text : String) : Task Nat :=
  match countAt? text.toList with
  | some (n, []) => return n
  | _ => namedMisuse (some ("invalid --" ++ option ++ " value " ++ Quoting.text text))

/-- The numbers of octets to step over: one for both files, or one for each. -/
def skipsOf (text : String) : Task (Nat × Nat) := do
  match countAt? text.toList with
  | some (n, ':' :: rest) => return (n, ← countOf "ignore-initial" (String.ofList rest))
  | _ =>
    let n ← countOf "ignore-initial" text
    return (n, n)

namespace ComparisonRequest

/-- Take in numbers of octets to step over; of two numbers the larger one counts. -/
def skip (r : ComparisonRequest) (skips : Nat × Nat) : ComparisonRequest :=
  { r with skips := (max r.skips.1 skips.1, max r.skips.2 skips.2) }

/-- Take in an option. -/
def option (r : ComparisonRequest) (letter : Char) (value : String) : Task ComparisonRequest := do
  let tell (telling : Telling) : Task ComparisonRequest :=
    if r.telling != .first && r.telling != telling then
      namedMisuse (some "options -l and -s are incompatible")
    else return { r with telling }
  match letter with
  | 'b' => return { r with shows := true }
  | 'i' => return r.skip (← skipsOf value)
  | 'l' => tell .all
  | 's' => tell .status
  | 'n' =>
    let n ← countOf "bytes" value
    return { r with limit := some (min n (r.limit.getD n)) }
  | _ => return r

end ComparisonRequest

/-! ### Comparing -/

/-- An octet in octal digits, in three columns. -/
def octalCell (b : UInt8) : String := rightAligned 3 (String.ofList (Nat.toDigits 8 b.toNat))

/-- The lines for all differences, with the numbers of the octets in columns of a width. -/
def differenceLines (shows : Bool) (width : Nat) : (number : Nat) → Bytes → Bytes → List String
  | number, a :: as, b :: bs =>
    let rest := differenceLines shows width (number + 1) as bs
    if a = b then rest
    else
      let start := rightAligned width (toString number) ++ " " ++ octalCell a ++ " "
      (if shows then
        start ++ leftAligned 4 (textOf (visible a)) ++ " " ++ octalCell b ++ " " ++ textOf (visible b)
      else start ++ octalCell b) :: rest
  | _, _, _ => []

/-- The report on the first difference, at an octet and in a line. -/
def firstDifference (shows : Bool) (names : String) (number line : Nat) (a b : UInt8) : String :=
  names ++ " differ: " ++ (if shows then "byte " else "char ") ++ toString number ++ ", line "
    ++ toString line
    ++ if shows then
        " is " ++ octalCell a ++ " " ++ textOf (visible a) ++ " " ++ octalCell b ++ " "
          ++ textOf (visible b)
      else ""

/-- The report on the end of the shorter file, after octets that are in both. -/
def endReport (lines : Bool) (name : String) (common : Bytes) : String :=
  let breaks := common.count 0x0A
  "EOF on " ++ name
    ++ if common.isEmpty then " which is empty"
      else " after byte " ++ toString common.length
        ++ if !lines then ""
          else if isUnended common then ", in line " ++ toString (breaks + 1)
          else ", line " ++ toString breaks

/-- Open a file that is compared. -/
def openCompared (quiet : Bool) (name : String) : Task Nat := do
  match ← Task.openOperand name with
  | .ok number => return number
  | .error fault =>
    if quiet then Task.ends 2 else Task.complain (name ++ ": " ++ faultText fault)
    Task.stop

/-- The octets of a file that are compared. -/
def comparedOctets (name : String) (number skip : Nat) (limit : Option Nat) : Task Bytes := do
  match (← get).toMachine.leftOf number (limit.map (· + skip)) with
  | .error fault => Task.fail (name ++ ": " ++ faultText fault)
  | .ok bytes =>
    let left := bytes.drop skip
    let wanted := match limit with
      | some n => left.take n
      | none => left
    stepOver number (skip + wanted.length)
    return wanted

/-- The number of octets that a file has left, if it is a file. -/
def leftSize? (d : Desk) (number skip : Nat) : Option Nat :=
  match d.openings[number]? with
  | some { target := .node (.file id), place, .. } => some (d.files.sizeOf id - place - skip)
  | _ => none

/-- Whether two openings are at the same place of the same thing. -/
def isSamePlace (d : Desk) (first second : Nat × Nat) : Bool :=
  match d.openings[first.1]?, d.openings[second.1]? with
  | some a, some b =>
    match a.target, b.target with
    | .pipe p, .pipe q => p == q
    | .node .directory, .node .directory => false
    | .node m, .node n => m == n && a.place + first.2 == b.place + second.2
    | _, _ => false
  | _, _ => false

/-- Compare two files that are open. -/
def compareFiles (r : ComparisonRequest) (names : String × String) (numbers : Nat × Nat) : Task Unit := do
  let d ← get
  let sizes := [leftSize? d numbers.1 r.skips.1, leftSize? d numbers.2 r.skips.2]
  let beyond := match sizes with
    | [some m, some n] => m != n && r.limit.all fun limit => min m n < limit
    | _ => false
  if r.telling = .status && beyond then Task.ends 1
  else
    let first ← comparedOctets names.1 numbers.1 r.skips.1 r.limit
    let second ← comparedOctets names.2 numbers.2 r.skips.2 r.limit
    let n := commonLength first second
    let ended := n = min first.length second.length
    if first != second then Task.ends 1
    let shorter := if second.length < first.length then names.2 else names.1
    let hidden := match d.toMachine.opening? 1 with
      | some { target := .node .sink, .. } => true
      | _ => false
    match r.telling with
    | .status => pure ()
    | .first =>
      match first[n]?, second[n]? with
      | some a, some b =>
        let line := (first.take n).count 0x0A + 1
        Task.putLine (firstDifference r.shows (names.1 ++ " " ++ names.2) (n + 1) line a b)
      | _, _ =>
        if first.length != second.length then
          Task.remark (endReport (!hidden) shorter (first.take n))
    | .all =>
      if first.length != second.length && (ended || !hidden) then
        Task.remark (endReport false shorter (first.take (min first.length second.length)))
      let most := (r.limit.toList ++ sizes.filterMap fun size => size).foldl min (placeBound - 1)
      for line in differenceLines r.shows (toString most).length 1 first second do Task.putLine line

/-- Two files, compared octet by octet. -/
def cmp : Utility := fun arguments => do
  Task.faultsEndWith 2
  let t : OptionTable := {
    flags := "bls"
    valued := "in"
    long := longNames ("b=print-bytes b=print-chars i=ignore-initial l=verbose n=bytes s=quiet "
      ++ "s=silent") }
  let a := t.read true (arguments.length + 1) arguments
  let r ← a.options.foldlM (fun (r : ComparisonRequest) (letter, value) => r.option letter value) {}
  match a.fault with
  | some fault => namedMisuse (some fault.message)
  | none => pure ()
  match a.operands with
  | [] =>
    namedMisuse (some ("missing operand after "
      ++ Quoting.text (arguments.getLast?.getD (← get).program)))
  | first :: rest =>
    let second := rest.headD "-"
    let mut r := r
    match rest.tail with
    | [] => pure ()
    | skip :: more =>
      let n ← countOf "ignore-initial" skip
      r := r.skip (n, 0)
      match more with
      | [] => pure ()
      | skip :: more =>
        let n ← countOf "ignore-initial" skip
        r := r.skip (0, n)
        match more with
        | [] => pure ()
        | extra :: _ => namedMisuse (some ("extra operand " ++ Quoting.text extra))
    let quiet := r.telling == .status
    let numbers := (← openCompared quiet first, ← openCompared quiet second)
    let directories := (← Task.isDirectory first, ← Task.isDirectory second)
    let d ← get
    let same := isSamePlace d (numbers.1, r.skips.1) (numbers.2, r.skips.2)
      || directories == (true, true) && (d.files.find (State.fileName first)).toOption.map Prod.fst
        == (d.files.find (State.fileName second)).toOption.map Prod.fst
    if !same then compareFiles r (first, second) numbers

end ArtifactPipeline.Shell.Utility
