import ArtifactPipeline.Shell.Utility.Rows

/-!
# Counts

The program `wc` counts the lines, words and octets of what it reads, and measures the longest line. The
counts stand in columns as wide as the sizes of the files ask for.

* `wordCount` counts words, and `longestLine` measures lines as they are shown;
* `wc` writes the counts.
-/

namespace ArtifactPipeline.Shell.Utility

/-- The number of words; a word holds at least one octet that can be seen. -/
def wordCount (bytes : Bytes) : Nat :=
  let step (state : Nat × Bool) (b : UInt8) : Nat × Bool :=
    if isSpaceByte b then (state.1 + (if state.2 then 1 else 0), false)
    else (state.1, state.2 || isPrintedByte b)
  step (bytes.foldl step (0, false)) 0x20 |>.1

/-- The columns that the longest line takes. What cannot be seen takes none, and a tab leads to the
next multiple of eight. -/
def longestLine (bytes : Bytes) : Nat :=
  let step (state : Nat × Nat) (b : UInt8) : Nat × Nat :=
    if b = 0x0A ∨ b = 0x0D ∨ b = 0x0C then (max state.1 state.2, 0)
    else if b = 0x09 then (state.1, state.2 + (8 - state.2 % 8))
    else if isPrintedByte b then (state.1, state.2 + 1)
    else state
  let (longest, last) := bytes.foldl step (0, 0)
  max longest last

/-- The options of `wc`. -/
def wcOptions : OptionTable where
  flags := "lwcmL"
  valued := "tf"
  long := longNames "l=lines w=words c=bytes m=chars L=max-line-length t=total f=files0-from"

/-- Lines, words and octets. -/
structure Counts where
  lines : Nat := 0
  words : Nat := 0
  octets : Nat := 0
  longest : Nat := 0

namespace Counts

/-- The counts of octets. -/
def of (bytes : Bytes) : Counts := ⟨bytes.count 0x0A, wordCount bytes, bytes.length, longestLine bytes⟩

/-- The counts of two files together. -/
def add (a b : Counts) : Counts :=
  ⟨a.lines + b.lines, a.words + b.words, a.octets + b.octets, max a.longest b.longest⟩

/-- The counts that are asked for. -/
def asked (a : Arguments) (c : Counts) : List Nat :=
  let usual := !a.hasAny "lwcmL"
  (if usual || a.has 'l' then [c.lines] else [])
    ++ (if usual || a.has 'w' then [c.words] else [])
    ++ (if a.has 'm' then [c.octets] else [])
    ++ (if usual || a.has 'c' then [c.octets] else [])
    ++ (if a.has 'L' then [c.longest] else [])

/-- Counts in columns of one width, and a name. -/
def line (a : Arguments) (width : Nat) (name : String) (c : Counts) : String :=
  let cells := (c.asked a).map fun n => rightAligned width (toString n)
  String.intercalate " " cells ++ (if name = "" then "" else " " ++ name)

end Counts

/-- The size by which the columns of an operand are measured, if it is a file. -/
def measuredSize? (d : Desk) (name : String) : Option Nat :=
  if Task.isInput name then
    match d.toMachine.opening? 0 with
    | some { target := .node (.file id), .. } => some (d.files.sizeOf id)
    | some _ => none
    | none => some 0
  else
    match d.files.find (State.fileName name) with
    | .ok (_, .file id) => some (d.files.sizeOf id)
    | .ok _ => none
    | .error _ => some 0

/-- The unit in which memory holds files. -/
def pageSize : Nat := 4096

/-- The octets of an opening. Where only their number is asked for, a file is not read, unless its size
could be one that does not tell how much is in it. -/
def countedOctets (a : Arguments) (number : Nat) : Task Input := do
  let d ← get
  let only := a.hasAny "cm" && !a.hasAny "lwL"
  match d.openings[number]? with
  | some { target := .node (.file id), .. } =>
    if only && d.files.sizeOf id % pageSize != 0 then return d.toMachine.leftOf number none
    else Task.takeAll number
  | _ => Task.takeAll number

/-- The width of the columns. -/
def countWidth (a : Arguments) (total : Char) (names : List String) (d : Desk) : Nat :=
  if total = 'o' || (names.length = 1 && (({} : Counts).asked a).length = 1) then 1
  else
    let sizes := names.map (measuredSize? d)
    let digits := (toString (sizes.foldl (fun n s => n + s.getD 0) 0)).length
    if sizes.any Option.isNone then max 7 digits else digits

/-- Lines, words and octets, counted. -/
def wc : Utility := fun arguments => do
  let totals := [["auto"], ["always"], ["only"], ["never"]]
  let a ← Task.optionsWith wcOptions arguments fun letter value =>
    if letter = 't' then discard (Task.wordLetter "--total" totals ['u', 'a', 'o', 'n'] value)
    else pure ()
  let total ← match a.value? 't' with
    | some word => Task.wordLetter "--total" totals ['u', 'a', 'o', 'n'] word
    | none => pure 'u'
  let names := if a.operands.isEmpty then ["-"] else a.operands
  let width := countWidth a total names (← get)
  let mut all : Counts := {}
  for name in names do
    let label := if a.operands.isEmpty then "" else name
    let fail (fault : IoFault) : Task Unit := do
      Task.complain (Quoting.name (if name = "-" then "standard input" else name) ++ ": "
        ++ faultText fault)
      if (fault == .isDirectory || name = "-") && total != 'o' then
        Task.putLine (Counts.line a width label {})
    match ← Task.openOperand name with
    | .error fault =>
      if name = "" then Task.complain "invalid zero-length file name" else fail fault
    | .ok number =>
      match ← countedOctets a number with
      | .error fault => fail fault
      | .ok bytes =>
        let counts := Counts.of bytes
        all := all.add counts
        if total != 'o' then Task.putLine (Counts.line a width label counts)
  let shown := if total = 'u' then 1 < names.length else total != 'n'
  if shown then
    Task.putLine (Counts.line a width (if total = 'o' then "" else "total") all)
  if names.contains "-" && ((← get).toMachine.number? 0).isNone then
    Task.complain "-: Bad file descriptor"

end ArtifactPipeline.Shell.Utility
