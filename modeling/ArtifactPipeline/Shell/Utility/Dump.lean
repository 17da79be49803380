import ArtifactPipeline.Shell.Utility.Amount
import ArtifactPipeline.Shell.Utility.Contents
import ArtifactPipeline.Shell.Utility.Rows

/-!
# Octets in digits

The program `od` writes octets in blocks of one width, each block in every form that is asked for. A form
takes so many octets together and writes them as a number, a character or a name. Blocks start with their
place in the input, and blocks like the one before them are left out.

* `DumpForm.read` reads the forms that an option asks for;
* `DumpLayout` places forms in lines, and `Dump.add` writes the blocks that are complete.
-/

namespace ArtifactPipeline.Shell.Utility

/-! ### Forms -/

/-- A form in which units of octets are written. -/
structure DumpForm where
  /-- The number of octets in a unit. -/
  size : Nat
  /-- The columns that a unit takes. -/
  width : Nat
  /-- How a unit is written; its lowest octet comes first. -/
  write : Bytes → String
  /-- Whether the octets that can be seen stand at the end of the line. -/
  showsText : Bool := false

/-- The number that octets make, the lowest first. -/
def littleValue (bytes : Bytes) : Nat := bytes.foldr (fun b n => 256 * n + b.toNat) 0

/-- An octet as a character, or as it is written in programs. -/
def characterForm (b : UInt8) : String :=
  if b = 0 then "\\0"
  else
    match Quoting.escapeLetter? (Char.ofUInt8 b) with
    | some letter => String.ofList ['\\', letter]
    | none => if isPrintedByte b then textOf [b] else zeroPadded 8 3 b.toNat

/-- The names of the octets that control a device. -/
def controlNames : List String :=
  ["nul", "soh", "stx", "etx", "eot", "enq", "ack", "bel", "bs", "ht", "nl", "vt", "ff", "cr", "so",
    "si", "dle", "dc1", "dc2", "dc3", "dc4", "nak", "syn", "etb", "can", "em", "sub", "esc", "fs",
    "gs", "rs", "us", "sp"]

/-- An octet by its name; the highest bit does not count. -/
def namedForm (b : UInt8) : String :=
  let low := b.toNat % 128
  if low = 127 then "del" else (controlNames[low]?).getD (String.singleton (Char.ofNat low))

namespace DumpForm

/-- The number of digits that the numbers below a bound have. -/
def digitCount (base size : Nat) : Nat := (Nat.toDigits base (Nat.pow 256 size - 1)).length

/-- The form of whole numbers of so many octets. -/
def ofNumber (kind : Char) (size : Nat) : DumpForm :=
  match kind with
  | 'd' =>
    { size
      width := (toString (Nat.pow 256 size / 2)).length + 1
      write := fun unit => toString (Int.bmod (littleValue unit) (Nat.pow 256 size)) }
  | 'u' =>
    { size, width := digitCount 10 size, write := fun unit => toString (littleValue unit) }
  | 'o' =>
    { size, width := digitCount 8 size
      write := fun unit => zeroPadded 8 (digitCount 8 size) (littleValue unit) }
  | _ =>
    { size, width := digitCount 16 size
      write := fun unit => zeroPadded 16 (digitCount 16 size) (littleValue unit) }

/-- The number of octets that a letter stands for. -/
def letterSize? (c : Char) : Option Nat :=
  match c with
  | 'C' => some 1
  | 'S' => some 2
  | 'I' => some 4
  | 'L' => some 8
  | _ => none

/-- The size of a unit after the letter of a form, and what stands after it. -/
def unitSize (whole : String) (cs : List Char) : Except String (Nat × List Char) :=
  match cs.head?.bind letterSize? with
  | some size => .ok (size, cs.tail)
  | none =>
    let digits := cs.takeWhile Char.isDigit
    let n := Amount.ofDigits digits
    let invalid := "invalid type string " ++ Quoting.text whole
    if digits.isEmpty then .ok (4, cs)
    else if 2147483647 < n then .error invalid
    else if !([1, 2, 4, 8].contains n) then
      .error (invalid ++ ";\nthis system doesn't provide a " ++ toString n ++ "-byte integral type")
    else .ok (n, cs.drop digits.length)

/-- The forms that a text asks for. -/
def readAll (whole : String) : (fuel : Nat) → List Char → Except String (List DumpForm)
  | 0, _ => .ok []
  | _ + 1, [] => .ok []
  | fuel + 1, kind :: cs => do
    let (form, rest) ←
      if "doux".toList.contains kind then do
        let (size, rest) ← unitSize whole cs
        pure (ofNumber kind size, rest)
      else if kind = 'a' then pure ({ size := 1, width := 3, write := fun u => namedForm (u.headD 0) }, cs)
      else if kind = 'c' then
        pure ({ size := 1, width := 3, write := fun u => characterForm (u.headD 0) }, cs)
      else
        .error ("invalid character '" ++ String.singleton kind ++ "' in type string "
          ++ Quoting.text whole)
    match rest with
    | 'z' :: rest => return { form with showsText := true } :: (← readAll whole fuel rest)
    | rest => return form :: (← readAll whole fuel rest)

/-- The forms that a text asks for. -/
def read (text : String) : Except String (List DumpForm) :=
  readAll text (text.length + 1) text.toList

end DumpForm

/-! ### Lines -/

/-- How octets are written in lines. -/
structure DumpLayout where
  forms : List DumpForm
  /-- The number of octets in a block. -/
  width : Nat
  /-- The letter of the base of places. -/
  base : Char := 'o'
  /-- Whether blocks like the one before them are written, too. -/
  all : Bool := false
  /-- Whether the highest octet of a unit comes first. -/
  big : Bool := false

namespace DumpLayout

variable (y : DumpLayout)

/-- A place in the input. -/
def address (n : Nat) : String :=
  match y.base with
  | 'n' => ""
  | 'x' => zeroPadded 16 6 n
  | 'd' => zeroPadded 10 7 n
  | _ => zeroPadded 8 7 n

/-- The columns of a line after the place. -/
def columns : Nat :=
  y.forms.foldl (fun n f => max n ((f.width + 1) * (y.width / f.size))) 0

/-- The columns that are left over in a form, and are spread over its units. -/
def spare (f : DumpForm) : Nat := y.columns - f.width * (y.width / f.size)

/-- The units of a block, each with the columns in which it stands. -/
def units (f : DumpForm) (block : Bytes) : String :=
  let fields := y.width / f.size
  let blank := (y.width - block.length) / f.size
  let padded := block ++ List.replicate f.size 0
  String.join ((List.range (fields - blank)).map fun i =>
    let before := y.spare f * (fields - i) / fields
    let after := y.spare f * (fields - i - 1) / fields
    let unit := (padded.drop (i * f.size)).take f.size
    rightAligned (before - after + f.width) (f.write (if y.big then unit.reverse else unit)))

/-- The octets of a block that can be seen, after the columns that are left free. -/
def trailer (f : DumpForm) (block : Bytes) : String :=
  let fields := y.width / f.size
  let blank := (y.width - block.length) / f.size
  let free := blank * f.width + y.spare f * blank / fields
  let shown := block.map fun b => if isPrintedByte b then b else 0x2E
  rightAligned free "" ++ "  >" ++ textOf shown ++ "<"

/-- The lines of a block. -/
def lines (place : Nat) (block : Bytes) : List String :=
  let start := y.address place
  y.forms.zipIdx.map fun (f, i) =>
    (if i = 0 then start else rightAligned start.length "") ++ y.units f block
      ++ (if f.showsText then y.trailer f block else "")

end DumpLayout

/-- How far a dump has come. -/
structure Dump where
  /-- The place of the next block. -/
  place : Nat := 0
  /-- Octets that do not make up a block. -/
  waiting : Bytes := []
  before : Option Bytes := none
  /-- Whether blocks have been left out since the last line. -/
  marked : Bool := false

namespace Dump

/-- The lines of a block, and the dump after it. -/
def putBlock (y : DumpLayout) (d : Dump) (block : Bytes) : List String × Dump :=
  let next := { d with place := d.place + block.length, before := some block }
  if !y.all && block.length == y.width && d.before == some block then
    (if d.marked then [] else ["*"], { next with marked := true })
  else (y.lines d.place block, { next with marked := false })

/-- The lines of the blocks that octets complete, and the dump after them. -/
def putBlocks (y : DumpLayout) : (fuel : Nat) → Dump → Bytes → List String × Dump
  | 0, d, _ => ([], d)
  | fuel + 1, d, bytes =>
    if bytes.length < y.width ∨ y.width = 0 then ([], { d with waiting := bytes })
    else
      let (lines, d) := d.putBlock y (bytes.take y.width)
      let (more, d) := putBlocks y fuel d (bytes.drop y.width)
      (lines ++ more, d)

/-- Take octets in. -/
def add (y : DumpLayout) (d : Dump) (bytes : Bytes) : List String × Dump :=
  let all := d.waiting ++ bytes
  d.putBlocks y (all.length + 1) all

/-- The last lines. -/
def finish (y : DumpLayout) (d : Dump) : List String :=
  let (lines, d) := if d.waiting.isEmpty then ([], d) else d.putBlock y d.waiting
  lines ++ (if y.base = 'n' then [] else [y.address d.place])

end Dump

/-! ### The program -/

/-- The forms that options with letters of their own ask for. -/
def letterForm? (letter : Char) : Option String :=
  match letter with
  | 'a' => some "a"
  | 'b' => some "o1"
  | 'c' => some "c"
  | 'D' => some "u4"
  | 'd' => some "u2"
  | 'H' | 'X' => some "x4"
  | 'h' | 'x' => some "x2"
  | 'i' => some "dI"
  | 'I' | 'L' | 'l' => some "dL"
  | 'O' => some "o4"
  | 'B' | 'o' => some "o2"
  | 's' => some "d2"
  | _ => none

/-- The options of `od`. -/
def odOptions : OptionTable where
  flags := "aBbcDdHhIiLlOosvXx\x11"
  valued := "AjNtE"
  optional := "wS"
  long := longNames ("j=skip-bytes A=address-radix N=read-bytes t=format v=output-duplicates S=strings "
    ++ "\x11=traditional w=width E=endian")

/-- A text that starts with a number in the base that its first digits tell, with a decimal number
instead. -/
def inDecimal (text : String) : String :=
  let convert (base : Nat) (digits rest : List Char) : String :=
    let value (c : Char) : Nat :=
      if c.isDigit then c.toNat - '0'.toNat else c.toLower.toNat - 'a'.toNat + 10
    toString (digits.foldl (fun n c => base * n + value c) 0) ++ String.ofList rest
  let isHex (c : Char) : Bool := c.isDigit || "abcdefABCDEF".toList.contains c
  let hexadecimal (text : String) (cs : List Char) : String :=
    let digits := cs.takeWhile isHex
    if digits.isEmpty then text else convert 16 digits (cs.drop digits.length)
  match text.toList with
  | '0' :: 'x' :: cs => hexadecimal text cs
  | '0' :: 'X' :: cs => hexadecimal text cs
  | '0' :: cs =>
    let digits := cs.takeWhile fun c => '0' ≤ c && c ≤ '7'
    convert 8 digits (cs.drop digits.length)
  | _ => text

/-- The amount that an option gives. -/
def dumpAmount (letter : Char) (known : List Char) (value : String) : Task Nat := do
  let option := "-" ++ String.singleton letter
  match Amount.read known (if letter = 'w' then value else inDecimal value) with
  | .exactly n => return n
  | .tooLarge => Task.fail (option ++ " argument " ++ Quoting.text value ++ " too large")
  | .trailed _ => Task.fail ("invalid suffix in " ++ option ++ " argument " ++ Quoting.text value)
  | .nothing => Task.fail ("invalid " ++ option ++ " argument " ++ Quoting.text value)

/-- What is asked of a dump. -/
structure DumpRequest where
  forms : List DumpForm := []
  base : Char := 'o'
  skip : Nat := 0
  limit : Option Nat := none
  width : Option Nat := none
  big : Bool := false

/-- Take in an option. -/
def DumpRequest.with (r : DumpRequest) (letter : Char) (value : String) : Task DumpRequest := do
  let addForms (text : String) : Task DumpRequest :=
    match DumpForm.read text with
    | .ok forms => pure { r with forms := r.forms ++ forms }
    | .error text => Task.fail text
  match letter with
  | 't' => addForms value
  | 'A' =>
    let c := value.toList.headD '\x00'
    if "doxn".toList.contains c then return { r with base := c }
    else
      Task.fail ("invalid output address radix '" ++ String.singleton c
        ++ "'; it must be one character from [doxn]")
  | 'j' => return { r with skip := ← dumpAmount 'j' "bEGKkMmPQRTYZ0".toList value }
  | 'N' => return { r with limit := some (← dumpAmount 'N' "bEGKkMmPQRTYZ0".toList value) }
  | 'w' => return { r with width := some (← if value = "" then pure 32 else dumpAmount 'w' [] value) }
  | 'E' => return { r with big := (← Task.wordLetter "--endian" [["little"], ["big"]] ['l', 'b'] value) == 'b' }
  | letter =>
    match letterForm? letter with
    | some text => addForms text
    | none => return r

/-- The place at which an operand asks to start, if it is one that does. -/
def spelledPlace? (text : String) : Option Nat :=
  let signed := text.toList.head? == some '+'
  let cs := if signed then text.toList.tail else text.toList
  if cs.contains '.' ∨ cs.isEmpty then none
  else
    match Amount.read ['B', 'b'] (inDecimal (String.ofList (if cs.head? = some '0' then cs else '0' :: cs))) with
    | .exactly n => some n
    | _ => none

/-- The operands without one that asks for a place to start, and the place. -/
def placedOperands (operands : List String) : List String × Option Nat :=
  let isPlace (digits : Bool) (text : String) : Bool :=
    text.toList.head?.any fun c => c == '+' || (digits && c.isDigit)
  match operands with
  | [text] =>
    match spelledPlace? text with
    | some n => if isPlace false text then ([], some n) else (operands, none)
    | none => (operands, none)
  | [name, text] =>
    match spelledPlace? text with
    | some n => if isPlace true text then ([name], some n) else (operands, none)
    | none => (operands, none)
  | operands => (operands, none)

/-- The layout that a request leads to; a width that makes no sense is remarked on where there is anything
to write. -/
def DumpRequest.layout (r : DumpRequest) (all speaks : Bool) : Task DumpLayout := do
  let forms := if r.forms.isEmpty then [DumpForm.ofNumber 'o' 2] else r.forms
  let least := forms.foldl (fun n f => max n f.size) 1
  let layout (width : Nat) : DumpLayout := { forms, width, base := r.base, all, big := r.big }
  match r.width with
  | none => return layout (least * (16 / least))
  | some w =>
    if w ≠ 0 ∧ w % least = 0 then return layout w
    else
      if speaks then Task.remark ("warning: invalid width " ++ toString w ++ "; using " ++ toString least ++ " instead")
      return layout least

/-- The name under which an operand is reported. -/
def dumpLabel (name : String) : String :=
  Quoting.name (if name = "-" then "standard input" else name)

/-- Octets in digits. -/
def od : Utility := fun arguments => do
  let a := odOptions.read true (arguments.length + 1) arguments
  let mut r : DumpRequest := {}
  for (letter, value) in a.options do r ← r.with letter value
  match a.fault with
  | some fault => Task.misuse fault.message
  | none => pure ()
  let (operands, place?) :=
    if a.hasAny "AjNtvw" then (a.operands, none) else placedOperands a.operands
  let files := (← get).files
  let present := operands.isEmpty || operands.any fun name =>
    name == "-" || (files.find (State.fileName name)).isOk
  let layout ← r.layout (a.has 'v') present
  let start := place?.getD r.skip
  let mut skip := start
  let mut wanted := r.limit
  let mut opened := false
  let mut dump : Dump := { place := start }
  for name in (if operands.isEmpty then ["-"] else operands) do
    if wanted != some 0 || !opened then
      match ← Task.openOperand name with
      | .error fault => Task.complain (dumpLabel name ++ ": " ++ faultText fault)
      | .ok number =>
        opened := true
        match (← get).toMachine.leftOf number (wanted.map (· + skip)) with
        | .error fault =>
          Task.complain (dumpLabel name ++ ": " ++ faultText fault)
          skip := 0
        | .ok bytes =>
          let skipped := bytes.drop skip
          let used := match wanted with
            | some n => skipped.take n
            | none => skipped
          let target := (← get).openings[number]?.map Opening.target
          stepOver number ((if skip < bytes.length then skip else bytes.length) + used.length)
          skip := if target == some (.node .sink) then 0 else skip - bytes.length
          wanted := wanted.map (· - used.length)
          let (lines, next) := dump.add layout used
          dump := next
          if skip = 0 then for line in lines do Task.putLine line
  if skip ≠ 0 && opened then Task.fail "cannot skip past end of combined input"
  if opened then for line in dump.finish layout do Task.putLine line

end ArtifactPipeline.Shell.Utility
