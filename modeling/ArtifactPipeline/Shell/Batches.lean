import ArtifactPipeline.Shell.Setting

/-!
# Words of an input as arguments

The program `xargs` carries a command out on words that it reads, time after time: on so many of them, on
those of so many lines, or on one of them in the place of a text.

* `ItemReader.read` takes the words of an input apart;
* `Batches.read` reads the arguments of the program;
* `Batches.lists` are the commands that are carried out.
-/

namespace ArtifactPipeline.Shell

/-! ### Words of an input -/

/-- Items of an input, and the mark that is missing at its end. -/
structure Items where
  /-- The items, line by line. -/
  lines : List (List String) := []
  openMark : Option Char := none

/-- What stands between the items of an input. -/
inductive ItemKind where
  /-- Blanks and the ends of lines; marks and backslashes take away what they mean. -/
  | words
  /-- Only the ends of lines. -/
  | lines
deriving DecidableEq

/-- Reading items. -/
structure ItemReader where
  /-- The characters of the item so far, the last one first. -/
  current : Option (List Char) := none
  /-- The items of the line so far, the last one first. -/
  items : List String := []
  /-- The lines so far, the last one first. -/
  lines : List (List String) := []
  mark : Option Char := none
  escaped : Bool := false
  /-- Whether the last character was a blank. -/
  afterBlank : Bool := false

namespace ItemReader

/-- The reader after the end of an item. -/
def endItem (r : ItemReader) : ItemReader :=
  match r.current with
  | some cs => { r with current := none, items := String.ofList cs.reverse :: r.items }
  | none => r

/-- The reader after the end of a line. -/
def endLine (r : ItemReader) : ItemReader :=
  let r := r.endItem
  if r.items.isEmpty then r else { r with items := [], lines := r.items.reverse :: r.lines }

/-- The reader with one more character in the item. -/
def push (r : ItemReader) (c : Char) : ItemReader :=
  { r with current := some (c :: r.current.getD []), afterBlank := false, escaped := false }

/-- Whether a line that ends here goes on with the next one. -/
def goesOn (kind : ItemKind) (r : ItemReader) : Bool := kind == .words && r.afterBlank

/-- Read characters. A mark that is open at the end of a line has no end. -/
def read (kind : ItemKind) : ItemReader → List Char → Items
  | r, [] =>
    if r.mark.isSome then ⟨r.lines.reverse ++ [r.items.reverse], r.mark⟩
    else ⟨(r.endLine).lines.reverse, none⟩
  | r, c :: rest =>
    if r.escaped then read kind (r.push c) rest
    else
      match r.mark with
      | some m =>
        if c = '\n' then ⟨r.lines.reverse ++ [r.items.reverse], some m⟩
        else if c = m then read kind { r with mark := none } rest
        else read kind (r.push c) rest
      | none =>
        if c = '\n' then
          if r.goesOn kind && !r.items.isEmpty then read kind { r.endItem with afterBlank := true } rest
          else read kind { r.endLine with afterBlank := false } rest
        else if c = ' ' ∨ c = '\t' then
          match kind, r.current with
          | .lines, none => read kind r rest
          | .lines, some _ => read kind (r.push c) rest
          | .words, _ => read kind { r.endItem with afterBlank := true } rest
        else if c = '\x27' ∨ c = '\x22' then
          read kind { r with mark := some c, current := some (r.current.getD []), afterBlank := false } rest
        else if c = '\\' then
          read kind { r with escaped := true, current := some (r.current.getD []) } rest
        else read kind (r.push c) rest

end ItemReader

/-- The report on a mark that is missing. -/
def unmatched (m : Char) : String :=
  "unmatched " ++ (if m = '\x27' then "single" else "double")
    ++ " quote; by default quotes are special to xargs unless you use the -0 option"

/-! ### Commands on items -/

/-- What `xargs` is asked for. -/
structure Batches where
  /-- The most items of a command. -/
  items : Option Nat := none
  /-- The most lines of a command. -/
  lines : Option Nat := none
  /-- The most octets of a command. -/
  size : Option Nat := none
  /-- The text in the place of which an item is put. -/
  place : Option String := none
  /-- The character between items. -/
  delimiter : Option Char := none
  /-- The item that ends the input. -/
  ending : Option String := none
  /-- The file in the place of the input. -/
  file : Option String := none
  shows : Bool := false
  skipsEmpty : Bool := false
  /-- Whether a command that is too long is a fault. -/
  isStrict : Bool := false
  /-- The variable with the number of the process. -/
  slot : Option String := none
  /-- The reports so far, the latest first. -/
  notes : List String := []
  command : List String := []

namespace Batches

/-- The value of a digit in base sixteen. -/
def hexDigit? (c : Char) : Option Nat :=
  let lower := c.toLower
  if c.isDigit then some (c.toNat - '0'.toNat)
  else if 'a' ≤ lower ∧ lower ≤ 'f' then some (lower.toNat - 'a'.toNat + 10)
  else none

/-- The digits of a base at the start of a text, as a number, and what follows them. -/
def leadingNumber (base : Nat) (value : Nat) : List Char → Nat × List Char
  | [] => (value, [])
  | c :: rest =>
    match (hexDigit? c).filter (· < base) with
    | some d => leadingNumber base (base * value + d) rest
    | none => (value, c :: rest)

/-- The characters that letters stand for after a backslash. -/
def escapedLetters : List (Char × Char) :=
  [('n', '\n'), ('t', '\t'), ('\\', '\\'), ('r', '\r'), ('a', '\x07'), ('b', '\x08'),
    ('f', '\x0c'), ('v', '\x0b')]

/-- A fault after which no help is pointed to. -/
def fault {α : Type} (text : String) : Except Misuse α := .error { text, hints := false }

/-- The character between items that a text denotes. -/
def delimiterOf (text : String) : Except Misuse Char :=
  let start := "Invalid escape sequence " ++ text ++ " in input delimiter specification"
  let number (base : Nat) (digits : List Char) : Except Misuse Char :=
    let (n, rest) := leadingNumber base 0 digits
    if 255 < n then
      fault (start ++ "; character values must not exceed " ++ (if base = 16 then "ff" else "377") ++ ".")
    else if !rest.isEmpty then
      fault (start ++ "; trailing characters " ++ String.ofList rest ++ " not recognised.")
    else .ok (Char.ofNat n)
  match text.toList with
  | [c] => .ok c
  | '\\' :: 'x' :: digits => number 16 digits
  | '\\' :: c :: digits =>
    match escapedLetters.lookup c with
    | some e => .ok e
    | none => if c.isDigit then number 8 (c :: digits) else fault (start ++ ".")
  | _ =>
    fault ("Invalid input delimiter specification " ++ text ++ ": the delimiter must be either a "
      ++ "single character or an escape sequence starting with \\.")

/-- The number that is the value of an option, with its sign. -/
def number (letter : Char) (text : String) : Except Misuse Int :=
  let (negative, digits) := match text.toList.dropWhile fun c => c == ' ' || ('\t' ≤ c && c ≤ '\r') with
    | '-' :: digits => (true, digits)
    | '+' :: digits => (false, digits)
    | digits => (false, digits)
  let (n, rest) := leadingNumber 10 0 digits
  if digits.head?.any Char.isDigit && rest.isEmpty then .ok (if negative then -n else n)
  else .error { text := "invalid number \x22" ++ text ++ "\x22 for -" ++ String.singleton letter ++ " option" }

/-- The report on a number that is too small. -/
def tooSmall (letter : Char) (least : Nat) (text : String) : String :=
  "value " ++ text ++ " for -" ++ String.singleton letter ++ " option should be >= " ++ toString least

/-- A number that is at least another one, as the value of an option. -/
def numberFrom (least : Nat) (letter : Char) (text : String) : Except Misuse Nat := do
  let n ← number letter text
  if n < least then throw { text := tooSmall letter least text } else return n.toNat

/-- Add a report. -/
def note (b : Batches) (text : String) : Batches := { b with notes := text :: b.notes }

/-- Report that an option takes away what another one says. -/
def excludes (b : Batches) (earlier option : String) : Batches :=
  b.note ("warning: options --" ++ earlier ++ " and " ++ option
    ++ " are mutually exclusive, ignoring previous --" ++ earlier ++ " value")

/-- Without a number of items. -/
def withoutItems (b : Batches) (option : String) : Batches :=
  if b.items.isSome then { b.excludes "max-args" option with items := none } else b

/-- Without a number of lines. -/
def withoutLines (b : Batches) (option : String) : Batches :=
  if b.lines.isSome then { b.excludes "max-lines" option with lines := none } else b

/-- Without a text for items. -/
def withoutPlace (b : Batches) (option : String) : Batches :=
  if b.place.isSome then { b.excludes "replace" option with place := none } else b

/-- Put items in the place of a text. -/
def replacing (b : Batches) (text : String) : Batches :=
  let option := "--replace/-I/-i"
  { (b.withoutItems option).withoutLines option with place := some text }

/-- Take in an option. -/
def option (b : Batches) (letter : Char) (value : String) : Except Misuse Batches :=
  let lines (option text : String) : Except Misuse Batches := do
    let n ← numberFrom 1 letter text
    return { (b.withoutItems option).withoutPlace option with lines := some n }
  match letter with
  | '0' => .ok { b with delimiter := some '\x00' }
  | 'd' => do return { b with delimiter := some (← delimiterOf value) }
  | 'n' => do
    let n ← numberFrom 1 'n' value
    let b := b.withoutLines "--max-args/-n"
    if n = 1 && b.place.isSome then return { b with items := none }
    else return { b.withoutPlace "--max-args/-n" with items := some n }
  | 'L' => lines "-L" value
  | 'l' => lines "--max-lines/-l" (if value = "" then "1" else value)
  | 's' => do
    let n ← number 's' value
    if n < 1 then return { b.note (tooSmall 's' 1 value) with size := some 1 }
    else return { b with size := some n.toNat }
  | 'P' => (numberFrom 0 'P' value).map fun _ => b
  | 'I' => .ok (b.replacing value)
  | 'i' => .ok (b.replacing (if value = "" then "{}" else value))
  | 'E' | 'e' => .ok { b with ending := if value.isEmpty then none else some value }
  | 'a' => .ok { b with file := some value }
  | 't' => .ok { b with shows := true }
  | 'r' => .ok { b with skipsEmpty := true }
  | 'x' => .ok { b with isStrict := true }
  | 'v' => .ok { b with slot := some value }
  | _ => .ok b

/-- The options of `xargs`. -/
def options : OptionTable where
  flags := "0rtxpo"
  valued := "nIdLPsEav"
  optional := "iel"
  long := longNames ("0=null a=arg-file d=delimiter o=open-tty e=eof i=replace l=max-lines n=max-args "
    ++ "p=interactive r=no-run-if-empty s=max-chars t=verbose x=exit P=max-procs v=process-slot-var")

/-- Read the arguments of `xargs`. -/
def read (arguments : List String) : Except Misuse Batches :=
  match (options.read false (arguments.length + 1) arguments).checked with
  | .error fault => .error fault.misuse
  | .ok a => do
    let b ← a.options.foldlM (fun (b : Batches) o => b.option o.1 o.2) ({} : Batches)
    let b := if b.delimiter.isSome && b.ending.isSome then
        { b.note "warning: the -E option has no effect if -0 or -d is used.\n" with ending := none }
      else b
    return { b with command := if a.operands.isEmpty then ["echo"] else a.operands }

/-- The most octets of a command, by what the environment takes away from them. -/
def largest (environment : Environment) : Nat :=
  2095104 - environment.foldl (fun n b => n + b.1.length + b.2.length + 2) 0

/-- With no more octets in a command than there may be. -/
def bounded (b : Batches) (environment : Environment) : Batches :=
  let most := largest environment
  match b.size with
  | some n =>
    if most < n then
      { b.note ("value " ++ toString n ++ " for -s option should be <= " ++ toString most) with
        size := some most }
    else b
  | none => b

/-- Parts of so many members. -/
def partsOf {α : Type} (size : Nat) : (fuel : Nat) → List α → List (List α)
  | 0, _ => []
  | fuel + 1, as => if as.isEmpty then [] else as.take size :: partsOf size fuel (as.drop size)

/-- Parts whose members have so many octets together, and at least one member. -/
def sizedParts (room : Nat) : (current : List String) → (used : Nat) → List String → List (List String)
  | current, _, [] => if current.isEmpty then [] else [current.reverse]
  | current, used, a :: rest =>
    let cost := a.length + 1
    if current.isEmpty ∨ used + cost ≤ room then sizedParts room (a :: current) (used + cost) rest
    else current.reverse :: sizedParts room [a] cost rest

/-- The octets of the command itself. -/
def own (b : Batches) : Nat := b.command.foldl (fun n word => n + word.length + 1) 0

/-- Parts by the number of items and by their octets. -/
def divided (b : Batches) (items : List String) : List (List String) :=
  let parts := match b.items with
    | some n => partsOf n (items.length + 1) items
    | none => if items.isEmpty then [] else [items]
  match b.size with
  | some size => parts.flatMap (sizedParts (size - b.own) [] 0)
  | none => parts

/-- The items of an input. -/
def itemsOf (b : Batches) (text : String) : Items :=
  match b.delimiter with
  | some c =>
    let parts := (Text.splitOn c text.toList).map String.ofList
    let parts := if parts.getLast? = some "" then parts.dropLast else parts
    { lines := parts.map ([·]) }
  | none => ItemReader.read (if b.place.isSome then .lines else .words) {} text.toList

/-- An item without what follows the octet zero, which ends it. -/
def plainItem (item : String) : String := String.ofList (item.toList.takeWhile (· != '\x00'))

/-- The items up to the first one that is too long, line by line, and whether there is such an item. -/
def fitting (b : Batches) (lines : List (List String)) : List (List String) × Bool :=
  match b.size with
  | none => (lines, false)
  | some size =>
    let isLong (item : String) : Bool := size < b.own + 1 + item.length
    let whole := lines.takeWhile fun items => !items.any isLong
    match lines.drop whole.length with
    | [] => (whole, false)
    | items :: _ =>
      let kept := items.takeWhile fun item => !isLong item
      (if kept.isEmpty then whole else whole ++ [kept], true)

/-- Why the command cannot be carried out on items at all. -/
def hindrance? (b : Batches) : Option String :=
  if b.size.any (· < b.own) then
    some "cannot fit single argument within argument list size limit"
  else none

/-- The lists of arguments for which the command is carried out, and the fault after them. -/
def lists (b : Batches) (text : String) : List (List String) × Option String :=
  let found := b.itemsOf text
  let lines := found.lines.map fun items => items.map plainItem
  let lines := match b.ending with
    | some last => if lines.flatten.contains last then [lines.flatten.takeWhile (· != last)] else lines
    | none => lines
  let (lines, tooLong) := b.fitting lines
  let fault := if tooLong then some "argument line too long" else found.openMark.map unmatched
  match b.place with
  | some mark =>
    if mark.isEmpty then ([], some "command too long")
    else
      (lines.flatten.map fun item => b.command.head?.toList ++ b.command.tail.map fun word =>
        word.replace mark item, fault)
  | none =>
    let parts := match b.lines with
      | some n => (partsOf n (lines.length + 1) lines).map List.flatten
      | none => b.divided lines.flatten
    let parts := if parts.isEmpty ∧ !b.skipsEmpty ∧ fault.isNone then [[]] else parts
    (parts.map (b.command ++ ·), fault)

end Batches

end ArtifactPipeline.Shell
