import ArtifactPipeline.Shell.Format
import ArtifactPipeline.Shell.Pattern
import ArtifactPipeline.Shell.Utility.Attributes
import ArtifactPipeline.Shell.Utility.Compare
import ArtifactPipeline.Shell.Utility.Links

/-!
# Lists of files

The program `ls` lists what directories hold, one name in a line, in columns, or with what is known of each
file. Names are ordered by their octets unless something else is asked for.

* `Entry` is a name with what it leads to, and `ListRequest.entryText` shows one;
* `columnText` puts names into columns;
* `ls` lists directories, and `du` measures them.
-/

namespace ArtifactPipeline.Shell.Utility

/-- A name in a list, and what it leads to. -/
structure Entry where
  name : String
  location : Location
  node : Node

/-- How names are laid out. -/
inductive ListForm where
  | lines
  /-- In columns, the names one below the other. -/
  | columns
  /-- In columns, the names side by side. -/
  | rows
  | commas
  | long
deriving Repr, DecidableEq

/-- How names are ordered. -/
inductive ListOrder where
  | name
  | size
  | time
  | version
  | ending
  | none
deriving Repr, DecidableEq

/-- Which links are followed. -/
inductive LinkUse where
  | never
  /-- Operands that lead to directories. -/
  | toDirectories
  | operands
  | always
deriving Repr, DecidableEq

/-- What is asked of a list. -/
structure ListRequest where
  arguments : Arguments
  form : ListForm := .lines
  order : ListOrder := .name
  width : Nat := 80
  /-- Whether names that start with a dot are listed. -/
  hidden : Bool := false
  /-- Whether the directory itself and the one above are listed. -/
  selves : Bool := false
  links : LinkUse := .toDirectories

/-! ### Names -/

/-- A name with its characters in a form that can be seen. -/
def seenName (a : Arguments) (name : String) : String :=
  match a.last? "QbNq" with
  | some ('Q', _) =>
    "\x22" ++ String.ofList (name.toList.flatMap fun c =>
      if c = '\x22' ∨ c = '\\' then ['\\', c]
      else if Quoting.isShown c then [c] else Quoting.escapedChar c) ++ "\x22"
  | some ('b', _) =>
    String.ofList (name.toList.flatMap fun c =>
      if c = ' ' ∨ c = '\\' then ['\\', c]
      else if Quoting.isShown c then [c] else Quoting.escapedChar c)
  | some ('q', _) => String.ofList (name.toList.map fun c => if Quoting.isShown c then c else '?')
  | _ => name

namespace ListRequest

variable (r : ListRequest)

/-- The sign for the kind of an entry. -/
def sign (files : FileSystem) (e : Entry) : String :=
  let a := r.arguments
  match e.node with
  | .directory => if a.hasAny "pFY" then "/" else ""
  | .link _ => if a.hasAny "FY" then "@" else ""
  | .file id => if a.has 'F' && files.isExecutable id then "*" else ""
  | _ => ""

end ListRequest

/-- The number of kilobytes that a node takes. -/
def kilobytes (files : FileSystem) : Node → Nat
  | .directory => 4
  | .file id => (files.sizeOf id + 4095) / 4096 * 4
  | _ => 0

/-- The number of octets of a node. -/
def nodeSize (files : FileSystem) : Node → Nat
  | .directory => 4096
  | .file id => files.sizeOf id
  | .link target => target.utf8ByteSize
  | _ => 0

/-- A number of octets with at most two digits before a letter for the unit; it is rounded up. -/
def humanSize (n : Nat) : String :=
  let rec go : (fuel : Nat) → Nat → Nat → List String → String
    | 0, n, _, _ => toString n
    | fuel + 1, n, unit, letters =>
      match letters with
      | [] => toString n
      | letter :: rest =>
        if n < unit * 1024 ∨ rest.isEmpty then
          let tenths := (n * 10 + unit - 1) / unit
          if letter = "" then toString n
          else if tenths < 100 then toString (tenths / 10) ++ "." ++ toString (tenths % 10) ++ letter
          else toString ((n + unit - 1) / unit) ++ letter
        else go fuel n (unit * 1024) rest
  go 10 n 1 ["", "K", "M", "G", "T", "P", "E"]

/-- The number of names of a node. -/
def nameCount (files : FileSystem) (l : Location) (n : Node) : Nat :=
  match n with
  | .directory => 2 + ((files.list l).filter fun e => e.2 == .directory).length
  | .file _ => (files.nodes.filter fun e => e.2 == n).length
  | _ => 1

/-- The letter for the kind of a node. -/
def kindLetter : Node → String
  | .directory => "d"
  | .link _ => "l"
  | .file _ => "-"
  | _ => "c"

/-- The letters for what is known of who may use a node. -/
def modeLetters (files : FileSystem) (l : Location) (n : Node) : String :=
  kindLetter n ++ Permission.letters (modeAt files l n)

/-- The moment of the last change of a file, as it is shown: a text without signs for parts of a moment is
shown as it is. -/
def shownMoment (a : Arguments) : String :=
  match ((a.value? '\x16').getD "").toList with
  | '+' :: text => if text.contains '%' then "Jan  1 00:00" else String.ofList text
  | _ => "Jan  1 00:00"

/-- What a long line says of an entry before its name, in columns. -/
def longCells (r : ListRequest) (files : FileSystem) (e : Entry) : List (Bool × String) :=
  let a := r.arguments
  let size := match e.node with
    | .sink => "1, 3"
    | .zeros => "1, 5"
    | .full => "1, 7"
    | n => if a.has 'h' then humanSize (nodeSize files n) else toString (nodeSize files n)
  let owner := if a.has 'n' then "0" else "root"
  (if a.has 'i' then [(true, toString (files.nodes.length + e.location.length))] else [])
    ++ (if a.has 's' then [(true, toString (kilobytes files e.node))] else [])
    ++ [(false, modeLetters files e.location e.node),
      (true, toString (nameCount files e.location e.node))]
    ++ (if a.has 'g' then [] else [(false, owner)])
    ++ (if a.hasAny "oG" then [] else [(false, owner)])
    ++ (if a.has '\x18' then [(false, owner)] else [])
    ++ (if a.has 'Z' then [(false, "?")] else [])
    ++ [(true, size), (false, shownMoment a)]

/-- What stands before a name in a list that is not long. -/
def shortCells (r : ListRequest) (files : FileSystem) (e : Entry) : List (Bool × String) :=
  let a := r.arguments
  (if a.has 'i' then [(true, toString (files.nodes.length + e.location.length))] else [])
    ++ (if a.has 's' then
      let n := kilobytes files e.node
      [(true, if a.has 'h' then humanSize (n * 1024) else toString n)] else [])
    ++ (if a.has 'Z' then [(false, "?")] else [])

/-- Rows of cells, each as wide as the widest cell below or above it. -/
def alignedRows (rows : List (List (Bool × String))) : List String :=
  let widths := rows.foldl (fun widths row =>
    (List.range (max widths.length row.length)).map fun i =>
      max (widths.getD i 0) ((row[i]?).elim 0 fun cell => cell.2.length)) []
  rows.map fun row =>
    String.join ((row.zip widths).map fun ((atEnd, text), width) =>
      (if atEnd then rightAligned width text else leftAligned width text) ++ " ")

/-- The name of an entry with its sign, and the text of a link in a long list. -/
def nameText (r : ListRequest) (files : FileSystem) (e : Entry) : String :=
  let shown := seenName r.arguments e.name
  match r.form, e.node with
  | .long, .link target => shown ++ " -> " ++ seenName r.arguments (Octets.ofText target)
  | _, _ => shown ++ r.sign files e

/-! ### Columns -/

/-- The widths of columns, if names fit side by side in so many of them. Names of one character always
fit. -/
def columnWidths? (byColumns : Bool) (width count : Nat) (lengths : List Nat) : Option (List Nat) :=
  let rows := (lengths.length + count - 1) / count
  let place (i : Nat) : Nat := if byColumns then i / rows else i % count
  let widths := lengths.zipIdx.foldl (fun widths (length, i) =>
    widths.modify (place i) fun w =>
      max w (length + if place i + 1 = count then 0 else 2)) (List.replicate count 3)
  if widths.all (· == 3) || widths.foldl (· + ·) 0 < width then some widths else none

/-- The blanks and tabs that lead from one column to another. -/
def indentation : (fuel : Nat) → (start goal : Nat) → List Char
  | 0, _, _ => []
  | fuel + 1, start, goal =>
    if goal ≤ start then []
    else if (start + 1) / 8 < goal / 8 then '\t' :: indentation fuel (start + (8 - start % 8)) goal
    else ' ' :: indentation fuel (start + 1) goal

/-- A line of names that start in columns. -/
def columnLine : (start column : Nat) → List (String × Nat) → String
  | _, _, [] => ""
  | start, column, (text, width) :: rest =>
    let here := String.ofList (indentation 1000 start column) ++ text
    here ++ columnLine (column + text.length) (column + width) rest

/-- Names in columns. -/
def columnText (byColumns : Bool) (width : Nat) (texts : List String) : List String :=
  let lengths := texts.map String.length
  let most := min texts.length (max 1 ((width + 2) / 3))
  let counts := ((List.range most).map (· + 1)).reverse
  let found := counts.findSome? fun count =>
    (columnWidths? byColumns width count lengths).map fun widths => (count, widths)
  let (count, widths) := found.getD (1, [0])
  let rows := (texts.length + count - 1) / count
  (List.range rows).map fun row =>
    let line := (List.range count).filterMap fun column =>
      let i := if byColumns then column * rows + row else row * count + column
      if byColumns ∧ rows ≤ i - column * rows then none else texts[i]?
    columnLine 0 0 (line.zip widths)

/-- Names with commas between them, in lines of a width. -/
def commaText (width : Nat) (texts : List String) : String :=
  let step (state : Nat × String) (text : String) : Nat × String :=
    if state.2.isEmpty then (text.length, text)
    else if state.1 + text.length + 2 ≤ width then (state.1 + 2 + text.length, state.2 ++ ", " ++ text)
    else (text.length, state.2 ++ ",\n" ++ text)
  (texts.foldl step (0, "")).2

/-! ### Lists -/

/-- Entries in the order that is asked for. -/
def orderedEntries (r : ListRequest) (files : FileSystem) (entries : List Entry) : List Entry :=
  let byName (x y : Entry) : Ordering := compare x.name y.name
  let ending (name : String) : String := (Text.splitLast '.' name).elim "" fun p => "." ++ p.2
  let age : Node → Nat
    | .file id => id
    | _ => 0
  let order (x y : Entry) : Ordering :=
    match r.order with
    | .name => byName x y
    | .size => (compare (nodeSize files y.node) (nodeSize files x.node)).then (byName x y)
    | .time => (compare (age y.node) (age x.node)).then (byName x y)
    | .version => (compareVersions (Octets.bytes x.name) (Octets.bytes y.name)).then (byName x y)
    | .ending => (compare (ending x.name) (ending y.name)).then (byName x y)
    | .none => .eq
  let sorted := if r.order = .none then entries else entries.mergeSort fun x y => (order x y).isLE
  let turned := if r.arguments.has 'r' && r.order ≠ .none then sorted.reverse else sorted
  if r.arguments.has 'd' || !r.arguments.has 'D' then turned
  else turned.filter (·.node == .directory) ++ turned.filter (·.node != .directory)

/-- Write entries. -/
def putEntries (r : ListRequest) (entries : List Entry) : Task Unit := do
  let files := (← get).files
  let cells := if r.form = .long then longCells r files else shortCells r files
  let starts := alignedRows (entries.map cells)
  let texts := List.zipWith (fun start (e : Entry) => start ++ nameText r files e) starts entries
  if texts.isEmpty then return
  match r.form with
  | .commas => Task.putLine (commaText r.width texts)
  | .columns => for line in columnText true r.width texts do Task.putLine line
  | .rows => for line in columnText false r.width texts do Task.putLine line
  | _ =>
    let ending := if r.arguments.has 'z' then "\x00" else "\n"
    for text in texts do Task.putText (text ++ ending)

/-- The node that a link leads to, where it is followed. -/
def followedEntry (r : ListRequest) (files : FileSystem) (e : Entry) : Entry :=
  match r.links, e.node with
  | .always, .link target =>
    match files.find (FileSystem.pathOf e.location) with
    | .ok (l, n) => { e with location := l, node := n }
    | .error _ => { e with node := .link target }
  | _, _ => e

/-- What a directory holds, as a list shows it. -/
def entriesOf (r : ListRequest) (files : FileSystem) (l : Location) : List Entry :=
  let all := (files.list l).map fun (part, n) =>
    followedEntry r files { name := Octets.ofText part, location := l ++ [part], node := n }
  let isHidden (e : Entry) : Bool := e.name.toList.head? == some '.'
  let ignored (e : Entry) : Bool :=
    let isLike (pattern : String) : Bool := Pattern.matchesText (Glyphs.wild pattern.toList) e.name
    (r.arguments.values 'I').any isLike || (!r.hidden && (r.arguments.values '\x1B').any isLike)
      || (r.arguments.has 'B' && e.name.toList.getLast? == some '~')
  let shown := all.filter fun e => (r.hidden || !isHidden e) && !ignored e
  let selves : List Entry :=
    if r.selves then
      [{ name := ".", location := l, node := .directory },
        { name := "..", location := l.dropLast, node := .directory }]
    else []
  orderedEntries r files (selves ++ shown)

/-- Write what a directory holds. -/
def putDirectory (r : ListRequest) (l : Location) : Task Unit := do
  let files := (← get).files
  let entries := entriesOf r files l
  if r.form = .long || r.arguments.has 's' then
    let n := entries.foldl (fun n e => n + kilobytes files e.node) 0
    Task.putLine ("total " ++ if r.arguments.has 'h' then humanSize (n * 1024) else toString n)
  putEntries r entries

/-- Directories and, if they are asked for, those below them. -/
def directoriesIn (r : ListRequest) (files : FileSystem) :
    (fuel : Nat) → String → Location → List (String × Location)
  | 0, _, _ => []
  | fuel + 1, name, l =>
    (name, l) :: if !r.arguments.has 'R' then [] else
      (entriesOf { r with selves := false } files l).flatMap fun e =>
        if e.node = .directory then directoriesIn r files fuel (Path.join name e.name) e.location
        else []

/-- The options of `ls`. -/
def lsOptions : OptionTable where
  flags := "aAbBcCdfFgGhiklLmnNopqQrRsStuUvxXZ1H\x18\x19"
  valued := "IwT\x11\x12\x13\x14\x15\x16\x1A\x1B"
  optional := "\x17"
  long := longNames ("a=all A=almost-all b=escape B=ignore-backups d=directory h=human-readable i=inode "
    ++ "k=kibibytes n=numeric-uid-gid G=no-group q=hide-control-chars N=literal Q=quote-name r=reverse "
    ++ "R=recursive s=size H=dereference-command-line L=dereference I=ignore w=width T=tabsize "
    ++ "D=group-directories-first Y=file-type \x11=sort \x12=format \x13=indicator-style "
    ++ "\x14=quoting-style \x15=time \x16=time-style \x17=color F=classify z=zero "
    ++ "\x18=author \x1A=block-size h=si H=dereference-command-line-symlink-to-dir Z=context "
    ++ "\x19=show-control-chars \x1B=hide")

/-- The words that the value of an option may be, with the name of the option and the letters of the options
that they stand for. -/
def optionWords? (letter : Char) : Option (String × List (List String) × List Char) :=
  match letter with
  | '\x11' =>
    some ("sort", [["none"], ["time"], ["size"], ["extension"], ["version"], ["width"]],
      ['U', 't', 'S', 'X', 'v', 'W'])
  | '\x12' =>
    some ("format", [["verbose", "long"], ["commas"], ["horizontal", "across"], ["vertical"],
      ["single-column"]], ['l', 'm', 'x', 'C', '1'])
  | '\x13' =>
    some ("indicator-style", [["none"], ["slash"], ["file-type"], ["classify"]], ['V', 'p', 'Y', 'F'])
  | '\x14' =>
    some ("quoting-style", [["literal"], ["shell"], ["shell-always"], ["shell-escape"],
      ["shell-escape-always"], ["c"], ["c-maybe"], ["escape"], ["locale"], ["clocale"]],
      ['N', 'N', 'N', 'N', 'N', 'Q', 'Q', 'b', 'Q', 'Q'])
  | '\x15' =>
    some ("time", [["atime", "access", "use"], ["ctime", "status"], ["mtime", "modification"],
      ["birth", "creation"]], ['u', 'c', '\x19', '\x19'])
  | '\x17' =>
    some ("color", [["always", "yes", "force"], ["never", "no", "none"], ["auto", "tty", "if-tty"]],
      ['\x19', '\x19', '\x19'])
  | _ => none

/-- An option that has a word as its value, in the place of which another option stands. -/
def spelledOption (letter : Char) (value : String) : Task (Char × String) := do
  match (if value.isEmpty && letter == '\x17' then none else optionWords? letter) with
  | some (option, words, letters) => return (← Task.wordLetter ("--" ++ option) words letters value, "")
  | none => return (letter, value)

/-- Check the value of an option. -/
def checkListOption (letter : Char) (value : String) : Task Unit := do
  let isNumber := match Amount.read [] value with
    | .exactly _ | .tooLarge => true
    | _ => false
  if letter = 'w' && !isNumber then Task.fail ("invalid line width: " ++ Quoting.text value)
  if letter = 'T' && !isNumber then Task.fail ("invalid tab size: " ++ Quoting.text value)
  discard (spelledOption letter value)

/-- The request that options make. -/
def ListRequest.of (a : Arguments) : ListRequest :=
  let step (r : ListRequest) (o : Char × String) : ListRequest :=
    match o.1 with
    | '1' | 'z' => if r.form = .long then r else { r with form := .lines }
    | 'C' => { r with form := .columns }
    | 'x' => { r with form := .rows }
    | 'm' => { r with form := .commas }
    | 'l' | 'n' | 'g' | 'o' => { r with form := .long }
    | 'S' => { r with order := .size }
    | 't' => { r with order := .time }
    | 'v' => { r with order := .version }
    | 'X' => { r with order := .ending }
    | 'U' => { r with order := .none }
    | 'f' => { r with order := .none, hidden := true, selves := true }
    | 'a' => { r with hidden := true, selves := true }
    | 'A' => { r with hidden := true, selves := false }
    | 'w' => { r with width := match Amount.ofDigits (o.2.toList.filter Char.isDigit) with
        | 0 => 1000000
        | n => n }
    | 'H' => { r with links := .operands }
    | 'L' => { r with links := .always }
    | _ => r
  let r := a.options.foldl step { arguments := a }
  let plain := r.links = .toDirectories ∧ (r.form = .long ∨ a.hasAny "dF")
  if plain then { r with links := .never } else r

/-- The entry of an operand. -/
def operandEntry (r : ListRequest) (files : FileSystem) (name : String) : Except IoFault Entry := do
  let given := State.fileName name
  let entry (found : Location × Node) : Entry := { name, location := found.1, node := found.2 }
  match r.links with
  | .never => return entry (← files.findLink given)
  | .toDirectories =>
    match files.find given with
    | .ok (l, .directory) => return entry (l, .directory)
    | _ => return entry (← files.findLink given)
  | .operands => return entry (← files.find given)
  | .always => return entry (← files.find given)

/-- List directories. -/
def ls : Utility := fun arguments => do
  Task.faultsEndWith 2
  let given ← Task.optionsWith lsOptions arguments checkListOption
  let options ← given.options.mapM fun (letter, value) => spelledOption letter value
  let a := { given with options }
  let r := ListRequest.of a
  let files := (← get).files
  let names := if a.operands.isEmpty then ["."] else a.operands
  let mut single : List Entry := []
  let mut directories : List Entry := []
  for name in names do
    match operandEntry r files name with
    | .error fault =>
      if !(name == "." && (files.node? files.workingDirectory).isNone) then
        Task.complain ("cannot access " ++ Quoting.always name ++ ": " ++ faultText fault)
    | .ok e =>
      if e.node == .directory && !a.has 'd' then directories := directories ++ [e]
      else single := single ++ [e]
  putEntries r (orderedEntries r files single)
  let fuel := files.nodes.length + 1
  let shown := (orderedEntries r files directories).flatMap fun e =>
    directoriesIn r files fuel e.name e.location
  let heads := 1 < names.length || a.has 'R'
  let mut first := single.isEmpty
  for (name, l) in shown do
    if !first then Task.putLine ""
    first := false
    if heads then Task.putLine (seenName a name ++ ":")
    putDirectory r l

/-! ### What is known of files -/

/-- A word or a number that is known of a file, for a letter. -/
def fileDetail (files : FileSystem) (name : String) (l : Location) (n : Node) (letter : Char) :
    Option String :=
  let mode := modeAt files l n
  match letter with
  | 'n' => some name
  | 'N' => some (match n with
    | .link target => Quoting.always name ++ " -> " ++ Quoting.always (Octets.ofText target)
    | _ => Quoting.always name)
  | 's' => some (toString (nodeSize files n))
  | 'F' => some (kindWord files n)
  | 'a' => some (String.ofList (Nat.toDigits 8 mode))
  | 'A' => some (modeLetters files l n)
  | 'f' => some (String.ofList (Nat.toDigits 16 (mode + match n with
    | .directory => 16384
    | .file _ => 32768
    | .link _ => 40960
    | _ => 8192)))
  | 'U' | 'G' => some "root"
  | 'u' | 'g' => some "0"
  | 'h' => some (toString (nameCount files l n))
  | 'b' => some (toString (2 * kilobytes files n))
  | 'B' => some "512"
  | 'o' => some "4096"
  | 't' | 'T' => some "0"
  | 'm' => some "/"
  | 'i' => some (toString (files.nodes.length + l.length))
  | 'd' => some "66"
  | 'X' | 'Y' | 'Z' | 'W' => some "0"
  | 'x' | 'y' | 'z' => some "1970-01-01 00:00:00.000000000 +0000"
  | 'w' => some "-"
  | _ => none

/-- A text with the letters after percent signs replaced by what is known of a file. -/
def detailedText (detail : Char → Option String) : (fuel : Nat) → List Char → String
  | 0, _ => ""
  | _ + 1, [] => ""
  | fuel + 1, '%' :: '%' :: rest => "%" ++ detailedText detail fuel rest
  | fuel + 1, '%' :: rest =>
    let flags := rest.takeWhile fun c => "-0+# '".toList.contains c
    let digits := (rest.drop flags.length).takeWhile Char.isDigit
    let width := Amount.ofDigits digits
    match rest.drop (flags.length + digits.length) with
    | [] => "%"
    | letter :: after =>
      let text := (detail letter).getD "?"
      let text := if flags.contains '#' && letter = 'a' && text != "0" then "0" ++ text else text
      let padded :=
        if flags.contains '-' then leftAligned width text
        else if flags.contains '0' then
          String.ofList (List.replicate (width - text.length) '0') ++ text
        else rightAligned width text
      padded ++ detailedText detail fuel after
  | fuel + 1, c :: rest => String.singleton c ++ detailedText detail fuel rest

/-- The text that is written about a file when none is given. -/
def usualDetails (isLink : Bool) : String :=
  "  File: " ++ (if isLink then "%N" else "%n")
    ++ "\n  Size: %-10s\tBlocks: %-10b IO Block: %-6o %F\nDevice: 0,%d\tInode: %-11i Links: %h\n"
    ++ "Access: (%04a/%10A)  Uid: (%5u/%8U)   Gid: (%5g/%8G)\nAccess: %x\nModify: %y\nChange: %z\n"
    ++ " Birth: %w\n"

/-- What is known of files. -/
def stat : Utility := fun arguments => do
  let a ← Task.options { flags := "Lft", valued := "cP", long := longNames ("L=dereference "
    ++ "f=file-system c=format P=printf t=terse") } arguments
  if a.operands.isEmpty then Task.misuse "missing operand"
  for name in a.operands do
    let files := (← get).files
    match (if a.has 'L' then files.find else files.findLink) (State.fileName name) with
    | .error fault =>
      Task.complain ("cannot statx " ++ Quoting.always name ++ ": " ++ faultText fault)
    | .ok (l, n) =>
      let detail := fileDetail files name l n
      let isLink := kindLetter n == "l"
      match a.last? "cPt" with
      | some ('c', text) => Task.putLine (detailedText detail (text.length + 1) text.toList)
      | some ('P', text) =>
        let (bytes, _) := Format.unescape (text.length + 1) (Octets.bytes text)
        let plain := textOf bytes
        Task.putText (detailedText detail (plain.length + 1) plain.toList)
      | some _ =>
        let text := "%n %s %b %f %u %g %d %i %h %t %T %X %Y %Z %W %o"
        Task.putLine (detailedText detail (text.length + 1) text.toList)
      | none =>
        let text := usualDetails isLink
        Task.putText (detailedText detail (text.length + 1) text.toList)

/-! ### Measures -/

/-- The options of `du`. -/
def duOptions : OptionTable where
  flags := "0abcDhHklLmsSxPAiz"
  valued := "dBtXf\x16\x17"
  optional := "\x15"
  long := longNames ("a=all A=apparent-size b=bytes c=total h=human-readable s=summarize d=max-depth "
    ++ "0=null L=dereference B=block-size l=count-links D=dereference-args X=exclude \x17=exclude-from "
    ++ "f=files0-from i=inodes P=no-dereference x=one-file-system S=separate-dirs z=si t=threshold "
    ++ "\x15=time \x16=time-style")

/-- The size of what is at a location. -/
structure Measured where
  name : String
  /-- How far it is below the operand. -/
  depth : Nat
  isDirectory : Bool
  /-- The size with all that is below. -/
  whole : Nat
  /-- The size without directories that are below. -/
  apart : Nat

/-- The sizes of what is at a location and below it, the deepest first. -/
def sizesBelow (measure : Node → Nat) (leavesOut : String → Bool) (files : FileSystem) :
    (fuel : Nat) → (depth : Nat) → String → Location → Node → List Measured
  | 0, _, _, _, _ => []
  | fuel + 1, depth, name, l, n =>
    let inside := if n != .directory then [] else
      ((files.list l).filter fun e => !leavesOut (Octets.ofText e.1)).flatMap fun (part, m) =>
        sizesBelow measure leavesOut files fuel (depth + 1) (Path.join name (Octets.ofText part)) (l ++ [part]) m
    let near := inside.filter (·.depth == depth + 1)
    let whole := near.foldl (fun sum e => sum + e.whole) (measure n)
    let apart := near.foldl (fun sum e => if e.isDirectory then sum else sum + e.apart) (measure n)
    inside ++ [{ name, depth, isDirectory := n == .directory, whole, apart }]

/-- The size of the blocks in which an option asks for sizes. -/
def blockSize? (text : String) : Option Nat :=
  match Amount.read Amount.usualLetters text with
  | .exactly n => if n = 0 then none else some n
  | _ =>
    match Amount.read Amount.usualLetters ("1" ++ text) with
    | .exactly n => some n
    | _ => none

/-- Check the value of an option. -/
def checkMeasureOption (letter : Char) (value : String) : Task Unit := do
  match letter with
  | 'd' =>
    if !value.toList.all Char.isDigit || value.isEmpty then
      Task.complain ("invalid maximum depth " ++ Quoting.text value)
      Task.seekHelp
  | 'B' =>
    if (blockSize? value).isNone then
      Task.fail ("invalid -B argument " ++ Quoting.text value)
  | 't' =>
    match Amount.read Amount.usualLetters (String.ofList (value.toList.dropWhile (· == '-'))) with
    | .exactly _ => pure ()
    | _ => Task.fail ("invalid -t argument " ++ Quoting.text value)
  | _ => pure ()

/-- The sizes of directories. -/
def du : Utility := fun arguments => do
  let a ← Task.optionsWith duOptions arguments checkMeasureOption
  if a.has 's' && a.has 'a' then Task.misuse "cannot both summarize and show all entries"
  let files := (← get).files
  let apparent := a.hasAny "bA"
  let measure (n : Node) : Nat :=
    if a.has 'i' then 1
    else if apparent then (if n == .directory then 0 else nodeSize files n) else 1024 * kilobytes files n
  let shown (n : Nat) : String :=
    if a.has 'i' then toString n
    else
      match a.last? "hbmkB" with
      | some ('h', _) => humanSize n
      | some ('b', _) => toString n
      | some ('m', _) => toString ((n + 1048575) / 1048576)
      | some ('B', text) =>
        let size := (blockSize? text).getD 1024
        toString ((n + size - 1) / size)
      | _ => toString ((n + 1023) / 1024)
  let ending := if a.has '0' then "\x00" else "\n"
  let size (e : Measured) : Nat := if a.has 'S' then e.apart else e.whole
  let leavesOut (name : String) : Bool :=
    (a.values 'X').any fun pattern => Pattern.matchesText (Glyphs.wild pattern.toList) name
  let depth := if a.has 's' then 0 else ((a.value? 'd').bind String.toNat?).getD 1000000
  let mut all := 0
  for name in (if a.operands.isEmpty then ["."] else a.operands) do
    match files.findLink (State.fileName name) with
    | .error fault =>
      Task.complain ("cannot access " ++ Quoting.always name ++ ": " ++ faultText fault)
    | .ok (l, n) =>
      let entries := sizesBelow measure leavesOut files (files.nodes.length + 1) 0 name l n
      all := all + entries.getLast?.elim 0 Measured.whole
      for e in entries do
        if e.depth ≤ depth && (e.isDirectory || a.has 'a' || e.depth = 0) then
          Task.putText (shown (size e) ++ "\t" ++ e.name ++ ending)
  if a.has 'c' then Task.putText (shown all ++ "\ttotal" ++ ending)

end ArtifactPipeline.Shell.Utility
