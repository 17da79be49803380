import ArtifactPipeline.Shell.Utility.Directories

/-!
# What belongs to a file besides its octets

Programs that change the size of files, when they were used, and who may use them, and the program that
makes files with new names.

* `touch` and `truncate` make files where there are none;
* `chmod` changes who may do what, as a text or another file says;
* `mktemp` makes a file or a directory with a name that is not in use.
-/

namespace ArtifactPipeline.Shell.Utility

/-! ### Times -/

/-- The words that a text about a moment may hold. -/
def momentWords : List String :=
  ["now", "today", "yesterday", "tomorrow", "ago", "next", "last", "this", "am", "pm", "utc", "gmt", "z",
    "t", "second", "sec", "minute", "min", "hour", "day", "week", "fortnight", "month", "year", "jan",
    "january", "feb", "february", "mar", "march", "apr", "april", "may", "jun", "june", "jul", "july",
    "aug", "august", "sep", "september", "oct", "october", "nov", "november", "dec", "december", "sun",
    "sunday", "mon", "monday", "tue", "tuesday", "wed", "wednesday", "thu", "thursday", "fri", "friday",
    "sat", "saturday"]

/-- Whether a text may tell a moment. -/
def tellsMoment (text : String) : Bool :=
  let isLetter (c : Char) : Bool := c.isAlpha
  let words := (Text.splitOn ' ' (text.toList.map fun c => if isLetter c then c.toLower else ' ')).filter
    (!·.isEmpty)
  words.all fun w =>
    momentWords.contains (String.ofList w)
      || (w.getLast? == some 's' && momentWords.contains (String.ofList w.dropLast))

/-- Whether digits tell a moment: month, day, hour and minute, with a year before and seconds behind. -/
def isStamp (text : String) : Bool :=
  let cs := text.toList
  let digits := cs.takeWhile Char.isDigit
  let seconds := match cs.drop digits.length with
    | [] => true
    | '.' :: rest => rest.length == 2 && rest.all Char.isDigit
    | _ => false
  let pair (i : Nat) : Nat := Amount.ofDigits ((digits.drop (digits.length - 8 + i)).take 2)
  [8, 10, 12].contains digits.length && seconds && 1 ≤ pair 0 && pair 0 ≤ 12 && 1 ≤ pair 2 && pair 2 ≤ 31
    && pair 4 < 24 && pair 6 < 60

/-- The options of `touch`. -/
def touchOptions : OptionTable where
  flags := "acfhm"
  valued := "drtw"
  long := longNames "w=time c=no-create d=date r=reference h=no-dereference"

/-- Make empty files where there are none. -/
def touch : Utility := fun arguments => do
  let a ← Task.optionsWith touchOptions arguments fun letter value =>
    if letter = 't' ∧ !isStamp value then Task.fail ("invalid date format " ++ Quoting.text value)
    else pure ()
  match a.value? 'r' with
  | some name =>
    match ← Task.find name with
    | .ok _ => pure ()
    | .error fault =>
      Task.fail ("failed to get attributes of " ++ Quoting.always name ++ ": " ++ faultText fault)
  | none => pure ()
  match (a.value? 'd').filter fun text => !tellsMoment text with
  | some text => Task.fail ("invalid date format " ++ Quoting.text text)
  | none => pure ()
  if a.operands.isEmpty then Task.misuse "missing file operand"
  for name in a.operands do
    let files := (← get).files
    if name = "-" || files.has (State.fileName name) || a.hasAny "ch" then pure ()
    else
      match files.openToWrite true (State.fileName name) with
      | .ok (_, files) => Task.change files
      | .error .isDirectory =>
        Task.complain ("setting times of " ++ Quoting.always name ++ ": No such file or directory")
      | .error fault =>
        Task.complain ("cannot touch " ++ Quoting.always name ++ ": " ++ faultText fault)

/-! ### Sizes -/

/-- How a new size follows from the old one. -/
inductive SizeChange where
  | exactly
  | by
  | atMost
  | atLeast
  | downTo
  | upTo

namespace SizeChange

/-- The change that the first character of a text asks for. -/
def of? (c : Char) : Option SizeChange :=
  match c with
  | '<' => some atMost
  | '>' => some atLeast
  | '/' => some downTo
  | '%' => some upTo
  | '+' => some .by
  | '-' => some .by
  | _ => none

/-- The new size. -/
def apply (amount : Int) (old : Nat) : SizeChange → Nat
  | exactly => amount.toNat
  | .by => (Int.ofNat old + amount).toNat
  | atMost => min old amount.toNat
  | atLeast => max old amount.toNat
  | downTo => old / amount.toNat * amount.toNat
  | upTo => (old + amount.toNat - 1) / amount.toNat * amount.toNat

end SizeChange

/-- The change of size that a text asks for. -/
def sizeChange (text : String) : Task (SizeChange × Int) := do
  let cs := text.toList.dropWhile (· == ' ')
  let change := (cs.head?.bind SizeChange.of?).getD .exactly
  let rest := match cs with
    | c :: rest => if (SizeChange.of? c).isSome then rest else cs
    | [] => []
  match Amount.read "EgGkKmMPQRtTYZ0".toList (String.ofList rest) with
  | .exactly n => return (change, if cs.head? = some '-' then -Int.ofNat n else Int.ofNat n)
  | _ => Task.fail ("Invalid number: " ++ Quoting.text text)

/-- The options of `truncate`. -/
def truncateOptions : OptionTable where
  flags := "co"
  valued := "rs"
  long := longNames "c=no-create o=io-blocks r=reference s=size"

/-- Octets cut or filled up to a size. -/
def resized (size : Nat) (bytes : Bytes) : Bytes :=
  bytes.take size ++ List.replicate (size - bytes.length) 0

theorem length_resized (size : Nat) (bytes : Bytes) : (resized size bytes).length = size := by
  simp only [resized, List.length_append, List.length_take, List.length_replicate]
  omega

/-- Change the sizes of files. -/
def truncate : Utility := fun arguments => do
  let a ← Task.optionsWith truncateOptions arguments fun letter value =>
    if letter = 's' then discard (sizeChange value) else pure ()
  let change? ← (a.value? 's').mapM sizeChange
  let (change, amount) ← match change?, a.value? 'r' with
    | none, none => Task.misuse "you must specify either '--size' or '--reference'"
    | some found, none => pure found
    | found, some name =>
      match ← Task.find name with
      | .ok (_, .file id) =>
        let size := (← get).files.sizeOf id
        pure (match found with
          | some (change, amount) => (SizeChange.exactly, Int.ofNat (change.apply amount size))
          | none => (SizeChange.exactly, Int.ofNat size))
      | .ok _ => pure (SizeChange.exactly, 0)
      | .error fault => Task.fail ("cannot stat " ++ Quoting.always name ++ ": " ++ faultText fault)
  let amount := if a.has 'o' then amount * 4096 else amount
  match change, amount with
  | .downTo, 0 => Task.fail "division by zero"
  | .upTo, 0 => Task.fail "division by zero"
  | _, _ => pure ()
  if a.operands.isEmpty then Task.misuse "missing file operand"
  for name in a.operands do
    let files := (← get).files
    if a.has 'c' && !files.has (State.fileName name) then pure ()
    else
      match files.openToWrite true (State.fileName name) with
      | .error fault =>
        Task.complain ("cannot open " ++ Quoting.always name ++ " for writing: " ++ faultText fault)
      | .ok (.file id, files) =>
        let old := files.contentsOf id
        Task.change (files.overwrite id (resized (change.apply amount old.length) old))
      | .ok _ => pure ()

/-! ### Permissions -/

/-- The permission of a node. -/
def modeAt (files : FileSystem) (l : Location) : Node → Nat
  | .directory => files.directoryModeOf l
  | .file id => files.modeOf id
  | .link _ => 511
  | _ => 438

/-- Change the permission of a node. -/
def setModeAt (files : FileSystem) (l : Location) (mode : Nat) : Node → FileSystem
  | .directory => files.setDirectoryMode l mode
  | .file id => files.setMode id mode
  | _ => files

/-- Letters and digits of a permission. -/
def modeText (mode : Nat) : String := Permission.digits mode ++ " (" ++ Permission.letters mode ++ ")"

/-- The arguments of `chmod`: those that are permissions with a sign for an option before them are put
together. -/
def signedModes : List String → List String × List String
  | [] => ([], [])
  | a :: rest =>
    if a = "--" then ([], a :: rest)
    else
      let (modes, others) := signedModes rest
      match a.toList with
      | '-' :: c :: _ =>
        if "rwxXstugoa,+=01234567".toList.contains c then (a :: modes, others) else (modes, a :: others)
      | _ => (modes, a :: others)

/-- The options of `chmod`. -/
def chmodOptions : OptionTable where
  flags := "Rcfv"
  long := longNames ("c=changes R=recursive y=no-preserve-root Y=preserve-root q=quiet A=reference "
    ++ "f=silent v=verbose")
  valued := "A"

/-- What `chmod` is asked for. -/
structure ModeRequest where
  /-- The new permission of something, given whether it is a directory and its old one. -/
  change : (mask : Nat) → Bool → Nat → Nat
  arguments : Arguments
  /-- Whether to report that the mask has kept something back. -/
  checks : Bool := false

/-- Change the permission of something. -/
def changeMode (r : ModeRequest) (name : String) (l : Location) (n : Node) : Task Unit := do
  let files := (← get).files
  let old := modeAt files l n
  let new := r.change files.umask (n == .directory) old
  Task.change (setModeAt files l new n)
  let a := r.arguments
  if a.has 'v' || (a.has 'c' && old != new) then
    Task.putLine ("mode of " ++ Quoting.always name ++
      if old = new then " retained as " ++ modeText old
      else " changed from " ++ modeText old ++ " to " ++ modeText new)
  if r.checks then
    let naive := r.change 0 (n == .directory) old
    if Permission.without new naive ≠ 0 then
      Task.complain (Quoting.name name ++ ": new permissions are " ++ Permission.letters new ++ ", not "
        ++ Permission.letters naive)

/-- Change the permissions of a directory and of what is below it. -/
def changeModes (r : ModeRequest) : (fuel : Nat) → String → Location → Node → Task Unit
  | 0, _, _, _ => pure ()
  | fuel + 1, name, l, n => do
    changeMode r name l n
    if n == .directory then
      for (part, m) in (← get).files.list l do
        match m with
        | .link _ => pure ()
        | m => changeModes r fuel (Path.join name (Octets.ofText part)) (l ++ [part]) m

/-- Change who may use files. -/
def chmod : Utility := fun arguments => do
  let (modes, others) := signedModes arguments
  let a ← Task.options chmodOptions others
  let (text?, names) := match a.has 'A', modes, a.operands with
    | true, _, names => (none, names)
    | false, [], mode :: names => (some mode, names)
    | false, [], [] => (none, [])
    | false, modes, names => (some (String.intercalate "," modes), names)
  if names.isEmpty then
    match modes, a.operands with
    | [], [mode] => Task.misuse ("missing operand after " ++ Quoting.text mode)
    | _, _ => Task.misuse "missing operand"
  let change : Nat → Bool → Nat → Nat ← match a.value? 'A', text? with
    | some name, _ =>
      match ← Task.find name with
      | .ok (l, n) =>
        let mode := modeAt (← get).files l n
        pure fun _ _ _ => mode
      | .error fault =>
        Task.fail ("failed to get attributes of " ++ Quoting.always name ++ ": " ++ faultText fault)
    | none, some text =>
      match Permission.change? false 0 text 0 with
      | none => Task.misuse ("invalid mode: " ++ Quoting.text text)
      | some _ => pure fun mask isDirectory old =>
        (Permission.change? isDirectory mask text old).getD old
    | none, none => Task.misuse "missing operand"
  let r : ModeRequest := { change, arguments := a, checks := !modes.isEmpty }
  for name in names do
    let files := (← get).files
    match files.find (State.fileName name) with
    | .ok (l, n) =>
      if a.has 'R' then changeModes r (files.nodes.length + 1) name l n else changeMode r name l n
    | .error fault =>
      let text := match files.findLink (State.fileName name) with
        | .ok (_, .link _) => "cannot operate on dangling symlink " ++ Quoting.always name
        | _ => "cannot access " ++ Quoting.always name ++ ": " ++ faultText fault
      if a.hasAny "fq" then Task.ends 1 else Task.complain text
      if a.has 'v' then Task.putLine (Quoting.always name ++ " could not be accessed")

/-- Users and groups that every machine knows. -/
def knownNames : List String :=
  ["root", "daemon", "bin", "sys", "sync", "games", "man", "lp", "mail", "news", "uucp", "proxy",
    "www-data", "backup", "list", "irc", "nobody", "nogroup", "adm", "tty", "disk", "users", "staff"]

/-- Whether a name or number may be that of a user or a group. -/
def isOwner (name : String) : Bool :=
  name.isEmpty || name.all Char.isDigit || knownNames.contains name

/-- Give files to somebody else; only that they exist is asked for. -/
def giveFiles (group : Bool) : Utility := fun arguments => do
  let a ← Task.options {
      flags := "RcfhvHLPDpn"
      valued := "\x11\x12"
      long := longNames ("R=recursive v=verbose f=silent f=quiet c=changes D=dereference h=no-dereference "
        ++ "p=preserve-root n=no-preserve-root \x11=reference" ++ if group then "" else " \x12=from") }
    arguments
  let operands ← match a.value? '\x11' with
    | none => pure a.operands
    | some name =>
      match ← Task.find name with
      | .ok _ => pure ("" :: a.operands)
      | .error fault =>
        Task.fail ("failed to get attributes of " ++ Quoting.always name ++ ": " ++ faultText fault)
  match operands with
  | [] => Task.misuse "missing operand"
  | [owner] => Task.misuse ("missing operand after " ++ Quoting.text owner)
  | owner :: names =>
    let (user, groupName) := (Text.splitOnce ':' owner).getD (owner, "")
    if group then
      if !isOwner owner then Task.fail ("invalid group: " ++ Quoting.text owner)
    else
      if !isOwner user then Task.fail ("invalid user: " ++ Quoting.text owner)
      if !isOwner groupName then Task.fail ("invalid group: " ++ Quoting.text owner)
    for name in names do
      match ← Task.find name with
      | .ok _ => pure ()
      | .error fault =>
        if a.has 'f' then Task.ends 1
        else Task.complain ("cannot access " ++ Quoting.always name ++ ": " ++ faultText fault)

/-- Give files to another user. -/
def chown : Utility := giveFiles false

/-- Give files to another group. -/
def chgrp : Utility := giveFiles true

/-! ### New names -/

/-- The options of `mktemp`. -/
def mktempOptions : OptionTable where
  flags := "dqtuV"
  valued := "ps"
  optional := "D"
  long := longNames "d=directory q=quiet u=dry-run s=suffix D=tmpdir"

/-- A template with its marks at the end, and what stands after them. -/
def templateParts (suffix : Option String) (template : String) : Except String (String × Nat × String) := do
  let cs := template.toList
  let after ← match suffix with
    | some suffix =>
      if cs.getLast? = some 'X' then pure suffix
      else .error ("with --suffix, template " ++ Quoting.text template ++ " must end in X")
    | none => pure (String.ofList ((cs.reverse.takeWhile (· != 'X')).reverse))
  let before := if suffix.isSome then cs else cs.take (cs.length - after.length)
  let marks := (before.reverse.takeWhile (· == 'X')).length
  if after.toList.contains '/' then
    .error ("invalid suffix " ++ Quoting.text after ++ ", contains directory separator")
  else if marks < 3 then
    .error ("too few X's in template " ++ Quoting.text template)
  else return (String.ofList (before.take (before.length - marks)), marks, after)

/-- Make a file or directory with a name that is not in use. -/
def mktemp : Utility := fun arguments => do
  let a ← Task.options mktempOptions arguments
  if 1 < a.operands.length then Task.misuse "too many templates"
  let given := a.operands.head?
  let template := given.getD "tmp.XXXXXXXXXX"
  let (before, marks, after) ← match templateParts (a.value? 's') template with
    | .ok parts => pure parts
    | .error text => Task.fail text
  let d ← get
  let usual := ((d.environment.lookup "TMPDIR").filter (· != "")).getD "/tmp"
  let directory? : Option String :=
    if a.has 't' || given.isNone || a.hasAny "pD" then
      some ((((a.value? 'p').orElse fun _ => a.value? 'D').filter (· != "")).getD usual)
    else none
  if directory?.isSome && given.isSome && Path.isAbsolute template then
    Task.fail ("invalid template, " ++ Quoting.text template
      ++ "; with --tmpdir, it may not be absolute")
  let start := (directory?.elim "" fun directory => Path.join directory "") ++ before
  let name (n : Nat) : String := start ++ zeroPadded 10 marks n ++ after
  let n := ((List.range (d.files.nodes.length + 1)).find? fun n =>
    !d.files.has (State.fileName (name n))).getD 0
  let shown := start ++ String.ofList (List.replicate marks 'X') ++ after
  let kind := if a.has 'd' then "directory" else "file"
  let fail (fault : IoFault) : Task Unit :=
    if a.has 'q' then do
      Task.ends 1
      Task.stop
    else
      Task.fail ("failed to create " ++ kind ++ " via template " ++ Quoting.text shown ++ ": "
        ++ faultText fault)
  match d.files.resolve (State.fileName (name n)) with
  | .error fault => fail fault
  | .ok l =>
    if !a.has 'u' then
      if a.has 'd' then Task.change ((d.files.addDirectory l).setDirectoryMode l 448)
      else
        let made := d.files.addFile l []
        Task.change (match made.node? l with
          | some (.file id) => made.setMode id 384
          | _ => made)
    Task.putLine (name n)

end ArtifactPipeline.Shell.Utility
