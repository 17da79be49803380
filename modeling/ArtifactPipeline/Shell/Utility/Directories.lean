import ArtifactPipeline.Shell.Utility.Contents

/-!
# Directories made and names removed

Programs that make directories, and programs that remove what path names lead to: an empty directory, a
file or a link, or a directory with all that is in it.

* `mkdir` and `rmdir` make and remove directories, each with those on the way to it if that is wanted;
* `rm` and `unlink` remove files, and ask before that if they shall.
-/

namespace ArtifactPipeline.Shell.Utility

/-- Do something with each operand, of which there must be one. -/
def forEach (names : List String) (use : String → Task Unit) : Task Unit :=
  if names.isEmpty then Task.misuse "missing operand" else names.forM use

/-- The node that a name leads to; a link at its end is not followed. -/
def findPlain (name : String) : Task (Except IoFault (Location × Node)) := do
  return (← get).files.findLink (State.fileName name)

/-- Whether a location holds a directory in which there is something. -/
def isFilled (files : FileSystem) (l : Location) : Bool := !(files.list l).isEmpty

/-- Ask a question, to which the next line of the input is the answer. -/
def confirms (question : String) : Task Bool := do
  Task.noteText ((← get).program ++ ": " ++ question ++ "? ")
  match (← get).toMachine.number? 0 with
  | none => return false
  | some number =>
    let line := match (← get).toMachine.leftOf number none with
      | .ok bytes => firstLines 0x0A 1 bytes
      | .error _ => []
    stepOver number line.length
    return line.head?.any fun b => b == 0x79 || b == 0x59

/-! ### Making -/

/-- The names on the way to a name, each with what it leads to; the name itself is the last one. -/
def waysTo (name : String) : List String :=
  let parts := (Path.parts (Path.withoutEndSlashes name)).filter (· != "")
  let start := if Path.isAbsolute name then "/" else ""
  let ways := (List.range parts.length).map fun i => start ++ String.intercalate "/" (parts.take (i + 1))
  ways.dropLast ++ [name]

/-- Report a directory that cannot be made. -/
def noDirectory (name text : String) : Task Unit :=
  Task.complain ("cannot create directory " ++ Quoting.always name ++ ": " ++ text)

/-- What is asked of new directories. -/
structure DirectoryRequest where
  verbose : Bool
  /-- Who may do what with it, where that is said. -/
  mode : Option Nat

/-- Make a directory. -/
def makeDirectory (r : DirectoryRequest) (mode : Option Nat) (name : String) : Task Unit := do
  let files := (← get).files
  match files.resolve (State.fileName name) with
  | .error fault => noDirectory name (faultText fault)
  | .ok l =>
    if (files.node? l).isSome then noDirectory name "File exists"
    else
      let made := files.addDirectory l
      Task.change (match mode with
        | some mode => made.setDirectoryMode l mode
        | none => made)
      if r.verbose then Task.putLine ("mkdir: created directory " ++ Quoting.always name)

/-- Make a directory and those on the way to it, as far as they are missing. -/
def makeWay (r : DirectoryRequest) : List String → Task Unit
  | [] => pure ()
  | way :: rest => do
    match ← Task.find way with
    | .ok (_, .directory) => makeWay r rest
    | .ok _ => noDirectory way (if rest.isEmpty then "File exists" else "Not a directory")
    | .error .notDirectory => noDirectory way "Not a directory"
    | .error _ =>
      let before := (← get).files.nodes.length
      makeDirectory r (if rest.isEmpty then r.mode else none) way
      if before < (← get).files.nodes.length then makeWay r rest

/-- The options of `mkdir`. -/
def mkdirOptions : OptionTable where
  flags := "pvZ"
  valued := "m"
  long := longNames "p=parents v=verbose m=mode"

/-- Make directories. -/
def mkdir : Utility := fun arguments => do
  let a ← Task.options mkdirOptions arguments
  if a.operands.isEmpty then Task.misuse "missing operand"
  let mode ← match a.value? 'm' with
    | none => pure none
    | some text =>
      match Permission.change? true (← get).files.umask text 511 with
      | some mode => pure (some mode)
      | none => Task.fail ("invalid mode " ++ Quoting.text text)
  let r : DirectoryRequest := { verbose := a.has 'v', mode }
  for name in a.operands do
    if a.has 'p' ∧ name ≠ "" then makeWay r (waysTo name) else makeDirectory r mode name

/-! ### Removing directories -/

/-- Remove an empty directory; the answer is whether it is gone. -/
def removeEmpty (a : Arguments) (above : Bool) (name : String) : Task Bool := do
  if a.has 'v' then Task.putLine ("rmdir: removing directory, " ++ Quoting.always name)
  let fail (text : String) : Task Bool := do
    Task.complain ("failed to remove " ++ (if above then "directory " else "") ++ Quoting.always name
      ++ ": " ++ text)
    return false
  let files := (← get).files
  match files.findLink (State.fileName name) with
  | .error fault => fail (faultText fault)
  | .ok (l, .directory) =>
    if Path.endsHere name then fail "Invalid argument"
    else if isFilled files l then
      if a.has 'i' then return false else fail "Directory not empty"
    else
      Task.change (files.forget (· == l))
      return true
  | .ok _ => fail "Not a directory"

/-- The names of the directories above a name, the nearest first. -/
def waysAbove (name : String) : List String := (waysTo name).dropLast.reverse

/-- The options of `rmdir`. -/
def rmdirOptions : OptionTable where
  flags := "pv"
  long := longNames "p=parents p=path v=verbose i=ignore-fail-on-non-empty"

/-- Remove empty directories. -/
def rmdir : Utility := fun arguments => do
  let a ← Task.options rmdirOptions arguments
  forEach a.operands fun name => do
    let mut going ← removeEmpty a false name
    if a.has 'p' then
      for way in waysAbove name do
        if going then going ← removeEmpty a true way

/-! ### Removing anything -/

/-- When a question is asked before something is removed. -/
inductive Asking where
  | never
  | once
  | always
deriving Repr, DecidableEq

/-- How something is removed. -/
structure Removal where
  deep : Bool
  forced : Bool
  verbose : Bool
  empties : Bool
  asking : Asking

/-- The word for the kind of a node. -/
def kindWord (files : FileSystem) : Node → String
  | .directory => "directory"
  | .file id => if files.sizeOf id = 0 then "regular empty file" else "regular file"
  | .link _ => "symbolic link"
  | .sink => "character special file"
  | .zeros => "character special file"
  | .full => "character special file"

/-- Report something that cannot be removed. -/
def notRemoved (name text : String) : Task Unit :=
  Task.complain ("cannot remove " ++ Quoting.always name ++ ": " ++ text)

/-- Remove a file or a link. -/
def removeLeaf (r : Removal) (name : String) (l : Location) (n : Node) : Task Bool := do
  let wanted ←
    if r.asking = .always then
      confirms ("remove " ++ kindWord (← get).files n ++ " " ++ Quoting.always name)
    else pure true
  if wanted then
    Task.change ((← get).files.forget (· == l))
    if r.verbose then Task.putLine ("removed " ++ Quoting.always name)
  return wanted

/-- Remove a directory with all that is in it; the answer is whether it is gone. -/
def removeDeep (r : Removal) : (fuel : Nat) → String → Location → Task Bool
  | 0, _, _ => return false
  | fuel + 1, name, l => do
    let files := (← get).files
    let inside := files.list l
    let asks := r.asking = .always
    let descends ←
      if asks && !inside.isEmpty then confirms ("descend into directory " ++ Quoting.always name)
      else pure true
    if !descends then return false
    let mut emptied := true
    for (part, n) in inside do
      let below := Path.join name (Octets.ofText part)
      let gone ← if n == .directory then removeDeep r fuel below (l ++ [part])
        else removeLeaf r below (l ++ [part]) n
      emptied := emptied && gone
    if !emptied then return false
    let wanted ←
      if asks then confirms ("remove directory " ++ Quoting.always name) else pure true
    if wanted then
      Task.change ((← get).files.forget (· == l))
      if r.verbose then Task.putLine ("removed directory " ++ Quoting.always name)
    return wanted

/-- Remove what a name leads to. -/
def removeName (r : Removal) (name : String) : Task Unit := do
  let files := (← get).files
  let last := (Path.parts (Path.withoutEndSlashes name)).getLast?
  match files.findLink (State.fileName name) with
  | .error fault =>
    let missing := fault == .notFound || fault == .notDirectory
    if r.forced && missing then pure () else notRemoved name (faultText fault)
  | .ok (l, .directory) =>
    if !r.deep && !r.empties then notRemoved name "Is a directory"
    else if r.deep && (last == some "." || last == some "..") then
      Task.complain ("refusing to remove '.' or '..' directory: skipping " ++ Quoting.always name)
    else if l.isEmpty then
      Task.complain "it is dangerous to operate recursively on '/'"
      Task.remark "use --no-preserve-root to override this failsafe"
    else if !r.deep && isFilled files l then notRemoved name "Directory not empty"
    else discard (removeDeep r (files.nodes.length + 1) name l)
  | .ok (l, n) => discard (removeLeaf r name l n)

/-- The options of `rm`. -/
def rmOptions : OptionTable where
  flags := "rRfvdiI"
  optional := "w\x11"
  long := longNames ("r=recursive f=force v=verbose d=dir w=interactive x=one-file-system "
    ++ "y=no-preserve-root \x11=preserve-root")

/-- When questions are asked, and whether what is missing is no fault. -/
def askingOf (a : Arguments) : Task (Asking × Bool) := do
  let mut asking := Asking.never
  let mut forced := false
  for (letter, value) in a.options do
    match letter with
    | 'f' =>
      asking := .never
      forced := true
    | 'i' =>
      asking := .always
      forced := false
    | 'I' =>
      asking := .once
      forced := false
    | 'w' =>
      let words := [["never", "no", "none"], ["once"], ["always", "yes"]]
      let word ← if value = "" then pure 'a'
        else Task.wordLetter "--interactive" words ['n', 'o', 'a'] value
      asking := if word = 'n' then .never else if word = 'o' then .once else .always
      if word != 'n' then forced := false
    | _ => pure ()
  return (asking, forced)

/-- Remove files and directories. -/
def rm : Utility := fun arguments => do
  let a ← Task.options rmOptions arguments
  let (asking, forced) ← askingOf a
  let r : Removal :=
    { deep := a.hasAny "rR", forced, verbose := a.has 'v', empties := a.has 'd', asking }
  if a.operands.isEmpty then
    if forced then Task.stop else Task.misuse "missing operand"
  let count := a.operands.length
  let going ←
    if asking = .once ∧ (r.deep ∨ 3 < count) then
      confirms ("remove " ++ toString count ++ (if count = 1 then " argument" else " arguments")
        ++ (if r.deep then " recursively" else ""))
    else pure true
  if going then a.operands.forM (removeName r)

/-- Remove one name. -/
def unlink : Utility := fun arguments => do
  let a ← Task.options { flags := "", long := longNames "" } arguments
  if a.operands.isEmpty then Task.misuse "missing operand"
  Task.atMost 1 a.operands
  let name := a.operands.headD ""
  let fail (text : String) : Task Unit :=
    Task.fail ("cannot unlink " ++ Quoting.always name ++ ": " ++ text)
  match ← findPlain name with
  | .error fault => fail (faultText fault)
  | .ok (_, .directory) => fail "Is a directory"
  | .ok (l, _) => Task.change ((← get).files.forget (· == l))

end ArtifactPipeline.Shell.Utility
