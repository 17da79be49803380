import ArtifactPipeline.Shell.Variables

/-!
# What surrounds the shell

The commands for what a process has besides its variables and its files: a working directory, a mask
for the permissions of new files, and limits.

The working directory has the name by which the way went there, with the parts for "here" and for the
directory above taken out of it, so that a link on the way is a part of the name.

* `logicalName` is the name of a directory after a change to another one.
-/

namespace ArtifactPipeline.Shell

/-! ### The working directory -/

/-- Take the parts of a name one after another; the parts so far are in reverse. -/
def takeParts (before : List String) (part : String) : List String :=
  if part = "" ∨ part = "." then before
  else if part = ".." then before.tail
  else part :: before

/-- What a name starts with if it is absolute: one slash, or two of them. -/
def rootOf (name : String) : String :=
  match name.toList with
  | '/' :: '/' :: '/' :: _ => "/"
  | '/' :: '/' :: _ => "//"
  | _ => "/"

/-- The name of a directory that is reached from the one with a name. -/
def logicalName (here name : String) : String :=
  let start := if Path.isAbsolute name then name else here
  let parts := (Path.parts start).foldl takeParts []
  let parts := if Path.isAbsolute name then parts else (Path.parts name).foldl takeParts parts
  rootOf start ++ String.intercalate "/" parts.reverse

/-- The name of the working directory on the way from the root. -/
def physicalName (s : State) : String := Octets.ofText (FileSystem.pathOf s.files.workingDirectory)

/-- Make a directory the working one; the answer says whether there is such a directory. -/
def enterDirectory (physical : Bool) (name : String) : Eval Bool := do
  let s ← get
  let name := if name.isEmpty then "." else name
  let target := if physical then name else logicalName s.directory name
  match s.files.find (State.fileName target) with
  | .ok (l, .directory) =>
    let before := s.directory
    let s := { s with files := { s.files with workingDirectory := l } }
    let after := if physical then physicalName s else target
    set { s with directory := after }
    Eval.assign "OLDPWD" before
    Eval.assign "PWD" after
    modify fun s => (s.expose "OLDPWD").expose "PWD"
    return true
  | _ => return false

/-- Whether a name is looked up in the directory that it starts from only. -/
def isAnchored (name : String) : Bool :=
  Path.isAbsolute name || ["", ".", ".."].contains ((Path.parts name).headD "")

/-- The directory that a name stands for among those in which directories are looked up, and whether
it is shown. -/
def searchDirectory (s : State) (name : String) : Option (String × Bool) :=
  match s.valueOf? "CDPATH" with
  | some path =>
    if isAnchored name then none
    else
      (colonParts path).findSome? fun d =>
        let whole := if d.isEmpty then name else d ++ "/" ++ name
        if s.files.hasDirectory (State.fileName whole) then some (whole, !d.isEmpty) else none
  | none => none

/-- Change the working directory. -/
def cdCommand : Builtin := fun arguments => do
  let (options, arguments) ← optionsOf "LP" arguments
  let s ← get
  let (name, shows) := match arguments with
    | [] => ((s.valueOf? "HOME").getD "", false)
    | "-" :: _ => ((s.valueOf? "OLDPWD").getD "", true)
    | name :: _ => (name, false)
  let (target, found) := (searchDirectory s name).getD (name, false)
  if ← enterDirectory (options.getLast?.any (·.1 == 'P')) target then
    if shows || found then Eval.writeLine (← get).directory
    Eval.ended 0
  else Eval.fail ("can't cd to " ++ name) 2

/-- Show the working directory. -/
def pwdCommand : Builtin := fun arguments => do
  let (options, _) ← optionsOf "LP" arguments
  let s ← get
  Eval.writeLine (if options.getLast?.any (·.1 == 'P') then physicalName s else s.directory)
  Eval.ended 0

/-! ### Masks -/

/-- The letters for what three bits of a mask leave. -/
def leftLetters (three : Nat) : String :=
  String.ofList ((['r', 'w', 'x'].zip [4, 2, 1]).filterMap fun (c, bit) =>
    if three / bit % 2 = 0 then some c else none)

/-- Show or change the mask for new files. -/
def umaskCommand : Builtin := fun arguments => do
  let (options, arguments) ← optionsOf "S" arguments
  let mask := (← get).files.umask
  let put (mask : Nat) : Eval Unit := do
    modify fun s => { s with files := { s.files with umask := Nat.land mask 511 } }
    Eval.ended 0
  match arguments with
  | [] =>
    Eval.writeLine
      (if options.isEmpty then Permission.digits mask
      else "u=" ++ leftLetters (mask / 64 % 8) ++ ",g=" ++ leftLetters (mask / 8 % 8) ++ ",o="
        ++ leftLetters (mask % 8))
    Eval.ended 0
  | text :: _ =>
    if text.toList.head?.any Char.isDigit then
      match Permission.octal? text.toList with
      | some n => put n
      | none => Eval.fail ("Illegal number: " ++ text) 2
    else
      let clauses := (Text.splitOn ',' text.toList).filter fun cs =>
        !cs.all fun c => (Permission.whoseBits? c).isSome
      let text' := String.intercalate "," (clauses.map String.ofList)
      let left := Permission.without 511 mask
      match if clauses.isEmpty then some left else Permission.change? false 0 text' left with
      | some n => put (Permission.without 511 n)
      | none => Eval.fail ("Illegal mode: " ++ text) 2

/-! ### Limits -/

/-- The letters of the limits. -/
def limitLetters : List Char := "tfdscmlpnvwr".toList

/-- The limits that are not without bounds from the start. -/
def startLimits : List (Char × String) :=
  [('s', "8192"), ('c', "0"), ('l', "8192"), ('n', "1048576"), ('r', "0")]

/-- A limit, soft and hard. -/
def limitOf (s : State) (letter : Char) : String × String :=
  let start := (startLimits.lookup letter).getD "unlimited"
  (s.limits.lookup letter).getD (start, start)

/-- Show or set a limit. -/
def ulimitCommand : Builtin := fun arguments => do
  let (options, arguments) ← optionsOf ("HSa" ++ String.ofList limitLetters) arguments
  let has (c : Char) : Bool := options.any (·.1 == c)
  let letter := ((options.reverse.map Prod.fst).find? limitLetters.contains).getD 'f'
  let (soft, hard) := limitOf (← get) letter
  match arguments with
  | [] => do
    Eval.writeLine (if has 'H' && !has 'S' then hard else soft)
    Eval.ended 0
  | [text] =>
    if has 'a' then Eval.fail "too many arguments" 2
    if text != "unlimited" && !text.toList.all Char.isDigit then Eval.fail "bad number" 2
    let value := if text = "unlimited" then text else toString (text.toNat?.getD 0)
    let new := (if has 'H' && !has 'S' then soft else value, if has 'S' && !has 'H' then hard else value)
    modify fun s => { s with limits := (letter, new) :: s.limits.filter (·.1 != letter) }
    Eval.ended 0
  | _ => Eval.fail "too many arguments" 2

end ArtifactPipeline.Shell
