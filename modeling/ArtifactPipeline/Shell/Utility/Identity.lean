import ArtifactPipeline.Shell.Task

/-!
# Who, what and where

Programs that tell what surrounds them: the kind of machine and its system, the user and the user's groups,
the variables, and the working directory. There is one user, who may do everything.

* `uname` tells of the machine, `userNumbers` and `userGroups` of the user;
* `printenv` tells of the variables, `printDirectory` of the working directory.
-/

namespace ArtifactPipeline.Shell.Utility

/-- Only options make sense, and no operands. -/
def withoutOperands (t : OptionTable) (arguments : List String) : Task Arguments := do
  let a ← Task.options t arguments
  Task.atMost 0 a.operands
  return a

/-! ### Machine -/

/-- What is known of the machine: a letter for each entry, in the order in which entries are told. -/
def machineFacts : List (Char × String) :=
  [('s', "Linux"), ('n', "localhost"), ('r', "6.8.0"), ('v', "#1 SMP"), ('m', "x86_64"), ('p', "x86_64"),
    ('i', "x86_64"), ('o', "GNU/Linux")]

/-- The options of `uname`. -/
def unameOptions : OptionTable where
  flags := "asnrvmpio"
  long := longNames ("a=all s=kernel-name s=sysname n=nodename r=kernel-release r=release v=kernel-version "
    ++ "m=machine p=processor i=hardware-platform o=operating-system")

/-- Facts of the machine. -/
def uname : Utility := fun arguments => do
  let a ← withoutOperands unameOptions arguments
  let wanted := if a.options.isEmpty then ['s'] else a.options.map Prod.fst
  let facts := machineFacts.filter fun fact => wanted.contains 'a' || wanted.contains fact.1
  Task.putLine (String.intercalate " " (facts.map Prod.snd))

/-- A program that tells one thing. -/
def telling (text : String) : Utility := fun arguments => do
  discard (withoutOperands { flags := "", long := longNames "" } arguments)
  Task.putLine text

/-- The kind of the machine. -/
def arch : Utility := telling "x86_64"

/-- The name of the user. -/
def whoami : Utility := telling "root"

/-- The number of processors. -/
def nproc : Utility := fun arguments => do
  let options : OptionTable := { flags := "", valued := "g", long := longNames "a=all g=ignore" }
  let a ← withoutOperands options arguments
  match (a.value? 'g').filter fun text => !text.toList.all Char.isDigit || text.isEmpty with
  | some text => Task.fail ("invalid number: " ++ Quoting.text text)
  | none => Task.putLine "1"

/-- The name of the machine. -/
def hostname : Utility := telling "localhost"

/-- The name of the one who has logged in; nobody has. -/
def logname : Utility := fun arguments => do
  discard (withoutOperands { flags := "", long := longNames "" } arguments)
  Task.complain "no login name"

/-- The terminal of the input; there is none. -/
def tty : Utility := fun arguments => do
  Task.faultsEndWith 2
  let a ← withoutOperands { flags := "s", long := longNames "s=silent s=quiet" } arguments
  if !a.has 's' then Task.putLine "not a tty"
  Task.ends 1

/-! ### User -/

/-- Whether a text names the user. -/
def isUser (name : String) : Bool := ["root", "0", "+0"].contains name

/-- The options of `id`. -/
def userOptions : OptionTable where
  flags := "agGnruzZ"
  long := longNames "g=group G=groups n=name r=real u=user z=zero Z=context"

/-- The numbers and names of the user. -/
def userNumbers : Utility := fun arguments => do
  let a ← Task.options userOptions arguments
  let choices := "ugG".toList.filter a.has
  if a.has 'Z' then Task.fail "--context (-Z) works only on an SELinux-enabled kernel"
  if 1 < choices.length then Task.fail "cannot print \x22only\x22 of more than one choice"
  if choices.isEmpty && a.hasAny "nr" then
    Task.fail "cannot print only names or real IDs in default format"
  if choices.isEmpty && a.has 'z' then Task.fail "option --zero not permitted in default format"
  let ending := if !a.has 'z' then "\n" else if a.has 'G' && 1 < a.operands.length then "\x00\x00" else "\x00"
  let text :=
    if choices.isEmpty then "uid=0(root) gid=0(root) groups=0(root)" else if a.has 'n' then "root" else "0"
  for name in (if a.operands.isEmpty then ["root"] else a.operands) do
    if isUser name then Task.putText (text ++ ending)
    else
      Task.complain (Quoting.text name ++ ": no such user"
        ++ (if name = "" then ": No such file or directory" else ""))

/-- The groups of users. -/
def userGroups : Utility := fun arguments => do
  let a ← Task.options { flags := "", long := longNames "" } arguments
  if a.operands.isEmpty then Task.putLine "root"
  for name in a.operands do
    if name = "root" then Task.putLine (name ++ " : root")
    else Task.complain (Quoting.text name ++ ": no such user")

/-! ### Variables -/

/-- Variables, all or some of them. -/
def printenv : Utility := fun arguments => do
  Task.faultsEndWith 2
  let a ← Task.sorted false { flags := "0", long := longNames "0=null" } arguments fun _ _ => pure ()
  let ending := if a.has '0' then "\x00" else "\n"
  let environment := (← get).environment
  if a.operands.isEmpty then
    for (name, value) in environment do Task.putText (name ++ "=" ++ value ++ ending)
  for name in a.operands do
    match environment.lookup name with
    | some value => Task.putText (value ++ ending)
    | none => Task.ends 1

/-! ### Directory -/

/-- Whether a path name holds no part that leads where it stands or upward. -/
def isStraight (name : String) : Bool :=
  Path.isAbsolute name && (Path.parts name).all fun part => part != "." && part != ".."

/-- The name of the working directory. -/
def printDirectory : Utility := fun arguments => do
  let a ← Task.options { flags := "LP", long := longNames "L=logical P=physical" } arguments
  if !a.operands.isEmpty then Task.remark "ignoring non-option arguments"
  let d ← get
  let here := d.files.workingDirectory
  let given := ((d.environment.lookup "PWD").filter isStraight).filter fun name =>
    match d.files.find (State.fileName name) with
    | .ok (l, .directory) => l == here
    | _ => false
  match (if (a.last? "LP").any (·.1 == 'L') then given else none) with
  | some name => Task.putLine name
  | none =>
    if (← Task.isDirectory ".") then Task.putLine (Octets.ofText (FileSystem.pathOf here))
    else Task.fail "couldn't find directory entry in '..' with matching i-node"

end ArtifactPipeline.Shell.Utility
