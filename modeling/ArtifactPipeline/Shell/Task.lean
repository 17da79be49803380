import ArtifactPipeline.Shell.Connection
import ArtifactPipeline.Shell.Options
import ArtifactPipeline.Shell.Quoting

/-!
# Tasks

A program that a command names is a task: it reads its input and the files, changes files, and writes
output and reports in some order. How it ends is a status, which is zero unless something was
reported. A task can also stop before its end.

* `Task.readAll` reads operands, that is files or the input, one after the other;
* `Task.options` sorts arguments into options and operands.
-/

namespace ArtifactPipeline.Shell

/-- What a program works on. Texts are texts of octets. -/
structure Desk extends Machine where
  /-- The name under which the program was called, with which its reports start. -/
  program : String := ""
  environment : List (String × String) := []
  /-- Why output could not be written, if it could not. -/
  outputFault : Option IoFault := none
  status : Nat := 0
  /-- The status of the program once it has reported a fault. -/
  faultStatus : Nat := 1

/-- The work of a program; the exception is that it stops before its end. -/
abbrev Task := ExceptT Unit (StateM Desk)

/-- What a program reads: octets, or something that cannot be read. -/
abbrev Input := Except IoFault Bytes

namespace Task

/-- Work on what is open. -/
def onMachine {α : Type} (f : Machine → α × Machine) : Task α := modifyGet fun d =>
  let (a, machine) := f d.toMachine
  (a, { d with toMachine := machine })

/-! ### Writing -/

/-- Write output. -/
def put (bytes : Bytes) : Task Unit := modify fun d =>
  if bytes.isEmpty then d
  else
    match d.toMachine.write 1 bytes with
    | .ok machine => { d with toMachine := machine }
    | .error fault => { d with outputFault := some fault }

/-- Write a text as output. -/
def putText (text : String) : Task Unit := put (Octets.bytes text)

/-- Write a line as output. -/
def putLine (text : String) : Task Unit := putText (text ++ "\n")

/-- Write a text as a report. -/
def noteText (text : String) : Task Unit := modify fun d =>
  match d.toMachine.write 2 (Octets.bytes text) with
  | .ok machine => { d with toMachine := machine }
  | .error _ => d

/-- Write a line as a report. -/
def note (text : String) : Task Unit := noteText (text ++ "\n")

/-- Write a line as a report that starts with the name of the program. -/
def remark (text : String) : Task Unit := do note ((← get).program ++ ": " ++ text)

/-! ### Ending -/

/-- End with a status. -/
def ends (status : Nat) : Task Unit := modify fun d => { d with status }

/-- Stop. -/
def stop {α : Type} : Task α := throw ()

/-- From now on, faults lead to another status. -/
def faultsEndWith (status : Nat) : Task Unit := modify fun d => { d with faultStatus := status }

/-- Report a fault, and go on. -/
def complain (text : String) : Task Unit := do
  remark text
  ends (← get).faultStatus

/-- Report a fault, and stop. -/
def fail {α : Type} (text : String) : Task α := do
  complain text
  stop

/-- Point to help, and stop. -/
def seekHelp {α : Type} : Task α := do
  let d ← get
  note ("Try '" ++ d.program ++ " --help' for more information.")
  ends d.faultStatus
  stop

/-- Report arguments that make no sense, and stop. -/
def misuse {α : Type} (text : String) : Task α := do
  complain text
  seekHelp

/-! ### Reading -/

/-- Open what a path name leads to. -/
def openName (access : Access) (name : String) : Task (Except IoFault Nat) := onMachine fun m =>
  match m.openName access (State.fileName name) with
  | .ok (m, number) => (.ok number, m)
  | .error fault => (.error fault, m)

/-- Take all that is left to an opening. -/
def takeAll (number : Nat) : Task Input := onMachine fun m => m.takeAll number

/-- Take all that is left of the input. -/
def takeInput : Task Input := do
  match (← get).toMachine.number? 0 with
  | some number => takeAll number
  | none => return .error badChannel

/-- Write to an opening. -/
def writeTo (number : Nat) (bytes : Bytes) : Task (Except IoFault Unit) := onMachine fun m =>
  match m.writeTo number bytes with
  | .ok m => (.ok (), m)
  | .error fault => (.error fault, m)

/-- The node that a name leads to. -/
def find (name : String) : Task (Except IoFault (Location × Node)) := do
  return (← get).files.find (State.fileName name)

/-- Whether a name leads to a directory. -/
def isDirectory (name : String) : Task Bool := do
  return (← get).files.hasDirectory (State.fileName name)

/-- Change the files. -/
def change (files : FileSystem) : Task Unit := modify fun d => { d with files }

/-- Whether a name stands for the input. -/
def isInput (name : String) : Bool := name == "-"

/-- Open an operand for reading. -/
def openOperand (name : String) : Task (Except IoFault Nat) := do
  if isInput name then
    match (← get).toMachine.number? 0 with
    | some number => return .ok number
    | none => return .error badChannel
  else openName .read name

/-- The octets of an operand. -/
def readOperand (name : String) : Task Input := do
  match ← openOperand name with
  | .ok number => takeAll number
  | .error fault => return .error fault

/-- Give the file that a path name leads to these octets. -/
def writeFile (name : String) (bytes : Bytes) : Task (Except IoFault Unit) := do
  match ← openName .replace name with
  | .ok number => writeTo number bytes
  | .error fault => return .error fault

/-- Read operands, or the input when there are none, and do something with the octets of each. -/
def forOperands (names : List String) (failed : String → IoFault → Task Unit)
    (use : String → Bytes → Task Unit) : Task Unit := do
  for name in (if names.isEmpty then ["-"] else names) do
    match ← readOperand name with
    | .ok bytes => use name bytes
    | .error fault => failed name fault

/-- Report an operand that cannot be read. -/
def unreadable (name : String) (fault : IoFault) : Task Unit :=
  complain (Quoting.name name ++ ": " ++ faultText fault)

/-- The octets of all operands together, and reports on those that cannot be read. -/
def readAll (names : List String) : Task Bytes := do
  let mut all : Bytes := []
  for name in (if names.isEmpty then ["-"] else names) do
    match ← readOperand name with
    | .ok bytes => all := all ++ bytes
    | .error fault => unreadable name fault
  return all

/-- Only so many operands make sense; report the first one after them. -/
def atMost (n : Nat) (operands : List String) : Task Unit :=
  match operands[n]? with
  | some extra => misuse ("extra operand " ++ Quoting.text extra)
  | none => pure ()

/-! ### Arguments -/

/-- Sort arguments into options and operands. The options are taken one after the other, and then what
makes no sense is reported. -/
def sorted (mixed : Bool) (t : OptionTable) (arguments : List String)
    (take : Char → String → Task Unit) : Task Arguments := do
  let a := t.read mixed (arguments.length + 1) arguments
  for (letter, value) in a.options do take letter value
  match a.fault with
  | some fault => misuse fault.message
  | none => return a

/-- Sort arguments into options and operands, and check each option. -/
def optionsWith (t : OptionTable) (arguments : List String) (take : Char → String → Task Unit) :
    Task Arguments :=
  sorted true t arguments take

/-- Sort arguments into options and operands. -/
def options (t : OptionTable) (arguments : List String) : Task Arguments :=
  sorted true t arguments fun _ _ => pure ()

/-- The letter for a word or the start of one, which belongs to an option. Other words lead to the status
one in all programs. -/
def wordLetter (option : String) (groups : List (List String)) (letters : List Char) (word : String) :
    Task Char := do
  let entries := groups.zip letters
  let exact := entries.find? fun entry => entry.1.contains word
  let starts := entries.filter fun entry => entry.1.any fun name => Text.startsWith name word
  match exact, starts with
  | some entry, _ => return entry.2
  | none, [entry] => return entry.2
  | none, found =>
    Task.complain ((if found.isEmpty then "invalid" else "ambiguous") ++ " argument "
      ++ Quoting.text word ++ " for " ++ Quoting.text option)
    faultsEndWith 1
    Task.note "Valid arguments are:"
    for names in groups do
      Task.note ("  - " ++ String.intercalate ", " (names.map Quoting.text))
    Task.seekHelp

end Task

/-- A program. -/
abbrev Utility := List String → Task Unit

end ArtifactPipeline.Shell
