import ArtifactPipeline.Files.Processes
import ArtifactPipeline.Shell.Machine
import ArtifactPipeline.Shell.Parser

/-!
# The state of the shell

Commands are carried out on a state that holds the files and what is open of them, the variables, and
the named commands. The shell's own input is the channel zero, its output the channel one, and its
reports go to the channel two.

What a command of the shell itself writes as output is held back until the command has ended
(`Eval.flush`), while reports are written at once.

`Eval` is the carrying out of something on the state. What keeps it from going on with the next
command is a `Flow`.
-/

namespace ArtifactPipeline.Shell

/-- A variable. One without a value can still be marked. -/
structure Variable where
  value : Option String := none
  /-- Whether programs see the variable. -/
  exported : Bool := false
  /-- Whether the value stays as it is. -/
  fixed : Bool := false
deriving Repr, DecidableEq

/-- A process that was started and not waited for. -/
structure Job where
  /-- The number under which it is shown. -/
  place : Nat
  process : Nat
  status : Nat
  /-- Whether its status has been asked for. -/
  isKnown : Bool := false

/-- What commands act on. Texts are texts of octets. -/
structure State extends Machine where
  bindings : List (String × Variable) := []
  /-- The name that stands before reports. -/
  name : String := "sh"
  arguments : List String := []
  functions : List (String × Command) := []
  /-- The letters of the options that are switched on. -/
  options : List Char := []
  /-- What was written as output and is held back, the latest first. -/
  unwritten : List Bytes := []
  /-- The status of the last command. -/
  status : Nat := 0
  /-- The status of the last command inside a word. -/
  substituted : Nat := 0
  documents : List Word := []
  /-- The line of the command that is carried out. -/
  line : Nat := 1
  /-- The line up to which the text has been read of which commands are carried out. -/
  readLine : Nat := 1
  /-- The command of the shell itself that is carried out. -/
  command : Option String := none
  /-- What to do on a signal, by its number; zero stands for the end of the shell. -/
  traps : List (Nat × String) := []
  /-- In a subshell, what the shell itself does on signals: they reach the shell, not the subshell. -/
  shellTraps : Option (List (Nat × String)) := none
  /-- The signals that have come and are trapped. -/
  pending : List Nat := []
  /-- The number of the shell, and the last one that was given to a process. -/
  process : Nat := FileSystem.ownProcess + 1
  lastProcess : Nat := FileSystem.ownProcess + 1
  /-- The commands that nobody waited for, the latest first. -/
  jobs : List Job := []
  /-- The number of the last of them. -/
  lastJob : Option Nat := none
  /-- For every function that is carried out, the variables that it has made its own, as they were
  before. -/
  scopes : List (List (String × Option Variable)) := []
  /-- The number of loops around the command, within the same function. -/
  loops : Nat := 0
  /-- The number of the argument at which options are read next, and how much of the one before it has
  been read, unless that is finished. -/
  optionIndex : Nat := 1
  optionOffset : Option Nat := none
  /-- The second names of commands. -/
  aliases : List (String × String) := []
  /-- The name of the working directory, as it was asked for. -/
  directory : String := "/"
  /-- The programs that have been found, with the names of their files. -/
  programs : List (String × String) := []
  /-- The limits that have been set, soft and hard, by their letters. -/
  limits : List (Char × String × String) := []
  /-- The most rounds of a loop; what writes to a pipe has fewer of them. -/
  rounds : Nat := 1000000
  /-- The number of functions that are being carried out. -/
  calls : Nat := 0

/-- Why carrying out does not go on with the next command. -/
inductive Flow where
  | exit (status : Nat)
  /-- The shell has reported a fault of its own. -/
  | failed (status : Nat)
  /-- A signal that was sent to the shell has ended it. -/
  | killed (signal : Nat)
  /-- A signal has ended the process in which something was carried out. -/
  | crashed (signal : Nat)
  /-- Leave this many loops. -/
  | leaveLoops (n : Nat)
  /-- Leave one loop fewer than this, and go on with the next round. -/
  | nextRound (n : Nat)
  | returned (status : Nat)
  | exhausted
deriving Repr, DecidableEq

/-- Carrying something out. -/
abbrev Eval := ExceptT Flow (StateM State)

/-- The parts of a text between its colons. -/
def colonParts (text : String) : List String :=
  (Text.splitOn ':' text.toList).map String.ofList

namespace State

/-- Whether an option is switched on. -/
def hasOption (s : State) (letter : Char) : Bool := s.options.contains letter

/-- The value of a variable. -/
def valueOf? (s : State) (name : String) : Option String :=
  (s.bindings.lookup name).bind Variable.value

/-- Put a variable in place of the one with the same name, or after all others. -/
def setVariable (s : State) (name : String) (v : Variable) : State :=
  if s.bindings.any (·.1 == name) then
    { s with bindings := s.bindings.map fun b => if b.1 = name then (name, v) else b }
  else { s with bindings := s.bindings ++ [(name, v)] }

/-- The number by which a variable is put in order among those that programs see. -/
def rank (name : String) : Nat :=
  let codes := name.toList.map Char.toNat
  (16 * codes.headD 0 + codes.foldl (· + ·) 0) % 39

/-- What programs see of the variables. -/
def environment (s : State) : List (String × String) :=
  let seen := s.bindings.filterMap fun (name, v) =>
    if v.exported then v.value.map (name, ·) else none
  seen.mergeSort fun a b => rank a.1 ≤ rank b.1

/-- Give a variable a value, whether it is fixed or not. -/
def assign (s : State) (name value : String) : State :=
  let v := (s.bindings.lookup name).getD {}
  let s :=
    match name with
    | "OPTIND" => { s with optionIndex := max 1 (value.toNat?.getD 1), optionOffset := none }
    | "PATH" => { s with programs := [] }
    | _ => s
  s.setVariable name { v with value := some value, exported := v.exported || s.hasOption 'a' }

/-- Let programs see a variable. -/
def expose (s : State) (name : String) : State :=
  s.setVariable name { (s.bindings.lookup name).getD {} with exported := true }

/-- Put a variable back as it was. -/
def restore (s : State) (name : String) (v : Option Variable) : State :=
  match v with
  | some v => s.setVariable name v
  | none => { s with bindings := s.bindings.filter (·.1 != name) }

/-- The letters of options, in the order in which they are shown. -/
def optionLetters : List Char := "pubaCEVvxsnmfe".toList

/-- The value of a parameter that is a single text, if it has one. -/
def parameter? (s : State) (name : String) : Option String :=
  match name with
  | "$" => some (toString s.process)
  | "?" => some (toString s.status)
  | "#" => some (toString s.arguments.length)
  | "0" => some s.name
  | "-" => some (String.ofList (optionLetters.filter s.hasOption))
  | "!" => s.lastJob.map toString
  | name =>
    match name.toNat? with
    | some n => s.arguments[n - 1]?
    | none => s.valueOf? name

/-- The characters at which fields are cut. -/
def separators (s : State) : List Char :=
  match s.valueOf? "IFS" with
  | some text => text.toList
  | none => [' ', '\t', '\n']

/-- The state after something was carried out apart from it: what that did to files and to what is
open stays. -/
def afterSubshell (inner outer : State) : State :=
  let files := { inner.files with
    workingDirectory := outer.files.workingDirectory
    umask := outer.files.umask }
  let machine : Machine := { inner.toMachine with files, channels := outer.channels }
  { outer with
    toMachine := machine.reclaim outer.toMachine
    documents := inner.documents
    lastProcess := inner.lastProcess
    pending := inner.pending
    status := inner.status }

/-- Make the first place free that can be used for a job: one that no job has, or the one of a job whose
status has been asked for. Such a job is forgotten. -/
def freePlace (s : State) : State :=
  let isUsed (n : Nat) : Bool := s.jobs.any fun job => job.place == n && !job.isKnown
  let place := ((List.range (s.jobs.length + 1)).map (· + 1)).find? fun n => !isUsed n
  { s with jobs := s.jobs.filter fun job => some job.place != place }

/-- The name of a file, as the file system knows it. -/
def fileName (name : String) : String := Octets.text name

end State

/-- What a signal that ends a process is called; some are not reported. -/
def deathText? (signal : Nat) : Option String :=
  match signal with
  | 1 => some "Hangup"
  | 3 => some "Quit"
  | 4 => some "Illegal instruction"
  | 5 => some "Trace/breakpoint trap"
  | 6 => some "Aborted"
  | 7 => some "Bus error"
  | 8 => some "Floating point exception"
  | 9 => some "Killed"
  | 10 => some "User defined signal 1"
  | 11 => some "Segmentation fault"
  | 12 => some "User defined signal 2"
  | 14 => some "Alarm clock"
  | 15 => some "Terminated"
  | _ => none

namespace Eval

variable {α : Type}

/-- Write octets to a channel at once; the answer is the fault that came of it. -/
def writeNow (channel : Nat) (bytes : Bytes) : Eval (Option IoFault) := do
  let s ← get
  match s.toMachine.write channel bytes with
  | .ok machine =>
    set { s with toMachine := machine }
    return none
  | .error fault => return some fault

/-- Write octets as output. -/
def writeBytes (bytes : Bytes) : Eval Unit :=
  modify fun s => { s with unwritten := bytes :: s.unwritten }

/-- Write a line as output. -/
def writeLine (text : String) : Eval Unit := writeBytes (Octets.bytes (text ++ "\n"))

/-- Write a line to the channel of reports. -/
def writeReport (text : String) : Eval Unit := discard (writeNow 2 (Octets.bytes (text ++ "\n")))

/-- Write the output that was held back; the answer is the fault that came of it. -/
def flush : Eval (Option IoFault) := do
  let bytes := (← get).unwritten.reverse.flatten
  modify fun s => { s with unwritten := [] }
  if bytes.isEmpty then return none else writeNow 1 bytes

/-- Set the status of the last command. -/
def ended (status : Nat) : Eval Unit := modify fun s => { s with status }

/-- Report something that concerns the shell itself. -/
def report (text : String) : Eval Unit := do
  let s ← get
  let command := match s.command with
    | some name => name ++ ": "
    | none => ""
  writeReport (s.name ++ ": " ++ toString s.line ++ ": " ++ command ++ text)

/-- Report a fault and give up. -/
def fail (text : String) (status : Nat) : Eval α := do
  report text
  discard flush
  throw (.failed status)

/-- Give a variable a value, unless it is fixed. -/
def assign (name value : String) : Eval Unit := do
  let s ← get
  if (s.bindings.lookup name).any Variable.fixed then fail (name ++ ": is read only") 2
  if name = "OPTIND" && !value.toList.all Char.isDigit then fail ("Illegal number: " ++ value) 2
  set (s.assign name value)

/-- Report what a signal is called that has ended a process, if it has a name for that, and set the status.
-/
def died (signal : Nat) : Eval Unit := do
  match deathText? signal with
  | some text => writeReport text
  | none => pure ()
  ended (128 + signal)

end Eval

end ArtifactPipeline.Shell
