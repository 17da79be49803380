import ArtifactPipeline.Shell.Launch
import ArtifactPipeline.Shell.Subshell
import ArtifactPipeline.Shell.Variables

/-!
# Carrying out programs

A program is carried out on what is open, the files and the exported variables. A program can carry out
others, and the shell is one of them: a shell inside a shell is a process of its own, with its own
variables, which a signal can end without ending the outer one.

* `runTask` carries out a program of the machine, and `runShell` a shell;
* `runFound` carries out what the search for a name has found, and tells how it ended.
-/

namespace ArtifactPipeline.Shell

/-! ### Programs that carry out no others -/

/-- What a program reports when its output could not be written, and the status with which it ends then.
A program may not notice. -/
def unwritten (program called : String) (fault : IoFault) : Option (List String × Nat) :=
  let line (text : String) : String := called ++ ": " ++ text
  let usual := line ("write error: " ++ faultText fault)
  let closed := fault == badChannel
  match program with
  | "wc" | "md5sum" | "sha1sum" | "sha224sum" | "sha256sum" | "sha384sum" | "sha512sum" | "cksum" | "sum"
  | "du" => some ([if closed then usual else line "write error"], 1)
  | "sort" =>
    some ([line ("fflush failed: 'standard output': " ++ faultText fault), line "write error"], 2)
  | "cmp" | "diff" => if closed then none else some ([line ("standard output: " ++ faultText fault)], 2)
  | "sed" =>
    let work := if closed then "close" else "flush"
    some ([line ("couldn't " ++ work ++ " stdout: " ++ faultText fault)], 4)
  | "yes" => some ([line ("standard output: " ++ faultText fault)], 1)
  | "tee" => some ([line ("'standard output': " ++ faultText fault)], 1)
  | "rev" => if closed then none else some ([usual], 1)
  | "grep" | "egrep" | "fgrep" => some (["grep: write error: " ++ faultText fault], 2)
  | "ls" | "printenv" => some ([usual], 2)
  | "expr" => some ([usual], 3)
  | _ => some ([usual], 1)

/-- Carry out a program of the machine, under the name by which it was called. -/
def runTask (program called : String) (environment : Environment) (task : Task Unit) : Eval Ending := do
  let s ← get
  let (_, d) := (task.run.run { toMachine := s.toMachine, program := called, environment })
  set { s with toMachine := d.toMachine.reclaim s.toMachine }
  match d.outputFault.bind (unwritten program called) with
  | some (reports, status) =>
    reportLines reports
    exits status
  | none => exits d.status

/-! ### Shells inside shells -/

/-- The name of the working directory at the start of a shell: the one that a variable gives, if it
leads there. -/
def startDirectory (s : State) (environment : Environment) : String :=
  let given := (environment.lookup "PWD").filter fun name =>
    Path.isAbsolute name && match s.files.find (State.fileName name) with
      | .ok (l, .directory) => l == s.files.workingDirectory
      | _ => false
  given.getD (Octets.ofText (FileSystem.pathOf s.files.workingDirectory))

/-- The variables of a new shell. -/
def startBindings (s : State) (environment : Environment) : List (String × Variable) :=
  let plain := [("IFS", " \t\n"), ("PATH", usualPath), ("PS1", "# "), ("PS2", "> "), ("PS4", "+ "),
    ("OPTIND", "1"), ("PPID", toString (s.process - 1))]
  let own := ["IFS", "OPTIND", "PPID", "PWD"]
  let given := environment.filter fun (name, _) => isName name && !own.contains name
  let kept := plain.filter fun (name, _) => own.contains name || (given.lookup name).isNone
  kept.map (fun (name, value) => (name, { value := some value }))
    ++ given.map (fun (name, value) => (name, { value := some value, exported := true }))
    ++ [("PWD", { value := some (startDirectory s environment), exported := true })]

/-- How a shell is called. -/
structure Invocation where
  options : List Char := []
  /-- Whether the first operand is the text to carry out. -/
  takesText : Bool := false
  /-- Whether the text is read from the input even if there are operands. -/
  takesInput : Bool := false

/-- Take in a letter of an option. -/
def Invocation.letter (i : Invocation) (on : Bool) (c : Char) : Except String Invocation :=
  if c = 'c' then .ok { i with takesText := on }
  else if c = 's' then .ok { i with takesInput := on }
  else if c = 'l' then .ok i
  else if optionNames.any fun o => o.2 == c then
    let others := i.options.filter (· != c)
    .ok { i with options := if on then c :: others else others }
  else .error ("Illegal option " ++ String.ofList [if on then '-' else '+', c])

/-- The options and operands of a shell. -/
def Invocation.read : (fuel : Nat) → Invocation → List String → Except String (Invocation × List String)
  | 0, i, rest => .ok (i, rest)
  | _ + 1, i, [] => .ok (i, [])
  | fuel + 1, i, a :: rest =>
    match a.toList with
    | ['-'] => .ok (i, rest)
    | ['-', '-'] => .ok (i, rest)
    | sign :: letters =>
      if (sign = '-' ∨ sign = '+') ∧ !letters.isEmpty then
        let on := sign == '-'
        match letters, rest with
        | ['o'], name :: rest =>
          match optionNames.lookup name with
          | some c => do Invocation.read fuel (← i.letter on c) rest
          | none => .error ("Illegal option -o " ++ name)
        | letters, rest => do
          let i ← letters.foldlM (fun i c => i.letter on c) i
          Invocation.read fuel i rest
      else .ok (i, a :: rest)
    | [] => .ok (i, a :: rest)

/-- A new shell inside a shell. -/
def State.inner (outer : State) (environment : Environment) (i : Invocation) (name : String)
    (arguments : List String) : State where
  toMachine := outer.toMachine
  bindings := startBindings { outer with process := outer.lastProcess + 1 } environment
  name := name
  arguments := arguments
  options := i.options
  documents := outer.documents
  traps := outer.ignored
  process := outer.lastProcess + 1
  lastProcess := outer.lastProcess + 1
  directory := startDirectory outer environment
  rounds := outer.rounds

section Carrying

variable (inner : Carrier)

/-- Carry a text out in a shell of its own. -/
def runInner (environment : Environment) (i : Invocation) (name : String)
    (arguments : List String) (text : String) : Eval Ending := fun outer =>
  let start := outer.inner environment i name arguments
  let (result, s) := toItsEnd inner (carryText inner { final := true } text) start
  let after := { s.afterSubshell outer with pending := outer.pending }
  match result with
  | .error (.killed n) => (.ok (.signalled n), after)
  | .error (.crashed n) => (.ok (.signalled n), after)
  | .error flow => (.error flow, after)
  | .ok () => (.ok (.exited after.status), after)

/-- Carry out a shell as a program. -/
def runShell (environment : Environment) (path : String) (arguments : List String) : Eval Ending := do
  let fail (text : String) : Eval Ending := do
    Eval.writeReport (path ++ ": 0: " ++ text)
    exits 2
  match Invocation.read (arguments.length + 1) {} arguments with
  | .error text => fail text
  | .ok (i, operands) =>
    if i.takesText then
      match operands with
      | [] => fail "-c requires an argument"
      | text :: rest => runInner inner environment i (rest.head?.getD path) rest.tail text
    else
      match operands, i.takesInput with
      | file :: rest, false =>
        let s ← get
        match s.toMachine.openName .read (State.fileName file) with
        | .ok (machine, number) =>
          let (found, machine) := machine.takeAll number
          set { s with toMachine := machine.reclaim s.toMachine }
          match found with
          | .ok bytes => runInner inner environment i file rest (Octets.ofBytes bytes)
          | .error _ => exits 0
        | .error .notFound | .error .notDirectory => fail ("cannot open " ++ file ++ ": No such file")
        | .error fault => fail ("cannot open " ++ file ++ ": " ++ faultText fault)
      | operands, _ =>
        let bytes := (← takeInput).toOption.getD []
        runInner inner environment i path operands (Octets.ofBytes bytes)

/-- Carry out what a search has found, under the name by which it was called. -/
def runFound : (fuel : Nat) → Environment → (found : Search) → (path : String) → (arguments : List String) →
    Eval Outcome
  | 0, _, _, _, _ => throw .exhausted
  | fuel + 1, environment, found, path, arguments => do
    let launch : Launcher := fun environment words => do
      let name := words.headD ""
      if name = "" then return .error .notFound
      else
        let found := searchIn (← get).files environment.path name
        runFound fuel environment found name words.tail
    match found with
    | .failed fault => return .error fault
    | .script file =>
      match (← get).files.read (State.fileName file) with
      | .error fault => return .error fault
      | .ok bytes =>
        let words := interpreterOf bytes
        let name := words.headD ""
        runFound fuel environment (searchFile (← get).files name) name (words.tail ++ file :: arguments)
    | .program program file =>
      if ["sh", "dash", "bash"].contains program then .ok <$> runShell inner environment path arguments
      else
        match Utility.find? program with
        | some utility => .ok <$> runTask program path environment (utility arguments)
        | none => .ok <$> runCarrier launch environment program file arguments

/-- What becomes of the shell after a program: one that a signal has ended may end the shell, if nothing
is left to do. -/
def afterProgram (mode : Mode) : Ending → Eval Unit
  | .exited n => Eval.ended n
  | .signalled n => do
    let s ← get
    if mode.final && s.shellTraps.isNone && s.traps.isEmpty then throw (.killed n) else Eval.died n

end Carrying

end ArtifactPipeline.Shell
