import ArtifactPipeline.Ending
import ArtifactPipeline.Shell.Builtin
import ArtifactPipeline.Shell.Program

/-!
# The shell

A command is carried out by what it is: a simple one by its name, which the language, a function, the
shell or a program may know, and any other one by its parts. `carry` says how, given a way of carrying
out the parts; `run` ties the knot, to a depth that no sensible text reaches.

The parts of a pipeline are carried out one after another, each on what the one before it wrote, and
so are commands that nobody waits for.

* `Shell.execute` carries a text out and says what was written and how it ended.
-/

namespace ArtifactPipeline.Shell

/-- Make a report that starts with the name of a command while something is carried out. -/
def underName (name : String) (x : Eval Unit) : Eval Unit := do
  let outer := (← get).command
  let restore : Eval Unit := modify fun s => { s with command := outer }
  modify fun s => { s with command := some name }
  try x
  catch flow =>
    restore
    throw flow
  restore

/-- Carry out a command of the shell, and write what it held back; that this fails is reported. -/
def checkingOutput (name : String) (x : Eval Unit) : Eval Unit := do
  x
  if (← Eval.flush).isSome then
    Eval.report (name ++ ": I/O error")
    modify fun s => { s with status := Nat.lor s.status 1 }

/-- Carry something out whose faults only make it fail. -/
def failingOnly (x : Eval Unit) : Eval Unit := do
  try x
  catch flow =>
    match flow with
    | .failed n => Eval.ended n
    | flow => throw flow

/-- End the shell on a failure, if that is switched on and the status is not asked for. -/
def checkFailure (mode : Mode) : Eval Unit := do
  let s ← get
  if s.hasOption 'e' && !mode.tested && s.status != 0 then throw (.exit s.status)

/-! ### What names mean -/

/-- What the name of a command means. -/
inductive Meaning where
  | keyword
  | alias (value : String)
  | special
  | function
  | builtin
  | program (path : String)
  | nothing

/-- The names of the commands of the shell that do not belong to the language. -/
def regularNames : List String :=
  (regularBuiltins Utility.programs).map Prod.fst ++ ["alias", "command", "hash", "type", "unalias"]

/-- What the name of a command means. -/
def meaningOf (s : State) (name : String) : Meaning :=
  if keywords.contains name then .keyword
  else
    match s.aliases.lookup name with
    | some value => .alias value
    | none =>
      if specialCommands.contains name then .special
      else if (s.functions.lookup name).isSome then .function
      else if regularNames.contains name then .builtin
      else
        match searchProgram s name with
        | .program _ file => .program file
        | .script file => .program file
        | .failed _ => .nothing

/-- Show what a name means in words. -/
def describe (name : String) : Eval Bool := do
  let put (text : String) : Eval Bool := do
    Eval.writeLine (name ++ text)
    return true
  let s ← get
  match meaningOf s name with
  | .keyword => put " is a shell keyword"
  | .alias value => put (" is an alias for " ++ value)
  | .special => put " is a special shell builtin"
  | .function => put " is a shell function"
  | .builtin => put " is a shell builtin"
  | .program path =>
    put ((if s.programs.any (·.1 == name) then " is a tracked alias for " else " is ") ++ path)
  | .nothing =>
    Eval.writeLine (name ++ ": not found")
    return false

/-- Show what a name means, as a command would use it. -/
def locate (name : String) : Eval Unit := do
  let put (text : String) : Eval Unit := do
    Eval.writeLine text
    Eval.ended 0
  match meaningOf (← get) name with
  | .alias value => put ("alias " ++ name ++ "=" ++ quotedValue value)
  | .program path => put path
  | .nothing => Eval.ended 127
  | _ => put name

/-- Show what names mean. -/
def typeCommand : Builtin := fun names => do
  let mut good := true
  for name in names do
    if !(← describe name) then good := false
  Eval.ended (if good then 0 else 127)

/-- Give commands second names, or show them. -/
def aliasCommand : Builtin := fun arguments => do
  let put (name value : String) : Eval Unit := Eval.writeLine (name ++ "=" ++ quotedValue value)
  Eval.ended 0
  if arguments.isEmpty then
    for (name, value) in (← get).aliases.mergeSort fun a b => State.rank a.1 ≤ State.rank b.1 do
      put name value
  for a in arguments do
    match Text.splitOnce '=' a with
    | some (name, value) =>
      modify fun s => { s with aliases := s.aliases.filter (·.1 != name) ++ [(name, value)] }
    | none =>
      match (← get).aliases.lookup a with
      | some value => put a value
      | none =>
        Eval.writeReport ("alias: " ++ a ++ " not found")
        Eval.ended 1

/-- Take second names away. -/
def unaliasCommand : Builtin := fun arguments => do
  Eval.ended 0
  if arguments.head? = some "-a" then modify fun s => { s with aliases := [] }
  else
    for a in arguments do
      if ((← get).aliases.lookup a).isNone then
        Eval.writeReport ("unalias: " ++ a ++ " not found")
        Eval.ended 1
      modify fun s => { s with aliases := s.aliases.filter (·.1 != a) }

/-- The number by which a program is put in order among those that have been found. -/
def programRank (name : String) : Nat :=
  let codes := name.toList.map Char.toNat
  (16 * codes.headD 0 + codes.foldl (· + ·) 0) % 31

/-- Remember the file of a program. -/
def State.remember (s : State) (name file : String) : State :=
  if name.toList.contains '/' || s.programs.any (·.1 == name) then s
  else { s with programs := s.programs ++ [(name, file)] }

/-- Remember the file of the program that a name leads to; the answer says whether there is any. -/
def rememberProgram (name : String) : Eval Bool := do
  match searchProgram (← get) name with
  | .program _ file | .script file =>
    modify fun s => s.remember name file
    return true
  | .failed _ => return false

/-- Show or forget the programs that have been found, or look up others. -/
def hashCommand : Builtin := fun arguments => do
  let (options, names) ← optionsOf "r" arguments
  Eval.ended 0
  if !options.isEmpty then modify fun s => { s with programs := [] }
  else if names.isEmpty then
    for (_, file) in (← get).programs.mergeSort fun a b => programRank a.1 ≤ programRank b.1 do
      Eval.writeLine file
  else
    for name in names do
      let s ← get
      let known := specialCommands.contains name || regularNames.contains name
        || (s.functions.lookup name).isSome
      let found ← if known then pure true else rememberProgram name
      if !found then
        Eval.report (name ++ ": not found")
        Eval.ended 1

/-- Show a command before it is carried out, where that is switched on. -/
def trace (place : Option Nat) (words : List String) : Eval Unit := do
  let s ← get
  if s.hasOption 'x' then
    let start := (s.valueOf? "PS4").getD "+ "
    let start ← match textWord start with
      | .ok w => expandText (fun _ => pure "") w
      | .error _ => pure start
    let s ← get
    let bytes := Octets.bytes (start ++ String.intercalate " " words ++ "\n")
    match place with
    | some number =>
      match s.toMachine.writeTo number bytes with
      | .ok machine => set { s with toMachine := machine }
      | .error _ => pure ()
    | none => pure ()

section Carrying

variable (inner : Carrier)

/-! ### Programs and functions -/

/-- Report a command that cannot be carried out. -/
def noProgram (name : String) (fault : IoFault) : Eval Unit := do
  let looked := !name.toList.contains '/'
  let denied := fault == accessDenied
  let text := match fault with
    | .notFound | .notDirectory => "not found"
    | fault => faultText fault
  Eval.report (name ++ ": " ++ text)
  Eval.ended (if denied && !looked then 126 else 127)

/-- Carry out a program by the name of a command. -/
def carryProgram (mode : Mode) (name : String) (arguments : List String) : Eval Unit := do
  discard (rememberProgram name)
  let s ← get
  let depth := arguments.length + 20
  match ← runFound inner depth s.environment (searchProgram s name) name arguments with
  | .ok ending => afterProgram mode ending
  | .error fault => noProgram name fault

/-- The state after a function, with the variables that it made its own put back. -/
def State.afterFunction (s outer : State) : State :=
  let s := match s.scopes with
    | scope :: scopes =>
      scope.foldl (fun (s : State) (name, v) => s.restore name v) { s with scopes }
    | [] => s
  { s with
    arguments := outer.arguments
    loops := outer.loops
    calls := outer.calls
    optionIndex := outer.optionIndex
    optionOffset := outer.optionOffset }

/-- The most functions that are carried out one inside the other. -/
def callLimit : Nat := 1000

/-- Carry out a function. -/
def callFunction (mode : Mode) (body : Command) (arguments : List String) : Eval Unit := do
  let outer ← get
  if callLimit ≤ outer.calls then
    Eval.fail ("Maximum function recursion depth (" ++ toString callLimit ++ ") reached") 2
  set { outer with
    calls := outer.calls + 1
    arguments
    loops := 0
    scopes := [] :: outer.scopes
    optionIndex := 1
    optionOffset := none }
  let left ← try
      inner { tested := mode.tested } body
      pure none
    catch flow => pure (some flow)
  modify fun s => s.afterFunction outer
  match left with
  | none => pure ()
  | some (.returned n) => Eval.ended n
  | some flow => throw flow

/-! ### Commands that carry out others -/

/-- Carry out arguments as a text. -/
def evalCommand (mode : Mode) (arguments : List String) : Eval Unit :=
  carryText inner { tested := mode.tested } (String.intercalate " " arguments)

/-- Carry out a file in the shell itself. -/
def sourceCommand (mode : Mode) (arguments : List String) : Eval Unit := do
  match arguments with
  | [] => Eval.ended 0
  | name :: _ =>
    if !name.toList.contains '/' then Eval.fail (name ++ ": not found") 2
    let s ← get
    let text ← match s.toMachine.openName .read (State.fileName name) with
      | .ok (machine, number) => do
        let (found, machine) := machine.takeAll number
        set { s with toMachine := machine.reclaim s.toMachine }
        pure (Octets.ofBytes (found.toOption.getD []))
      | .error fault => Eval.fail (openFault false name fault) 2
    underName name do
      try carryText inner { tested := mode.tested } text
      catch flow =>
        match flow with
        | .returned n => Eval.ended n
        | flow => throw flow

/-- Carry out a program in the place of the shell. -/
def execCommand (arguments : List String) : Eval Unit := do
  match arguments with
  | [] => Eval.ended 0
  | name :: rest =>
    match searchProgram (← get) name with
    | .failed _ => pure ()
    | _ => modify fun s => { s with traps := s.ignored }
    carryProgram inner { final := true } name rest
    throw (.exit (← get).status)

/-- The commands that belong to the language and carry out others. -/
def carryingSpecial? (mode : Mode) (name : String) : Option Builtin :=
  match name with
  | "eval" => some (evalCommand inner mode)
  | "." => some (sourceCommand inner mode)
  | "exec" => some (execCommand inner)
  | _ => none

/-- A command that belongs to the language. -/
def special? (mode : Mode) (name : String) : Option Builtin :=
  match specialBuiltins.lookup name with
  | some b => some b
  | none => carryingSpecial? inner mode name

/-- A command of the shell that does not belong to the language, and carries out no others. -/
def regular? (name : String) : Option Builtin :=
  match name with
  | "type" => some typeCommand
  | "alias" => some aliasCommand
  | "unalias" => some unaliasCommand
  | "hash" => some hashCommand
  | name => (regularBuiltins Utility.programs).lookup name

/-- Carry out a command that is no function; whether it belongs to the language makes no difference.
-/
def carryOrdinary (mode : Mode) (name : String) (arguments : List String) : Eval Unit := do
  match special? inner mode name with
  | some b => failingOnly (underName name (checkingOutput name (b arguments)))
  | none =>
    match regular? name with
    | some b => failingOnly (underName name (checkingOutput name (b arguments)))
    | none =>
      modify State.freePlace
      carryProgram inner mode name arguments

/-- Show what the first of some names means. -/
def explain (inWords : Bool) (names : List String) : Eval Unit := checkingOutput "command" do
  match names with
  | [] => Eval.ended 0
  | name :: _ =>
    if inWords then Eval.ended (if ← describe name then 0 else 127) else locate name

/-- Carry out a command that is no function, or show what a name means. -/
def commandCommand (mode : Mode) : (fuel : Nat) → List String → Eval Unit
  | 0, _ => pure ()
  | fuel + 1, arguments => do
    match arguments with
    | [] => Eval.ended 0
    | "--" :: name :: rest => carryOrdinary inner mode name rest
    | "-p" :: rest => commandCommand mode fuel rest
    | "-v" :: names => explain false names
    | "-V" :: names => explain true names
    | name :: rest =>
      match name.toList with
      | '-' :: c :: _ =>
        failingOnly (underName "command" (Eval.fail ("Illegal option -" ++ String.singleton c) 2))
      | _ =>
        if name = "command" then commandCommand mode fuel rest
        else carryOrdinary inner mode name rest

/-! ### Simple commands -/

/-- Whether a word asks for assignments among the words after it. -/
def takesAssignments (w : Word) : Bool :=
  w.plain?.any fun name => ["export", "readonly", "local"].contains name

/-- The fields of the words of a simple command. An assignment to a variable that a command marks is
not cut. -/
def commandFields (words : List Word) : Eval (List String) := do
  match words with
  | first :: rest =>
    if takesAssignments first then
      let fields ← rest.mapM fun w => do
        match assignment? w with
        | some (name, value) => return [name ++ "=" ++ (← expandValue (capture inner) value)]
        | none => expandWord (capture inner) w
      return (← expandWord (capture inner) first) ++ fields.flatten
    else expandWords (capture inner) words
  | [] => return []

/-- Give variables values; the answer is the assignments as texts. -/
def assignAll (exports : Bool) : List (String × Word) → Eval (List String)
  | [] => return []
  | (name, w) :: rest => do
    let value ← expandValue (capture inner) w
    Eval.assign name value
    if exports then modify fun s => s.expose name
    return (name ++ "=" ++ value) :: (← assignAll exports rest)

/-- Carry something out with variables that have values for as long; it gets the assignments as
texts. -/
def withAssignments (assignments : List (String × Word)) (x : List String → Eval Unit) :
    Eval Unit := do
  let outer ← get
  let names := assignments.map Prod.fst
  let restore : Eval Unit := modify fun s =>
    names.foldl (fun s name => s.restore name (outer.bindings.lookup name)) s
  let texts ← assignAll inner true assignments
  try x texts
  catch flow =>
    restore
    throw flow
  if !names.isEmpty then restore

/-- Carry out a command by its name, which is followed by arguments. -/
def carryNamed (mode : Mode) (place : Option Nat) (assignments : List (String × Word)) (name : String)
    (arguments : List String) : Eval Unit := do
  match special? inner mode name with
  | some b =>
    let texts ← assignAll inner (name == "exec") assignments
    trace place (texts ++ name :: arguments)
    underName name (checkingOutput name (b arguments))
  | none =>
    withAssignments inner assignments fun texts => do
      trace place (texts ++ name :: arguments)
      match (← get).functions.lookup name with
      | some body => callFunction inner mode body arguments
      | none =>
        if name = "command" then commandCommand inner mode (arguments.length + 1) arguments
        else carryOrdinary inner mode name arguments

/-- Carry out a simple command. -/
def carrySimple (mode : Mode) (line : Nat) (assignments : List (String × Word)) (words : List Word)
    (rs : List Redirect) : Eval Unit := do
  modify fun s => { s with line, substituted := 0 }
  let fields ← commandFields inner words
  let place := (← get).toMachine.number? 2
  match fields with
  | [] =>
    redirected inner rs
      (do
        let texts ← assignAll inner false assignments
        if !texts.isEmpty then trace place texts
        modify fun s => { s with status := s.substituted })
      (Eval.ended 2)
  | ["exec"] =>
    let cs ← rs.mapM (connection inner)
    trace place ["exec"]
    if ← connectAll cs then
      discard (assignAll inner true assignments)
      Eval.ended 0
    else throw (.failed 2)
  | name :: arguments =>
    redirected inner rs (carryNamed inner mode place assignments name arguments) do
      if specialCommands.contains name then throw (.failed 2)
      Eval.ended 2

/-! ### Pipelines and loops -/

/-- The most rounds of a loop that writes to a pipe. Nobody is left to read what comes after so many.
-/
def pipedRounds : Nat := 100000

/-- Carry out the parts of a pipeline. -/
def carryParts (mode : Mode) : List Command → Eval Unit
  | [] => pure ()
  | [last] => subshell inner (inner { mode with final := true } last)
  | part :: rest => do
    let s ← get
    let (machine, pipe, number) := s.toMachine.openPipe
    set { s with toMachine := machine }
    try
      subshell inner do
        modify fun t =>
          { t with toMachine := t.toMachine.connect 1 (some number), rounds := pipedRounds }
        inner { mode with final := true } part
    catch flow =>
      match flow with
      | .exhausted => Eval.ended 141
      | flow => throw flow
    modify fun t =>
      let (machine, number) := t.toMachine.openRead pipe
      { t with toMachine := machine.connect 0 (some number) }
    carryParts mode rest
    modify fun t =>
      let machine := t.toMachine.connect 0 (s.toMachine.number? 0)
      { t with toMachine := machine.reclaim s.toMachine }

/-- Carry out a part of a loop; the answer says whether the loop goes on. -/
def goesOn (x : Eval Unit) : Eval Bool := do
  try
    x
    return true
  catch flow =>
    match flow with
    | .leaveLoops n => if n ≤ 1 then return false else throw (.leaveLoops (n - 1))
    | .nextRound n => if n ≤ 1 then return true else throw (.nextRound (n - 1))
    | flow => throw flow

/-- Carry out a loop, in which there is one loop more to leave. -/
def inLoop (x : Eval Unit) : Eval Unit := do
  let loops := (← get).loops
  let restore : Eval Unit := modify fun s => { s with loops }
  modify fun s => { s with loops := loops + 1 }
  try x
  catch flow =>
    restore
    throw flow
  restore

/-- Carry out rounds of a loop; `status` is the one of the body, as it was last carried out. -/
def carryRounds (mode : Mode) (whileTrue : Bool) (test body : Command) :
    (rounds : Nat) → (status : Nat) → Eval Unit
  | 0, _ => throw .exhausted
  | rounds + 1, status => do
    if !(← goesOn (inner { tested := true } test)) then Eval.ended status
    else if ((← get).status == 0) == whileTrue then
      let going ← goesOn (inner { tested := mode.tested } body)
      let status := (← get).status
      if going then carryRounds mode whileTrue test body rounds status
    else Eval.ended status

/-- Carry out a body for each of some values. -/
def carryEach (mode : Mode) (name : String) (body : Command) : List String → Eval Unit
  | [] => pure ()
  | value :: rest => do
    Eval.assign name value
    if ← goesOn (inner { tested := mode.tested } body) then carryEach mode name body rest

/-- Whether one of some patterns matches a text. -/
def matchesAny (subject : String) : List Word → Eval Bool
  | [] => return false
  | w :: rest => do
    if Pattern.matchesText (← expandPattern (capture inner) w) subject then return true
    else matchesAny subject rest

/-- Carry out the body of the first case with a pattern for a text. -/
def carryCases (mode : Mode) (subject : String) : List (List Word × Command) → Eval Unit
  | [] => Eval.ended 0
  | (patterns, body) :: rest => do
    if ← matchesAny inner subject patterns then
      match body with
      | .nothing => Eval.ended 0
      | body => inner mode body
    else carryCases mode subject rest

/-- Carry out a command that nobody waits for. -/
def carryBackground (body : Command) : Eval Unit := do
  let s ← get
  let number := s.lastProcess + 1
  subshell inner do
    let t ← get
    match t.toMachine.openNode .read .sink with
    | .ok (machine, opening) =>
      set { t with toMachine := machine.connect 0 (some opening), lastProcess := number }
    | .error _ => pure ()
    inner { final := true } body
  modify fun t => { t.addJob number t.status with status := 0 }

/-- Set the line of the command that is carried out. -/
def atLine (line : Nat) : Eval Unit := modify fun s => { s with line }

/-- Carry out a command, with a way of carrying out the commands in it. -/
def carryCommand (mode : Mode) : Command → Eval Unit
  | .nothing => pure ()
  | .simple line assignments words rs => do
    carrySimple inner mode line assignments words rs
    checkFailure mode
  | .pipeline parts => do
    modify State.freePlace
    carryParts inner mode parts
    checkFailure mode
  | .negated body => do
    inner { tested := true } body
    Eval.ended (if (← get).status = 0 then 1 else 0)
  | .both first second => do
    inner { tested := true } first
    if (← get).status = 0 then inner mode second
  | .either first second => do
    inner { tested := true } first
    if (← get).status ≠ 0 then inner mode second
  | .sequence first second => do
    inner { tested := mode.tested } first
    inner mode second
  | .background line body => do
    atLine line
    carryBackground inner body
  | .redirected line body rs => do
    atLine line
    redirected inner rs (inner { tested := mode.tested } body) (Eval.ended 2)
  | .subshell line body rs => do
    atLine line
    modify State.freePlace
    subshell inner (redirected inner rs (inner { mode with final := true } body) (Eval.ended 2))
    checkFailure mode
  | .conditional test yes no => do
    inner { tested := true } test
    if (← get).status = 0 then inner mode yes
    else
      match no with
      | .nothing => Eval.ended 0
      | no => inner mode no
  | .loop whileTrue test body => do
    let rounds := (← get).rounds
    inLoop (carryRounds inner mode whileTrue test body rounds 0)
  | .each line name words body => do
    atLine line
    match ← expandWords (capture inner) words with
    | [] => Eval.ended 0
    | values => inLoop (carryEach inner mode name body values)
  | .select line subject cases => do
    atLine line
    let text ← expandText (capture inner) subject
    carryCases inner mode text cases
  | .define _ name body => do
    modify fun s =>
      { s with functions := (name, body) :: s.functions.filter (·.1 != name), status := 0 }

/-- Carry out a command, and what is to be done on signals that have come by then. -/
def carry (mode : Mode) (body : Command) : Eval Unit := do
  if !(← get).hasOption 'n' then
    carryCommand inner mode body
    answerSignals inner

end Carrying

/-- Carry out a command, with commands inside commands up to a depth. -/
def run : (depth : Nat) → Carrier
  | 0 => fun _ _ => throw .exhausted
  | depth + 1 => carry (run depth)

/-- The depth up to which commands are carried out. -/
def depthLimit : Nat := 10000

/-- What came of carrying a text out. -/
structure Result where
  stdout : Bytes
  stderr : Bytes
  ending : Ending
  files : FileSystem

/-- Where a command reads from and writes to at its start. -/
structure Start where
  /-- The input, if there is any. -/
  input : Option Bytes
  /-- Whether the output goes to a pipe and not to a file. -/
  pipesOutput : Bool
  /-- Whether the reports go to a pipe and not to a file. -/
  pipesReports : Bool

/-- Open something new for a channel: a pipe for writing, or a file with octets in it. -/
def Machine.openNew (m : Machine) (channel : Nat) (piped : Bool) (bytes : Bytes) :
    Machine × Target :=
  let (m, target) :=
    if piped then
      let (m, p) := m.addPipe bytes
      (m, .pipe p)
    else ({ m with files := m.files.addContents bytes }, .node (.file m.files.contents.length))
  let (m, number) := m.addOpening { target, reads := !piped, writes := true }
  (m.connect channel (some number), target)

/-- All that was written to something that was opened. -/
def Machine.contentsOf (m : Machine) : Target → Bytes
  | .pipe p => m.pipeContents p
  | .node (.file id) => m.files.contentsOf id
  | .node _ => []

/-- What is open at the start, and where output and reports go. -/
def Start.machine (start : Start) (files : FileSystem) : Machine × Target × Target :=
  let m : Machine := { files }
  let m := match start.input with
    | some bytes => (m.openNew 0 false bytes).1
    | none =>
      let (m, number) := m.addOpening { target := .node .sink, reads := true }
      m.connect 0 (some number)
  let (m, output) := m.openNew 1 start.pipesOutput []
  let (m, reports) := m.openNew 2 start.pipesReports []
  (m, output, reports)

/-- The shell at its start. -/
def State.start (machine : Machine) (environment : Environment) : State :=
  let s : State := { toMachine := machine }
  { s with
    bindings := startBindings s environment
    directory := startDirectory s environment }

/-- Carry a text out on files, with variables. -/
def execute (text : String) (start : Start) (bindings : List (String × String))
    (files : FileSystem) : Result :=
  let environment := bindings.map fun (name, value) => (Octets.ofText name, Octets.ofText value)
  let carrier := run depthLimit
  let (machine, output, reports) := start.machine files
  let (outcome, s) := (toItsEnd carrier
    (carryText carrier { final := true } (Octets.ofText text))).run (State.start machine environment)
  let ending := match outcome with
    | .error (.killed signal) => .signalled signal
    | .error (.crashed signal) => .signalled signal
    | .error .exhausted => .signalled 9
    | _ => .exited s.status
  { stdout := s.toMachine.contentsOf output
    stderr := s.toMachine.contentsOf reports
    ending
    files := { s.files with
      workingDirectory := files.workingDirectory
      umask := files.umask } }

end ArtifactPipeline.Shell
