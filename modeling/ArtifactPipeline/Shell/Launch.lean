import ArtifactPipeline.Ending
import ArtifactPipeline.Shell.Batches
import ArtifactPipeline.Shell.Search
import ArtifactPipeline.Shell.Utility.Pauses

/-!
# Programs that carry out others

Some programs carry out another one: in another environment (`env`), on words that they read (`xargs`), for
a time (`timeout`), or in another way. All of it is stated for any way of carrying out a command by its name
and arguments (`launch` below), which tells how the command ended, or why it could not be carried out.

* `runCarrier` carries such a program out.
-/

namespace ArtifactPipeline.Shell

/-- How a program ended, or why it could not be carried out. -/
abbrev Outcome := Except IoFault Ending

/-- A way of carrying out a command by its name and arguments, in an environment. -/
abbrev Launcher := Environment → List String → Eval Outcome

/-- A program that has ended with a status. -/
def exits (status : Nat) : Eval Ending := return .exited status

/-- Write a line to the channel of reports. -/
def reportLines (lines : List String) : Eval Unit := lines.forM Eval.writeReport

/-- Write a text as the output of a program. -/
def putText (text : String) : Eval (Option IoFault) := Eval.writeNow 1 (Octets.bytes text)

/-- Report arguments that make no sense. -/
def misused (program : String) (status : Nat) (m : Misuse) : Eval Ending := do
  Eval.writeReport (program ++ ": " ++ m.text)
  if m.hints then
    Eval.writeReport ("Try '" ++ program ++ " --help' for more information.")
  exits status

/-- Report a command that cannot be carried out. -/
def missingCommand (program before : String) (fault : IoFault) : Eval Ending := do
  Eval.writeReport (program ++ ": " ++ before ++ ": " ++ faultText fault)
  exits (if fault = .notFound then 127 else 126)

/-- The directories in which programs look up others. -/
def Environment.path (e : Environment) : String := (e.lookup "PATH").getD "/bin:/usr/bin"

section Launching

variable (launch : Launcher) (environment : Environment)

/-- Carry a command out in the place of a program, with a report if it cannot be. -/
def runInstead (program before : String) (environment : Environment) (words : List String) : Eval Ending := do
  match ← launch environment words with
  | .ok ending => return ending
  | .error fault => missingCommand program (before ++ Quoting.text (words.headD "")) fault

/-! ### Another environment -/

/-- Where a directory is, or why it cannot be entered. -/
def directoryNamed (files : FileSystem) (name : Option String) : Except IoFault Location :=
  match name with
  | none => .ok files.workingDirectory
  | some d =>
    match files.find (State.fileName d) with
    | .ok (l, .directory) => .ok l
    | .ok _ => .error .notDirectory
    | .error fault => .error fault

/-- Show an environment. -/
def showEnvironment (s : Setting) (environment : Environment) : Eval Ending := do
  let ending := if s.zeros then "\x00" else "\n"
  match ← putText (String.join (environment.map fun b => b.1 ++ "=" ++ b.2 ++ ending)) with
  | none => exits 0
  | some fault =>
    Eval.writeReport ("env: write error: " ++ faultText fault)
    exits 125

/-- Carry a command out in another environment. -/
def runEnv (arguments : List String) : Eval Ending := do
  let text := arguments.foldl (fun n a => n + a.length + 1) 0
  match (do
    let s ← Setting.read environment (text + 2) {} arguments
    s.made environment) with
  | .error m => misused "env" 125 m
  | .ok (s, made) =>
    match s.misuse?, s.command with
    | some m, _ =>
      reportLines s.notes.reverse
      misused "env" 125 m
    | none, [] =>
      reportLines s.notes.reverse
      showEnvironment s made
    | none, name :: rest =>
      reportLines s.starting.notes.reverse
      let before := (← get).files
      match directoryNamed before s.directory with
      | .error fault =>
        Eval.writeReport ("env: cannot change directory to " ++ Quoting.text (s.directory.getD "")
          ++ ": " ++ faultText fault)
        exits 125
      | .ok l =>
        let enter (l : Location) : Eval Unit :=
          modify fun t => { t with files := { t.files with workingDirectory := l } }
        enter l
        let outcome ← launch made (name :: rest)
        enter before.workingDirectory
        match outcome with
        | .ok ending => return ending
        | .error fault =>
          let ending ← missingCommand "env" (Quoting.text name) fault
          if fault = .notFound && name.toList.contains ' ' then
            Eval.writeReport "env: use -[v]S to pass options in shebang lines"
          return ending

/-! ### Words of an input -/

/-- Carry a command out for each of some lists of words, up to the first one that cannot be. -/
def runBatches (shows : Bool) : (status : Nat) → List (List String) → Eval Nat
  | status, [] => return status
  | status, words :: rest => do
    let name := words.headD "echo"
    if shows then Eval.writeReport (String.intercalate " " (words.map Quoting.name))
    match ← launch environment words with
    | .error fault =>
      Eval.writeReport ("xargs: " ++ name ++ ": " ++ faultText fault)
      return if fault = .notFound then 127 else 126
    | .ok (.signalled n) =>
      Eval.writeReport ("xargs: " ++ name ++ ": terminated by signal " ++ toString n)
      return 125
    | .ok (.exited 255) =>
      Eval.writeReport ("xargs: " ++ name ++ ": exited with status 255; aborting")
      return 124
    | .ok (.exited n) => runBatches shows (if n = 0 then status else 123) rest

/-- Take all that is left of the input. -/
def takeInput : Eval (Except IoFault Bytes) := do
  let s ← get
  match s.toMachine.number? 0 with
  | some number =>
    let (found, machine) := s.toMachine.takeAll number
    set { s with toMachine := machine }
    return found
  | none => return .error badChannel

/-- The report on the octet zero among words. -/
def zeroReport : String :=
  "WARNING: a NUL character occurred in the input.  It cannot be passed through in the argument list.  "
    ++ "Did you mean to use the --null option?"

/-- What is wrong with an input in the end, after what could be read of it. -/
def inputReport (fault : IoFault) : String :=
  "error closing file" ++ if fault = badChannel then ": " ++ faultText fault else ""

/-- Carry a command out on words that are read. It has no input itself, unless the words are read from a
file. -/
def runXargs (arguments : List String) : Eval Ending := do
  let remark (text : String) : Eval Unit := Eval.writeReport ("xargs: " ++ text)
  match Batches.read arguments with
  | .error m => misused "xargs" 1 m
  | .ok b =>
    let b := b.bounded environment
    b.notes.reverse.forM remark
    let file := b.file.filter (· != "-")
    let before ← get
    let found ← match file with
      | some name => pure (before.files.read (State.fileName name))
      | none => takeInput
    match b.hindrance?, file, found with
    | some text, _, _ =>
      remark text
      exits 1
    | none, some name, .error .notFound =>
      remark ("Cannot open input file " ++ Quoting.always name ++ ": " ++ faultText .notFound)
      exits 1
    | none, _, found =>
      let text := Octets.ofBytes (found.toOption.getD [])
      if b.delimiter.isNone && text.toList.contains '\x00' then remark zeroReport
      let (lists, fault?) := b.lists text
      if file.isNone then
        modify fun s =>
          match s.toMachine.openNode .read .sink with
          | .ok (machine, number) => { s with toMachine := machine.connect 0 (some number) }
          | .error _ => s
      let environment := match b.slot with
        | some name => environment.put name "0"
        | none => environment
      let status ← runBatches launch environment b.shows 0 lists
      match fault? with
      | some text => remark text
      | none => pure ()
      modify fun s =>
        let machine := s.toMachine.connect 0 (before.toMachine.number? 0)
        { s with toMachine := machine.reclaim before.toMachine }
      match file, found with
      | none, .error fault =>
        remark (inputReport fault)
        exits 1
      | _, _ => exits (if fault?.isSome && (status = 0 || status = 123) then 1 else status)

/-! ### A limit of time -/

/-- What `timeout` is asked for. -/
structure TimeLimit where
  signal : Nat := 15
  /-- Whether the status of the command is kept. -/
  keeps : Bool := false
  speaks : Bool := false
  operands : List String := []

/-- Read the arguments of `timeout`. -/
def TimeLimit.read (arguments : List String) : Except Misuse TimeLimit := do
  let t : OptionTable := {
    flags := "vpf"
    valued := "ks"
    long := longNames "p=preserve-status f=foreground k=kill-after s=signal v=verbose" }
  match (t.read false (arguments.length + 1) arguments).checked with
  | .error fault => throw fault.misuse
  | .ok a =>
    let mut limit : TimeLimit := { keeps := a.has 'p', speaks := a.has 'v', operands := a.operands }
    for (letter, value) in a.options do
      if letter = 's' then
        match sentSignal? value with
        | some n => limit := { limit with signal := n }
        | none => throw { text := Quoting.text value ++ ": invalid signal" }
      if letter = 'k' && (Utility.interval? value).isNone then
        throw { text := "invalid time interval " ++ Quoting.text value }
    return limit

/-- Carry a command out that may take only so long. Only pauses take time. -/
def runTimeout (arguments : List String) : Eval Ending := do
  match TimeLimit.read arguments with
  | .error m => misused "timeout" 125 m
  | .ok limit =>
    match limit.operands with
    | most :: name :: rest =>
      match Utility.interval? most with
      | none => misused "timeout" 125 { text := "invalid time interval " ++ Quoting.text most }
      | some most =>
        let slept := if name = "sleep" then (rest.filterMap Utility.interval?).foldl (· + ·) 0 else 0
        if 0 < most && most < slept then
          if limit.speaks then
            Eval.writeReport ("timeout: sending signal " ++ signalName limit.signal ++ " to command "
              ++ Quoting.text name)
          if limit.signal = 9 then return .signalled 9
          else exits (if limit.keeps then 128 + limit.signal else 124)
        else runInstead launch "timeout" "failed to run command " environment (name :: rest)
    | _ =>
      Eval.writeReport "Try 'timeout --help' for more information."
      exits 125

/-! ### Other ways -/

/-- The level of care and the command that arguments of `nice` ask for. -/
def niceLevel : (fuel : Nat) → (level : Option String) → List String →
    Except OptionFault (Option String × List String)
  | 0, level, rest => .ok (level, rest)
  | _ + 1, level, [] => .ok (level, [])
  | fuel + 1, level, a :: rest =>
    let t : OptionTable := { flags := "", valued := "n", long := longNames "n=adjustment" }
    let cs := a.toList.tail
    let digits := if cs.head? = some '-' ∨ cs.head? = some '+' then cs.tail else cs
    if a.startsWith "-" ∧ digits.head?.any Char.isDigit then niceLevel fuel (some (String.ofList cs)) rest
    else
      match t.readOne? rest.head? a with
      | some found =>
        match found.fault with
        | some fault => .error fault
        | none =>
          niceLevel fuel (found.options.lookup 'n') (if found.usesNext then rest.tail else rest)
      | none => .ok (level, if a = "--" then rest else a :: rest)

/-- Carry a command out with care for others, which makes no difference here. -/
def runNice (arguments : List String) : Eval Ending := do
  match niceLevel (arguments.length + 1) none arguments with
  | .error fault => misused "nice" 125 fault.misuse
  | .ok (level, words) =>
    match level.filter fun text => (Batches.number 'n' text).toOption.isNone, words with
    | some text, _ => misused "nice" 125 ⟨"invalid adjustment " ++ Quoting.text text, false⟩
    | none, [] =>
      if level.isSome then
        misused "nice" 125 { text := "a command must be given with an adjustment" }
      else
        discard (putText "0\n")
        exits 0
    | none, words => runInstead launch "nice" "" environment words

/-- Why a size for what is held back makes no sense, if it does not. -/
def holdingFault? (letter : Char) (value : String) : Option Misuse :=
  if letter = 'i' ∧ value.startsWith "L" then some { text := "line buffering stdin is meaningless" }
  else
    let digits := value.toList.takeWhile Char.isDigit
    let suffix := String.ofList (value.toList.drop digits.length)
    let suffixes := ["", "B", "KB", "MB", "GB", "kB", "K", "M", "G", "k", "KiB", "MiB", "GiB"]
    if value = "L" ∨ (!digits.isEmpty ∧ suffixes.contains suffix) then none
    else some ⟨"invalid mode " ++ Quoting.text value, false⟩

/-- Carry a command out with another way of holding output back, which makes no difference here. -/
def runStdbuf (arguments : List String) : Eval Ending := do
  let t : OptionTable := {
    flags := ""
    valued := "ioe"
    long := longNames "i=input o=output e=error" }
  let a := t.read false (arguments.length + 1) arguments
  match a.options.findSome? fun o => holdingFault? o.1 o.2, a.fault, a.operands with
  | some m, _, _ => misused "stdbuf" 125 m
  | none, some fault, _ => misused "stdbuf" 125 fault.misuse
  | none, none, [] => misused "stdbuf" 125 { text := "missing operand" }
  | none, none, words =>
    if a.options.isEmpty then
      misused "stdbuf" 125 { text := "you must specify a buffering mode option" }
    else runInstead launch "stdbuf" "failed to run command " environment words

/-- Carry a command out in a session of its own, which makes no difference here. -/
def runSetsid (arguments : List String) : Eval Ending := do
  let t : OptionTable := { flags := "cfw", long := longNames "c=ctty f=fork w=wait" }
  match (t.read false (arguments.length + 1) arguments).checked with
  | .error fault => misused "setsid" 1 fault.misuse
  | .ok a =>
    match a.operands with
    | [] => misused "setsid" 1 { text := "no command specified" }
    | words =>
      match ← launch environment words with
      | .ok ending => return ending
      | .error fault => missingCommand "setsid" ("failed to execute " ++ words.headD "") fault

/-- Carry a command out that goes on when nobody listens any more, which makes no difference here. -/
def runNohup (arguments : List String) : Eval Ending := do
  let t : OptionTable := { flags := "", long := longNames "" }
  match (t.read false (arguments.length + 1) arguments).checked with
  | .error fault => misused "nohup" 125 fault.misuse
  | .ok a =>
    match a.operands with
    | [] => misused "nohup" 125 { text := "missing operand" }
    | words => runInstead launch "nohup" "failed to run command " environment words

/-! ### Places of programs -/

/-- The files that a name of a program leads to. -/
def placesOf (files : FileSystem) (path name : String) : List String :=
  let here (file : String) : Option String :=
    match searchFile files file with
    | .failed _ => none
    | _ => some file
  if name.toList.contains '/' then (here name).toList
  else (colonParts path).filterMap fun d => here ((if d.isEmpty then "." else d) ++ "/" ++ name)

/-- Show the files that names of programs lead to. -/
def runWhich (program : String) (arguments : List String) : Eval Ending := do
  let t : OptionTable := { flags := "as" }
  let a := t.read false (arguments.length + 1) arguments
  match a.fault with
  | some _ =>
    let bad := (arguments.find? fun a => a.startsWith "-" && (a.toList.tail.any (!"as".toList.contains ·))).getD ""
    let letter := (bad.toList.tail.find? (!"as".toList.contains ·)).getD '-'
    Eval.writeReport ("Illegal option -" ++ String.singleton letter)
    discard (putText ("Usage: " ++ program ++ " [-as] args\n"))
    exits 2
  | none =>
    let files := (← get).files
    let found := a.operands.map (placesOf files ((environment.lookup "PATH").getD usualPath))
    if !a.has 's' then
      for places in found do
        for file in (if a.has 'a' then places else places.take 1) do discard (putText (file ++ "\n"))
    exits (if found.isEmpty ∨ found.any List.isEmpty then 1 else 0)

/-! ### All of them -/

/-- Carry out a program that carries out another one; `file` is the name of its file. -/
def runCarrier (program file : String) (arguments : List String) : Eval Ending :=
  match program with
  | "env" => runEnv launch environment arguments
  | "xargs" => runXargs launch environment arguments
  | "timeout" => runTimeout launch environment arguments
  | "nice" => runNice launch environment arguments
  | "stdbuf" => runStdbuf launch environment arguments
  | "setsid" => runSetsid launch environment arguments
  | "which" => runWhich environment file arguments
  | _ => runNohup launch environment arguments

end Launching

end ArtifactPipeline.Shell
