import ArtifactPipeline.Shell.SignalNames
import ArtifactPipeline.Shell.Variables

/-!
# Signals and jobs

A signal that is trapped makes the shell carry out a text as soon as a command has ended; any other
one ends the shell or does nothing. A job is a command that nobody waits for; here it has always ended
by the time that the next command is carried out, and what is left of it is its status.

* `receive` is what a signal does to the shell;
* `trap`, `kill`, `wait` and `jobs` are the commands for both.
-/

namespace ArtifactPipeline.Shell

/-! ### Names and numbers -/

/-- The number of a signal, by number or name. -/
def signalNumber? (text : String) : Option Nat :=
  match natural? text with
  | some n => if n < signalLimit then some n else none
  | none => signalNamed? text

/-- The number of a signal that can be sent; the name of the end of the shell stands for none. -/
def signalToSend? (text : String) : Option Nat :=
  (signalNumber? text).filter fun n => n != 0 || text.toList.head? == some '0'

/-- The signals that do nothing unless they are trapped. -/
def harmlessSignals : List Nat := [0, 17, 18, 23, 28]

/-! ### Traps -/

/-- Receive a signal. -/
def receive (n : Nat) : Eval Unit := do
  let s ← get
  match (s.shellTraps.getD s.traps).lookup n with
  | some action =>
    if action != "" then modify fun s => { s with pending := s.pending ++ [n] }
  | none => if !harmlessSignals.contains n then throw (.killed n)

/-- What to do on a signal, with no action for what is usual. -/
def State.setTrap (s : State) (n : Nat) (action : Option String) : State :=
  let others := s.traps.filter (·.1 != n)
  { s with traps := match action with
    | some text => (n, text) :: others
    | none => others }

/-- Say what to do on signals, up to the first one that makes no sense. -/
def setTraps (action : Option String) : List String → Eval Unit
  | [] => Eval.ended 0
  | signal :: signals => do
    match signalNumber? signal with
    | some n =>
      modify fun s => s.setTrap n action
      setTraps action signals
    | none =>
      Eval.writeReport ("trap: " ++ signal ++ ": bad trap")
      Eval.ended 1

/-- Say what to do on signals, or show it. -/
def trapCommand : Builtin := fun arguments => do
  let (_, arguments) ← optionsOf "" arguments
  match arguments with
  | [] =>
    for (n, action) in (← get).traps.mergeSort fun a b => a.1 ≤ b.1 do
      Eval.writeLine ("trap -- " ++ quotedValue action ++ " " ++ signalName n)
    Eval.ended 0
  | [signal] => setTraps none [signal]
  | "-" :: signals => setTraps none signals
  | action :: signals =>
    if (natural? action).any (· < signalLimit) then setTraps none (action :: signals)
    else setTraps (some action) signals

/-! ### Jobs -/

/-- The job that a text with a percent sign stands for. -/
def jobOf (text : String) : Eval Job := do
  let jobs := (← get).jobs
  let given (job? : Option Job) (fault : String) : Eval Job :=
    match job? with
    | some job => pure job
    | none => Eval.fail fault 2
  match text.toList with
  | ['%'] | ['%', '%'] | ['%', '+'] => given jobs.head? "No current job"
  | ['%', '-'] => given jobs.tail.head? "No previous job"
  | '%' :: digits =>
    let n := natural? (String.ofList digits)
    given (jobs.find? fun job => some job.place == n) ("No such job: " ++ text)
  | _ => Eval.fail ("No such job: " ++ text) 2

/-- Add a job, in the first place that is free. -/
def State.addJob (s : State) (process status : Nat) : State :=
  let s := s.freePlace
  let places := s.jobs.map Job.place
  let place := ((List.range (places.length + 1)).find? fun n => !places.contains (n + 1)).getD 0
  { s with
    jobs := { place := place + 1, process, status } :: s.jobs
    lastJob := some process }

/-- Wait for processes, of which none is still running. -/
def waitCommand : Builtin := fun arguments => do
  let (_, arguments) ← optionsOf "" arguments
  let learn (known : Job → Bool) : Eval Unit := modify fun s =>
    { s with jobs := s.jobs.map fun job => { job with isKnown := job.isKnown || known job } }
  if arguments.isEmpty then
    learn fun _ => true
    Eval.ended 0
  else
    let mut status := 127
    for a in arguments do
      let job? ← do
        if a.startsWith "%" then pure (some (← jobOf a))
        else
          let n ← requireNatural a
          pure ((← get).jobs.find? fun job => job.process == n)
      match job? with
      | some job =>
        status := job.status
        learn fun other => other.process == job.process
      | none => pure ()
    Eval.ended status

/-- A job, as it is shown. -/
def jobText (sign : Char) (job : Job) : String :=
  let state := if job.status = 0 then "Done" else "Done(" ++ toString job.status ++ ")"
  let text := "[" ++ toString job.place ++ "] " ++ String.singleton sign ++ " " ++ state
  text ++ String.ofList (List.replicate (33 - text.length) ' ')

/-- Show the jobs, from the last to the first, and forget them. -/
def jobsCommand : Builtin := fun arguments => do
  let (options, arguments) ← optionsOf "lp" arguments
  let jobs ← if arguments.isEmpty then pure (← get).jobs else arguments.mapM jobOf
  for job in jobs do
    if options.any (·.1 == 'p') then Eval.writeLine (toString job.process)
    else Eval.writeLine (jobText '+' job)
  modify fun s =>
    { s with jobs := s.jobs.filter fun job => !jobs.any fun shown => shown.place == job.place }
  Eval.ended 0

/-- Complain that a job cannot be brought back: jobs are not kept apart here. -/
def resumeCommand : Builtin := fun arguments => do
  let (_, arguments) ← optionsOf "" arguments
  discard (jobOf (arguments.headD "%"))
  Eval.fail ("job " ++ arguments.headD "(null)" ++ " not created under job control") 2

/-! ### Sending signals -/

/-- Send a signal to a process. Only the shell itself can be reached. -/
def sendSignal (n : Nat) (process : String) : Eval Bool := do
  let s ← get
  let number ← match process.toList with
    | '%' :: _ => pure (← jobOf process).process
    | '-' :: digits => requireNatural (String.ofList digits)
    | _ => requireNatural process
  let others := [1, s.process - 1]
  if number = s.process ∨ number = 0 then
    if n != 0 then receive n
    return true
  else if n = 0 && others.contains number then return true
  else
    Eval.report "No such process\n"
    return false

/-- Send a signal to processes. -/
def sendSignals (n : Nat) (processes : List String) : Eval Unit := do
  let mut good := true
  for p in processes do
    if !(← sendSignal n p) then good := false
  Eval.ended (if good then 0 else 1)

/-- How `kill` is used. -/
def killUsage : String :=
  "Usage: kill [-s sigspec | -signum | -sigspec] [pid | job]... or\nkill -l [exitstatus]"

/-- Show the names of the signals, or the name of one. -/
def showSignals (arguments : List String) : Eval Unit := do
  match arguments with
  | [] =>
    Eval.writeLine "0"
    for n in (List.range signalLimit).tail do Eval.writeLine (signalName n)
    Eval.ended 0
  | a :: _ =>
    let n ← requireNatural a
    let n := if 128 < n then n - 128 else n
    if 0 < n ∧ n < signalLimit then
      Eval.writeLine (signalName n)
      Eval.ended 0
    else Eval.fail ("invalid signal number or exit status: " ++ a) 2

/-- Send a signal, or show the names of signals. -/
def killCommand : Builtin := fun arguments => do
  let direct := match arguments with
    | a :: rest =>
      match a.toList with
      | '-' :: signal => (signalToSend? (String.ofList signal)).map (·, rest)
      | _ => none
    | [] => none
  match arguments, direct with
  | [], _ => Eval.fail killUsage 2
  | _, some (n, processes) =>
    if processes.isEmpty then Eval.fail killUsage 2 else sendSignals n processes
  | arguments, none =>
    let (options, rest) ← optionsOf "ls:" arguments
    for (_, value) in options.filter (·.1 == 's') do
      if (signalToSend? value).isNone then
        Eval.fail ("invalid signal number or name: " ++ value) 2
    let signal := (options.reverse.lookup 's').bind signalToSend?
    if options.any (·.1 == 'l') then
      if signal.isSome && !rest.isEmpty then Eval.fail killUsage 2 else showSignals rest
    else if rest.isEmpty then Eval.fail killUsage 2
    else sendSignals (signal.getD 15) rest

end ArtifactPipeline.Shell
