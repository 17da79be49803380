import ArtifactPipeline.Shell.Connection
import ArtifactPipeline.Shell.Expansion

/-!
# Subshells

What is carried out apart from the shell: texts that are commands, commands whose end is not the end
of the shell, and commands whose output becomes a text. All of it is stated for any way of carrying
out a command (`inner` below).

* `carryText` carries out a text, line by line;
* `toItsEnd` carries something out to the end of the shell, whatever brings it about;
* `subshell` does so on a copy of the shell, and `capture` keeps what is written there;
* `redirected` connects channels for as long as something is carried out.
-/

namespace ArtifactPipeline.Shell

/-- How a command is carried out. -/
structure Mode where
  /-- Whether the status is asked for, so that a failure does not end the shell. -/
  tested : Bool := false
  /-- Whether the shell ends after the command. -/
  final : Bool := false

/-- A way of carrying out a command. -/
abbrev Carrier := Mode → Command → Eval Unit

section Carrying

variable (inner : Carrier)

/-! ### Texts -/

/-- Whether nothing but the end of a text is left. -/
def Reading.isOver (r : Reading) : Bool :=
  match r.held with
  | some .ended => true
  | _ => false

/-- Carry out the lines of a text; the answer says whether there was any command. -/
def carryLines (mode : Mode) : (fuel : Nat) → (any : Bool) → Reading → Eval Bool
  | 0, any, _ => return any
  | fuel + 1, any, r => do
    match nextLine { r with aliases := (← get).aliases } with
    | .error e =>
      modify fun s => { s with line := e.line }
      Eval.fail e.fault.message 2
    | .ok none => return any
    | .ok (some (.nothing, rest)) =>
      modify fun s => { s with documents := rest.documents }
      carryLines mode fuel any rest
    | .ok (some (body, rest)) =>
      modify fun s => { s with documents := rest.documents, readLine := rest.line }
      inner { mode with final := mode.final && rest.isOver } body
      carryLines mode fuel true rest

/-- Carry out a text. One without a command succeeds. -/
def carryText (mode : Mode) (text : String) : Eval Unit := do
  let outer ← get
  let r : Reading := { rest := text.toList, documents := outer.documents }
  if !(← carryLines inner mode (text.length + 2) false r) then Eval.ended 0
  modify fun s => { s with readLine := outer.readLine }

/-! ### Signals and the end -/

/-- Do what is to be done on the signals that have come. -/
def answerSignals : Eval Unit := do
  let s ← get
  if s.shellTraps.isNone then
    set { s with pending := [] }
    for n in s.pending do
      match s.traps.lookup n with
      | some action =>
        carryText inner {} action
        Eval.ended s.status
      | none => pure ()

/-- Carry something out, and take what ends the shell for the end of it. -/
def settled (x : Eval Unit) : Eval Unit := do
  try x
  catch flow =>
    match flow with
    | .exit n => Eval.ended n
    | .failed n => Eval.ended n
    | .returned n => Eval.ended n
    | .leaveLoops _ => pure ()
    | .nextRound _ => pure ()
    | .killed n => throw (.killed n)
    | .crashed n => throw (.crashed n)
    | .exhausted => throw .exhausted

/-- Carry something out, and what is to be done at the end of the shell after it. -/
def toItsEnd (x : Eval Unit) : Eval Unit := do
  settled x
  let s ← get
  match s.traps.lookup 0 with
  | some action =>
    set { s with traps := s.traps.filter (·.1 != 0) }
    settled do
      carryText inner {} action
      Eval.ended s.status
  | none => pure ()
  modify fun s => { s with status := s.status % 256 }

/-- The signals that are ignored. -/
def State.ignored (s : State) : List (Nat × String) := s.traps.filter (·.2 == "")

/-- Carry something out in a subshell. -/
def subshell (x : Eval Unit) : Eval Unit := fun outer =>
  let start := { outer with
    readLine := 1
    traps := outer.ignored
    shellTraps := some (outer.shellTraps.getD outer.traps) }
  let (result, s) := toItsEnd inner x start
  match result with
  | .error (.crashed n) => Eval.died n (s.afterSubshell outer)
  | result => (result, s.afterSubshell outer)

/-- What octets become as the text of a command inside a word. -/
def capturedText (bytes : Bytes) : String :=
  Octets.ofBytes ((bytes.filter (· != 0)).reverse.dropWhile (· == 0x0A)).reverse

/-- What a command writes in a subshell, without line breaks at its end. -/
def capture (body : Command) : Eval String := do
  match body with
  | .nothing => return ""
  | body =>
    modify State.freePlace
    let outer ← get
    let (machine, pipe, number) := outer.toMachine.openPipe
    set { outer with toMachine := machine }
    subshell inner do
      modify fun s => { s with toMachine := s.toMachine.connect 1 (some number) }
      inner { final := true } body
    let s ← get
    set { s with
      toMachine := s.toMachine.reclaim outer.toMachine
      substituted := s.status
      status := outer.status }
    return capturedText (s.toMachine.pipeContents pipe)

/-! ### Redirections -/

/-- Whether a text names a channel that can be shared, or says that there is none. -/
def namesChannel (text : String) : Bool :=
  match text.toList with
  | [c] => c == '-' || c.isDigit
  | _ => false

/-- A redirection with its target. -/
def connection : Redirect → Eval Connection
  | .mk channel mode target => do
    match mode with
    | .document n =>
      return ⟨channel, mode, ← expandText (capture inner) ((← get).documents.getD n [])⟩
    | .duplicate =>
      let text ← expandText (capture inner) target
      if !namesChannel text then
        modify fun s => { s with line := s.readLine }
        Eval.fail "Syntax error: Bad fd number" 2
      return ⟨channel, mode, text⟩
    | mode => return ⟨channel, mode, ← expandText (capture inner) target⟩

/-- Connect channels one after the other, up to the first that cannot be. -/
def connectAll : List Connection → Eval Bool
  | [] => return true
  | c :: cs => do
    match c.establish (← get) with
    | .ok s =>
      set s
      connectAll cs
    | .error text =>
      Eval.report text
      return false

/-- Carry something out with redirections, or something else if they fail. -/
def redirected (rs : List Redirect) (x failed : Eval Unit) : Eval Unit := do
  let cs ← rs.mapM (connection inner)
  let outer ← get
  let restore : Eval Unit := modify fun s =>
    let machine := cs.foldl (fun m c => m.connect c.channel (outer.toMachine.number? c.channel))
      s.toMachine
    { s with toMachine := machine.reclaim outer.toMachine }
  if ← connectAll cs then
    try x
    catch flow =>
      restore
      throw flow
    restore
  else
    restore
    failed

end Carrying

end ArtifactPipeline.Shell
