import ArtifactPipeline.Shell.Format
import ArtifactPipeline.Shell.Signal
import ArtifactPipeline.Shell.Surroundings
import ArtifactPipeline.Shell.Test

/-!
# Commands of the shell itself

The commands that the shell carries out itself, as far as they carry out no other commands. A
command that belongs to the language, such as `exit`, ends the shell when it is used wrongly; any
other one only fails.

* `builtin?` knows the commands by name.
-/

namespace ArtifactPipeline.Shell

/-! ### Output -/

/-- Write formatted arguments. -/
def printfCommand : Builtin := fun arguments => do
  let (_, arguments) ← optionsOf "" arguments
  match arguments with
  | [] => Eval.fail "usage: printf format [arg ...]" 2
  | format :: rest =>
    let p := Format.printf format rest
    for text in p.reports do Eval.report text
    Eval.writeBytes p.written
    if p.broken then
      discard Eval.flush
      throw (.failed 2)
    Eval.ended (if p.reports.isEmpty then 0 else 1)

/-- Write arguments with blanks between them. -/
def echoCommand : Builtin := fun arguments => do
  Eval.writeBytes (Format.echo arguments)
  Eval.ended 0

/-! ### Input -/

/-- A line of input. -/
structure InputLine where
  /-- The octets, each with a mark that says whether a backslash stood before it. -/
  chars : List (Char × Bool) := []
  /-- Whether the line has an end. -/
  complete : Bool := false
  /-- The number of octets that were read. -/
  used : Nat := 0

/-- Put an octet before a line, or none; so many octets were read for it. -/
def InputLine.after (l : InputLine) (c : Option (Char × Bool)) (used : Nat) : InputLine :=
  { l with
    chars := match c with
      | some c => c :: l.chars
      | none => l.chars
    used := l.used + used }

/-- Read a line. -/
def inputLine (raw : Bool) : Bytes → InputLine
  | [] => {}
  | b :: rest =>
    if b = 0x0A then { complete := true, used := 1 }
    else if b = 0x5C ∧ !raw then
      match rest with
      | [] => { used := 1 }
      | c :: rest =>
        (inputLine raw rest).after (if c = 0x0A then none else some (Char.ofUInt8 c, true)) 2
    else (inputLine raw rest).after (if b = 0 then none else some (Char.ofUInt8 b, false)) 1

/-- Whether a character of a line separates fields. -/
def separates (separators : List Char) (c : Char × Bool) : Bool :=
  !c.2 && separators.contains c.1

/-- Whether a character of a line is a blank that separates fields. -/
def separatesBlank (separators : List Char) (c : Char × Bool) : Bool :=
  separates separators c && [' ', '\t', '\n'].contains c.1

/-- The text of characters of a line. -/
def lineText (cs : List (Char × Bool)) : String := String.ofList (cs.map Prod.fst)

/-- A line after a separator and the blanks around it. -/
def afterSeparator (separators : List Char) (cs : List (Char × Bool)) : List (Char × Bool) :=
  let cs := cs.dropWhile (separatesBlank separators)
  match cs with
  | c :: rest =>
    if separates separators c then rest.dropWhile (separatesBlank separators) else cs
  | [] => []

/-- Share the fields of a line out among names; the last name gets all that is left. -/
def shareOut (separators : List Char) : List String → List (Char × Bool) → List (String × String)
  | [], _ => []
  | [name], cs =>
    let field := cs.takeWhile fun c => !separates separators c
    if (afterSeparator separators (cs.drop field.length)).isEmpty then [(name, lineText field)]
    else
      [(name, lineText (cs.reverse.dropWhile (separatesBlank separators)).reverse)]
  | name :: names, cs =>
    let field := cs.takeWhile fun c => !separates separators c
    (name, lineText field)
      :: shareOut separators names (afterSeparator separators (cs.drop field.length))

/-- Read a line of the input into variables. -/
def readCommand : Builtin := fun arguments => do
  let (options, names) ← optionsOf "p:r" arguments
  if names.isEmpty then Eval.fail "arg count" 2
  let s ← get
  let line := inputLine (options.any (·.1 == 'r')) ((s.toMachine.leftAt 0 none).toOption.getD [])
  set { s with toMachine := s.toMachine.advanceAt 0 line.used }
  let chars := line.chars.dropWhile (separatesBlank s.separators)
  for (name, value) in shareOut s.separators names chars do
    requireName name
    Eval.assign name value
  Eval.ended (if line.complete then 0 else 1)

/-! ### Leaving -/

/-- End the shell. -/
def exitCommand : Builtin := fun arguments => do
  match arguments with
  | [] => throw (.exit (← get).status)
  | a :: _ => throw (.exit (← requireNatural a))

/-- End a function. -/
def returnCommand : Builtin := fun arguments => do
  match arguments with
  | [] => throw (.returned (← get).status)
  | a :: _ => throw (.returned (← requireNatural a))

/-- Leave loops, or go on with the next round of one. -/
def leaveCommand (flow : Nat → Flow) : Builtin := fun arguments => do
  let n ← match arguments with
    | [] => pure 1
    | a :: _ => requireNatural a
  if n = 0 then Eval.fail ("Illegal number: " ++ arguments.head?.getD "0") 2
  let loops := (← get).loops
  Eval.ended 0
  if 0 < loops then throw (flow (min n loops))

/-! ### The table -/

/-- Carry out a test under one of its two names. -/
def testCommand (programs : List String) : Builtin := fun arguments => do
  match Test.evaluate programs (← get).toMachine (arguments.length + 1) arguments with
  | .ok true => Eval.ended 0
  | .ok false => Eval.ended 1
  | .error text => Eval.fail text 2

/-- Carry out a test in brackets. -/
def bracketCommand (programs : List String) : Builtin := fun arguments => do
  if arguments.getLast? = some "]" then testCommand programs arguments.dropLast
  else Eval.fail "missing ]" 2

/-- Do nothing, with a status. -/
def nothingCommand (status : Nat) : Builtin := fun _ => Eval.ended status

/-- The commands that belong to the language, as far as they carry out no other commands. -/
def specialBuiltins : List (String × Builtin) :=
  [(":", nothingCommand 0), ("break", leaveCommand .leaveLoops), ("continue", leaveCommand .nextRound),
    ("exit", exitCommand), ("export", exportVariables), ("local", ownVariables),
    ("readonly", fixVariables),
    ("return", returnCommand), ("set", setCommand), ("shift", shiftCommand),
    ("times", fun _ => do
      Eval.writeLine "0m0.000000s 0m0.000000s"
      Eval.writeLine "0m0.000000s 0m0.000000s"
      Eval.ended 0),
    ("trap", trapCommand), ("unset", removeNames)]

/-- The other commands of the shell, as far as they carry out no other commands. -/
def regularBuiltins (programs : List String) : List (String × Builtin) :=
  [("true", nothingCommand 0), ("false", nothingCommand 1), ("echo", echoCommand),
    ("printf", printfCommand), ("test", testCommand programs), ("[", bracketCommand programs),
    ("read", readCommand), ("cd", cdCommand), ("chdir", cdCommand), ("pwd", pwdCommand),
    ("kill", killCommand), ("wait", waitCommand), ("getopts", getopts), ("jobs", jobsCommand),
    ("umask", umaskCommand), ("ulimit", ulimitCommand), ("fg", resumeCommand), ("bg", resumeCommand)]

/-- The commands that carry out other commands. -/
def carryingCommands : List String :=
  [".", "eval", "exec", "command", "type", "alias", "unalias", "hash"]

end ArtifactPipeline.Shell
