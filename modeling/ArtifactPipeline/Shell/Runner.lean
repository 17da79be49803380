import ArtifactPipeline.CommandLine
import ArtifactPipeline.Host
import ArtifactPipeline.Shell.Interpreter
import ArtifactPipeline.Stream

/-!
# Running local commands

A command line is run by the shell, on the octets of a stream if one is given. What the command
reports is collected, and becomes part of the failure when the command ends badly; a run that
reports much detail passes it through instead, and the failure has none.

* `run` waits for the command and yields what it wrote;
* `start` does not wait, and leaves its end to the caller.
-/

namespace ArtifactPipeline.Shell

/-- Runs local commands at a level of detail. -/
structure Runner where
  level : Level
deriving Repr, DecidableEq

/-- A command that was started: what it writes, and how it ends. -/
structure Child where
  stdout : Bytes
  ending : Ending
deriving Repr, DecidableEq

/-- What a run of a command yields. -/
inductive Yield where
  /-- The command has ended well, and this is what it wrote. -/
  | completed (stdout : Bytes)
  | running (child : Child)
deriving Repr, DecidableEq

namespace Yield

/-- What a command wrote that was waited for. -/
def completed? : Yield → Option Bytes
  | completed stdout => some stdout
  | running _ => none

/-- The command that was not waited for. -/
def running? : Yield → Option Child
  | running child => some child
  | completed _ => none

end Yield

namespace Runner

variable {ε : Type}

/-- Whether reports are passed through. -/
def passesStderr (r : Runner) : Bool := Level.debug ≤ r.level

/-- The event before a command. -/
def commandEvent (line : CommandLine) : Event := ⟨.debug, "shell", [("command", line)], none⟩

/-- The input of a command. -/
def inputOf (stdin : Option Stream) (fs : FileSystem) : Except IoFault (Option Bytes) :=
  match stdin with
  | some s => (s.remaining fs).map some
  | none => .ok none

/-- Carry a command line out; somebody may read what it writes as it writes it. -/
def carryOut (r : Runner) (line : CommandLine) (stdin : Option Stream) (isRead : Bool) :
    Action (Host ε) Shell.Result := fun host =>
  let host := host.note (commandEvent line)
  match inputOf stdin host.files with
  | .error fault => (.failed (.io fault), host)
  | .ok input =>
    if line.toList.contains '\x00' then (.failed (.io .zeroInArgument), host)
    else
      let start : Start := { input, pipesOutput := isRead, pipesReports := r.passesStderr }
      let result := Shell.execute line start host.environment host.files
      let passed := if r.passesStderr then result.stderr else []
      (.done result, { host with files := result.files, stderr := host.stderr ++ passed })

/-- Run a command line and wait for its end. -/
def run (r : Runner) (line : CommandLine) (stdin : Option Stream) : Action (Host ε) Bytes := do
  let result ← carryOut r line stdin false
  if result.ending.success then return result.stdout
  else
    let report := if r.passesStderr then "" else Text.Utf8.decodeLossy result.stderr
    .fail (.command line report)

/-- Start a command line. -/
def start (r : Runner) (line : CommandLine) (stdin : Option Stream) : Action (Host ε) Child := do
  let result ← carryOut r line stdin true
  return ⟨result.stdout, result.ending⟩

/-- A command line whose output goes where its reports go. -/
def divert (line : CommandLine) : CommandLine := line ++ " >&2"

/-- Run a command line with a choice of waiting and of diverting its output. -/
def shell (r : Runner) (line : CommandLine) (stdin : Option Stream) (wait diverted : Bool) :
    Action (Host ε) Yield := do
  let line := if diverted then divert line else line
  if wait then return .completed (← r.run line stdin)
  else return .running (← r.start line stdin)

end Runner

end ArtifactPipeline.Shell
