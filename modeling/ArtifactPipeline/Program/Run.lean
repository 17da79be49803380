import ArtifactPipeline.Catalogue
import ArtifactPipeline.Program.Arguments

/-!
# Running the program

The program reads its arguments, lays the configuration together and carries out one task. What it
writes and how it ends is a `Conclusion`. A failure is reported behind the word `Error`, and its
class decides the exit code; arguments that make no sense have an exit code of their own.
-/

namespace ArtifactPipeline.Program

open Config Remote

/-- What the program writes and how it ends. What local commands report on the program's own error
channel comes before the report. -/
structure Conclusion where
  stdout : Bytes := []
  report : String := ""
  exitCode : Nat := 0
deriving Repr, DecidableEq

namespace Conclusion

/-- An end without a report. -/
def success (stdout : Bytes) : Conclusion := { stdout }

/-- The end after a failure. -/
def ofFailure (f : Failure) : Conclusion :=
  { report := "Error: " ++ f.message ++ "\n", exitCode := f.exitCode }

/-- The end when there is no usable configuration. -/
def ofConfigFailure (f : ConfigFailure) : Conclusion :=
  { report := "Error loading config: " ++ f.message ++ "\n", exitCode := 1 }

/-- The exit code for arguments that make no sense. -/
def usageCode : Nat := 2

end Conclusion

/-- The line that a version request is answered with. -/
def versionLine : String := "stagewright 0.1.0\n"

/-- The lines that a request for help is answered with. -/
def helpText : String :=
  String.join [
    "Staged compiler driver with remote hardware emulation\n\n",
    "Usage: stagewright [OPTIONS] <COMMAND>\n\n",
    "Commands:\n",
    "  exec INPUT --from STATE --to STATE [-o FILE]  Turn INPUT from one state into another\n",
    "  stages                                        List the stages\n",
    "  config                                        Show the configuration\n\n",
    "Options:\n",
    "      --config FILE          Configuration file\n",
    "  -s, --set STAGE.KEY=VALUE  Set a stage option (repeatable)\n",
    "  -v, --verbose              Report more detail (repeatable)\n",
    "      --json-logs            Write log lines as JSON\n",
    "  -h, --help                 Show this text\n",
    "  -V, --version              Show the version\n"]

variable {ε : Type}

/-- The configuration file that is read when no other is named. -/
def defaultConfigPath (environment : List (String × String)) : String :=
  Path.join ((environment.lookup "HOME").getD "/tmp") ".config/stagewright/config.toml"

/-- The configuration of an invocation. -/
def contextOf (i : Invocation) (host : Host ε) : Except ConfigFailure Context :=
  let path := i.configPath.getD (defaultConfigPath host.environment)
  (Context.build host.files (some path) i.settings).map
    (·.withVerbosity (.ofVerbosity i.verbosity))

/-- Read a stream to its end. -/
def readAll (s : Stream) : Action (Host ε) Bytes := fun host =>
  match s.remaining host.files with
  | .ok bytes => (.done bytes, host)
  | .error fault => (.failed (.io fault), host)

/-- Open a file for writing and drop what it holds. -/
def createFile (path : String) : Action (Host ε) Node := Host.onFiles (·.openToWrite false path)

/-- The fault of a device that has no room. -/
def noRoom : IoFault := .other "No space left on device (os error 28)"

/-- Write octets to the end of a node that was opened. A device that is always full takes none. -/
def writeTo (n : Node) (bytes : Bytes) : Action (Host ε) Unit := Host.onFiles fun fs =>
  if n = .full ∧ bytes ≠ [] then .error noRoom else .ok ((), fs.append n bytes)

/-- Copy a stream to a file that was made for it, or to what the program writes. -/
def deliver (s : Stream) (output : Option String) : Action (Host ε) Bytes :=
  match output with
  | none => readAll s
  | some path => do
    let node ← createFile path
    let bytes ← readAll s
    writeTo node bytes
    return []

/-- Turn an artifact in one state into one in another. -/
def exec (b : Backend ε) (c : Context) (input source target : String) (output : Option String) :
    Action (Host ε) Bytes := do
  let registry ← Catalogue.registry b true c
  let result ← registry.runPath source target (.path input)
  let result ← Conversion.convertAction result .stream
  match result.asStream? with
  | some stream => deliver stream output
  | none =>
    .fail (.io (.other ("stage output is " ++ result.kind.display ++ ", not a stream")))

/-- The line that describes a stage. -/
def stageLine (info : StageInfo) : String :=
  info.source ++ " -> " ++ info.target ++ ": " ++ info.description ++ "\n"

/-- List the stages. -/
def listStages (b : Backend ε) (c : Context) : Action (Host ε) Bytes := do
  let registry ← Catalogue.registry b false c
  return Text.Utf8.encode (String.join (registry.stages.map fun stage => stageLine stage.info))

/-- Carry out a task. -/
def perform (b : Backend ε) (c : Context) : Task → Action (Host ε) Bytes
  | .exec input source target output => exec b c input source target output
  | .stages => listStages b c
  | .config => return Text.Utf8.encode (c.redacted ++ "\n")

/-- How a task ends. -/
def conclude : Outcome Bytes → Conclusion
  | .done stdout => .success stdout
  | .failed f => .ofFailure f
  | .crashed => { exitCode := 101 }

/-- Carry out an invocation. -/
def invoke (b : Backend ε) (i : Invocation) (host : Host ε) : Conclusion × Host ε :=
  match contextOf i host with
  | .error f => (.ofConfigFailure f, host)
  | .ok c =>
    let (outcome, host) := (perform b c i.task).run host
    (conclude outcome, host)

/-- Answer a request. -/
def answer (b : Backend ε) (request : Request) (host : Host ε) : Conclusion × Host ε :=
  match request with
  | .run i => invoke b i host
  | .help => (.success (Text.Utf8.encode helpText), host)
  | .version => (.success (Text.Utf8.encode versionLine), host)
  | .nothing => ({ report := helpText, exitCode := Conclusion.usageCode }, host)

/-- Answer arguments that make no sense. -/
def refuse (f : UsageFault) : Conclusion :=
  { report := "error: " ++ f.message ++ "\n\nFor more information, try '--help'.\n"
    exitCode := Conclusion.usageCode }

/-- An event as a configuration value. -/
def eventValue (e : Event) : Value :=
  .table ([
    ("level", .string e.level.name),
    ("message", .string e.message),
    ("fields", .table (e.fields.map fun (key, text) => (key, .string text)))]
    ++ e.channel.toList.map fun channel => ("target", .string channel))

/-- The line that is logged for an event. -/
def logLine (asJson : Bool) (e : Event) : String :=
  if asJson then (eventValue e).compact ++ "\n"
  else
    let fields := e.fields.map fun (key, text) => " " ++ key ++ "=" ++ text
    e.level.name ++ " " ++ e.message ++ String.join fields ++ "\n"

/-- The lines that a request logs. -/
def logOf (request : Request) (journal : Journal) : String :=
  match request with
  | .run i =>
    String.join ((journal.upTo (.ofVerbosity i.verbosity)).map (logLine i.jsonLogs))
  | .help | .version | .nothing => ""

/-- The names of the files that a request names itself. -/
def filesOf (environment : List (String × String)) : Request → List String
  | .run i =>
    let config := i.configPath.getD (defaultConfigPath environment)
    match i.task with
    | .exec input _ _ output => config :: input :: output.toList
    | .stages | .config => [config]
  | .help | .version | .nothing => []

/-- Run the program. -/
def run (b : Backend ε) (arguments : List String) (host : Host ε) : Conclusion × Host ε :=
  match parse arguments with
  | .ok request => answer b request host
  | .error f => (refuse f, host)

end ArtifactPipeline.Program
