import ArtifactPipeline.Remote.Backend
import ArtifactPipeline.Text.Blank
import ArtifactPipeline.Text.Lines

/-!
# A fake remote host

A remote host that lives in memory, for trying stages out. It keeps directories and files, makes and
removes them on the two commands `mktemp -d` and `rm -rf`, answers other commands with texts that
were prepared, fails where it was told to fail, and records every call. All connections to it share
its one state, and `FakeHost.backend` makes a backend of it.
-/

namespace ArtifactPipeline.Remote

/-- An operation that is told to fail. -/
inductive Injection where
  | connect
  /-- Commands that contain the text fail. -/
  | exec (pattern : String)
  | put
  | get
  | close
deriving Repr, DecidableEq

/-- The operation of a name; for commands, those that contain a text. -/
def Injection.ofName? (name pattern : String) : Option Injection :=
  match name with
  | "connect" => some .connect
  | "exec" => some (.exec pattern)
  | "put" => some .put
  | "get" => some .get
  | "close" => some .close
  | _ => none

/-- The calls that a fake host has seen. -/
structure Calls where
  connects : Nat := 0
  execs : List String := []
  /-- Local and remote paths. -/
  puts : List (String × String) := []
  gets : List String := []
  closes : Nat := 0
deriving Repr, DecidableEq

/-- A remote host in memory. -/
structure FakeHost where
  injections : List Injection := []
  /-- What commands that contain a text write. -/
  responses : List (String × String) := []
  directories : List String := []
  files : List (String × Bytes) := []
  /-- How many directories have been made. -/
  made : Nat := 0
  calls : Calls := {}
deriving Repr, DecidableEq

namespace FakeHost

/-- Tell an operation to fail. -/
def inject (f : FakeHost) (i : Injection) : FakeHost :=
  { f with injections := f.injections ++ [i] }

/-- Prepare what commands that contain a text write. -/
def respond (f : FakeHost) (pattern stdout : String) : FakeHost :=
  { f with responses := f.responses ++ [(pattern, stdout)] }

/-- Put a file on the host. -/
def store (f : FakeHost) (path : String) (bytes : Bytes) : FakeHost :=
  { f with files := (path, bytes) :: f.files.filter (·.1 != path) }

/-- The octets of a file on the host. -/
def file? (f : FakeHost) (path : String) : Option Bytes := f.files.lookup path

/-- Whether a directory is on the host. -/
def hasDirectory (f : FakeHost) (path : String) : Bool := f.directories.contains path

/-- Whether a path is a given one or lies below it. -/
def isBelow (top path : String) : Bool := path == top || Text.startsWith path (top ++ "/")

/-- Remove what lies at a path or below it. -/
def removeTree (f : FakeHost) (top : String) : FakeHost :=
  { f with
    directories := f.directories.filter fun d => !isBelow top d
    files := f.files.filter fun entry => !isBelow top entry.1 }

/-- Make a directory with a new name. -/
def makeDirectory (f : FakeHost) : String × FakeHost :=
  let name := "/tmp/mock." ++ toString (f.made + 1)
  (name, { f with made := f.made + 1, directories := name :: f.directories.filter (· != name) })

/-- The first pattern of a failing command that a command contains. -/
def failingPattern? (f : FakeHost) (command : String) : Option String :=
  f.injections.findSome? fun
    | .exec pattern => if Text.contains command pattern then some pattern else none
    | _ => none

/-- What was prepared for a command. -/
def response (f : FakeHost) (command : String) : String :=
  match f.responses.find? fun entry => Text.contains command entry.1 with
  | some (_, stdout) => stdout
  | none => ""

/-- A command that ended well. -/
def ended : Output := ⟨0, ""⟩

/-- Carry a command out: what it writes, how it ends, and the host afterwards. -/
def perform (f : FakeHost) (command : String) : String × Output × FakeHost :=
  let f := { f with calls := { f.calls with execs := f.calls.execs ++ [command] } }
  match f.failingPattern? command with
  | some pattern => ("", ⟨1, "injected failure for \x60" ++ pattern ++ "\x60\n"⟩, f)
  | none =>
    if Text.trimmed command = "mktemp -d" then
      let (name, f) := f.makeDirectory
      (name ++ "\n", ended, f)
    else
      match Text.without? "rm -rf " command with
      | some target => ("", ended, f.removeTree (Text.trimmed target))
      | none => (f.response command, ended, f)

/-- Take a file from the local host. -/
def accept (f : FakeHost) (fs : FileSystem) (localPath remotePath : String) :
    Except TransportFailure Unit × FakeHost :=
  let f := { f with calls := { f.calls with puts := f.calls.puts ++ [(localPath, remotePath)] } }
  if f.injections.contains .put then
    (.error (.transfer ("injected failure uploading " ++ remotePath)), f)
  else
    let parent := match Text.splitLast '/' remotePath with
      | some (parent, _) => parent
      | none => ""
    if !f.hasDirectory parent then (.error (.transfer (parent ++ ": no such directory")), f)
    else
      match fs.read localPath with
      | .error fault => (.error (.transfer (localPath ++ ": " ++ fault.message)), f)
      | .ok bytes => (.ok (), f.store remotePath bytes)

/-- Look a file up for the local host. -/
def deliver (f : FakeHost) (remotePath : String) : Except TransportFailure Bytes × FakeHost :=
  let f := { f with calls := { f.calls with gets := f.calls.gets ++ [remotePath] } }
  if f.injections.contains .get then
    (.error (.transfer ("injected failure downloading " ++ remotePath)), f)
  else
    match f.file? remotePath with
    | none => (.error (.transfer (remotePath ++ ": no such file")), f)
    | some bytes => (.ok bytes, f)

/-- Count a connection. -/
def connect (f : FakeHost) (target : Target) : Except TransportFailure Nat × FakeHost :=
  let f := { f with calls := { f.calls with connects := f.calls.connects + 1 } }
  if f.injections.contains .connect then (.error (.connectionFailed target.destination), f)
  else (.ok f.calls.connects, f)

/-- Count the end of a connection. -/
def close (f : FakeHost) : Except TransportFailure Unit × FakeHost :=
  let f := { f with calls := { f.calls with closes := f.calls.closes + 1 } }
  if f.injections.contains .close then
    (.error (.ssh "injected failure closing connection"), f)
  else (.ok (), f)

variable {ε : Type}

/-- Run a command on the fake host. The limits are checked once, before anything happens. -/
def exec (part : Part ε FakeHost) (command : String) (limits : Limits)
    (listen : String → Host ε → Host ε) (host : Host ε) : Delivery × Host ε :=
  match (limits.check host.interrupted .instant).failure? with
  | some cause => (⟨[], .error cause⟩, host)
  | none =>
    let (stdout, output, fake) := (part.get host.outside).perform command
    let host := { host with outside := part.set fake host.outside }
    let lines := Text.lines stdout
    (⟨lines, .ok output⟩, lines.foldl (fun host line => listen line host) host)

/-- Connections to a fake host that is a part of the outside world. -/
def backend (part : Part ε FakeHost) : Backend ε where
  connect target host :=
    let (result, fake) := (part.get host.outside).connect target
    (result, { host with outside := part.set fake host.outside })
  exec _ command limits listen host := exec part command limits listen host
  put _ localPath remotePath host :=
    let (result, fake) := (part.get host.outside).accept host.files localPath remotePath
    (result, { host with outside := part.set fake host.outside })
  get _ remotePath localPath host :=
    let (result, fake) := (part.get host.outside).deliver remotePath
    let host := { host with outside := part.set fake host.outside }
    match result with
    | .error cause => (.error cause, host)
    | .ok bytes =>
      match host.files.write localPath bytes with
      | .error fault => (.error (.io fault), host)
      | .ok files => (.ok (), { host with files })
  close _ host :=
    let (result, fake) := (part.get host.outside).close
    (result, { host with outside := part.set fake host.outside })

end FakeHost

end ArtifactPipeline.Remote
