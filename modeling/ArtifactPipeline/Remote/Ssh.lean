import ArtifactPipeline.Ending
import ArtifactPipeline.Remote.Backend
import ArtifactPipeline.Text.Blank
import ArtifactPipeline.Text.Lines

/-!
# Connections over ssh

A connection is carried by the two programs `ssh` and `scp`. Opening it starts a *control master*
behind a socket of its own; every later command and copy goes through the same socket, and closing
tells the master to exit. What the programs do is a parameter (`Tools`): nothing is assumed of it.

* `Client.masterArguments`, `Client.commandArguments`, `Client.copyArguments` and
  `Client.exitArguments` are the four kinds of command line;
* `follow` reads the lines of a command as they come and checks the limits after each one;
* `backend` makes a backend of the programs.
-/

namespace ArtifactPipeline.Remote.Ssh

/-- The two programs. -/
inductive Tool where
  | ssh
  | scp
deriving Repr, DecidableEq

/-- The name of a program. -/
def Tool.program : Tool → String
  | ssh => "ssh"
  | scp => "scp"

/-- One run of a program: what it writes and how it ends. The limits of a command are looked at
again and again while it runs; `elapsed` and `interrupts` say what is the case each time. -/
structure ToolRun where
  stdout : Bytes := []
  stderr : Bytes := []
  /-- Whether reading what the program writes breaks off, and why. -/
  fault : Option IoFault := none
  ending : Ending := .exited 0
  /-- How long the program has run at each look. -/
  elapsed : Nat → Duration := fun _ => .instant
  /-- Whether the user asks for the program to be stopped before each look. -/
  interrupts : Nat → Bool := fun _ => false

/-- What a program reported. -/
def ToolRun.report (r : ToolRun) : String := Text.Utf8.decodeLossy r.stderr

/-- What happens when a program is started. -/
structure Tools (ε : Type) where
  start : Tool → List String → Host ε → Except IoFault ToolRun × Host ε

/-- Start a program. No argument can hold the character zero. -/
def Tools.run {ε : Type} (tools : Tools ε) (tool : Tool) (arguments : List String)
    (host : Host ε) : Except IoFault ToolRun × Host ε :=
  if arguments.any fun a => a.toList.contains '\x00' then (.error .zeroInArgument, host)
  else tools.start tool arguments host

/-- One connection. -/
structure Client where
  target : Target
  /-- The socket of the control master. -/
  socket : String
  isOpen : Bool
deriving Repr, DecidableEq

namespace Client

/-- An option of ssh and scp. -/
def option (name value : String) : List String := ["-o", name ++ "=" ++ value]

/-- The options that every start of a program carries. -/
def commonArguments (c : Client) : List String :=
  option "ConnectTimeout" (toString c.target.connectTimeout)
    ++ option "ServerAliveInterval" (toString c.target.aliveInterval)
    ++ option "ServerAliveCountMax" (toString c.target.aliveCount)
    ++ option "BatchMode" "yes"
    ++ option "ControlPath" c.socket
    ++ (match c.target.keyPath with
      | some path => ["-i", path]
      | none => [])

/-- The options of every start of ssh. -/
def sshArguments (c : Client) : List String :=
  c.commonArguments ++ ["-p", toString c.target.port]

/-- The options of every start of scp. -/
def scpArguments (c : Client) : List String :=
  c.commonArguments ++ ["-q", "-P", toString c.target.port]

/-- Start the control master. -/
def masterArguments (c : Client) : List String :=
  c.sshArguments ++ option "ControlMaster" "yes" ++ option "ControlPersist" "yes"
    ++ ["-f", "-N", c.target.destination]

/-- Run a command. -/
def commandArguments (c : Client) (command : String) : List String :=
  c.sshArguments ++ [c.target.destination, "--", command]

/-- Copy a file. -/
def copyArguments (c : Client) (source target : String) : List String :=
  c.scpArguments ++ [source, target]

/-- Tell the control master to exit. -/
def exitArguments (c : Client) : List String :=
  c.sshArguments ++ ["-O", "exit", c.target.destination]

/-- A path on the remote host, as scp names it. -/
def remoteName (c : Client) (path : String) : String := c.target.destination ++ ":" ++ path

end Client

/-- What became of the program that carries a command. -/
inductive ChildFate where
  /-- It could not be started. -/
  | notStarted
  /-- It ended, and its end was waited for. -/
  | waited
  /-- It was killed, and its end was waited for. -/
  | killed
  /-- Nobody waits for it, and the host goes on showing it. -/
  | leftRunning
deriving Repr, DecidableEq

/-- What came of following a command. -/
structure Followed where
  lines : List String
  result : Except TransportFailure Output
  child : ChildFate

/-- The exit code by which ssh reports its own failures. -/
def sshErrorCode : Nat := 255

/-- What a program writes before reading breaks off. A line is lost when that happens within it. -/
def ToolRun.readBytes (r : ToolRun) : Bytes :=
  match r.fault with
  | none => r.stdout
  | some _ => (r.stdout.reverse.dropWhile (· != 0x0A)).reverse

/-- The lines that a program writes, as far as they can be read. -/
def ToolRun.lines (r : ToolRun) : List (Except IoFault String) :=
  let written := (Text.linesOf 0x0A 0x0D r.readBytes).map fun line =>
    match Text.Utf8.decode? line with
    | .ok text => .ok text
    | .error _ => .error .notText
  written ++ (r.fault.map .error).toList

variable {ε : Type}

/-- Look at the limits for the `i`-th time. -/
def look (limits : Limits) (run : ToolRun) (i : Nat) (host : Host ε) : LimitStatus × Host ε :=
  let host := if run.interrupts i then host.interrupt else host
  (limits.check host.interrupted (run.elapsed i), host)

/-- The exit code that stands for an ending; a signal has none of its own. -/
def exitCodeOf (e : Ending) : Int := (e.code?.map Int.ofNat).getD (-1)

/-- The result of a command that ended within its limits. -/
def concluded (run : ToolRun) : Except TransportFailure Output :=
  if run.ending = .exited sshErrorCode then .error (.ssh (Text.trimmed run.report))
  else .ok ⟨exitCodeOf run.ending, run.report⟩

/-- Read lines one by one, show each to the listener and look at the limits after it, for the
`i`-th time and on. `delivered` are the lines before. -/
def follow (limits : Limits) (listen : String → Host ε → Host ε) (run : ToolRun) :
    (i : Nat) → (delivered : List String) → List (Except IoFault String) → Host ε →
      Followed × Host ε
  | i, delivered, [], host =>
    let (status, host) := look limits run i host
    match status.failure? with
    | some cause => (⟨delivered, .error cause, .waited⟩, host)
    | none => (⟨delivered, concluded run, .waited⟩, host)
  | _, delivered, .error fault :: _, host =>
    (⟨delivered, .error (.io fault), .leftRunning⟩, host.abandon Tool.ssh.program)
  | i, delivered, .ok line :: rest, host =>
    let (status, host) := look limits run i (listen line host)
    match status.failure? with
    | some cause => (⟨delivered ++ [line], .error cause, .killed⟩, host)
    | none => follow limits listen run (i + 1) (delivered ++ [line]) rest host

/-- The failure of ssh to start. -/
def spawnFailure (fault : IoFault) : TransportFailure :=
  .ssh ("Failed to spawn SSH: " ++ fault.message)

/-- The event before the control master is started. -/
def openingEvent (t : Target) : Event :=
  ⟨.debug, "opening ssh control master", [("host", t.host), ("port", toString t.port)], none⟩

/-- The event after the control master failed. -/
def refusedEvent (t : Target) (report : String) : Event :=
  ⟨.debug, "ssh connect failed", [("host", t.host), ("stderr", Text.trimmed report)], none⟩

/-- Start the control master of a connection that is not open yet. -/
def Client.begin (tools : Tools ε) (c : Client) : Operation ε Client := fun host =>
  match tools.run .ssh c.masterArguments (host.note (openingEvent c.target)) with
  | (.error fault, host) => (.error (spawnFailure fault), host)
  | (.ok run, host) =>
    if run.ending.success then (.ok { c with isOpen := true }, host)
    else
      (.error (.connectionFailed c.target.destination),
        host.note (refusedEvent c.target run.report))

/-- Run a command over a connection. -/
def Client.exec (tools : Tools ε) (c : Client) (command : String) (limits : Limits)
    (listen : String → Host ε → Host ε) (host : Host ε) : Followed × Host ε :=
  match tools.run .ssh (c.commandArguments command) host with
  | (.error fault, host) => (⟨[], .error (spawnFailure fault), .notStarted⟩, host)
  | (.ok run, host) => follow limits listen run 0 [] run.lines host

/-- Copy a file over a connection. -/
def Client.copy (tools : Tools ε) (c : Client) (source target : String) : Operation ε Unit :=
  fun host =>
    match tools.run .scp (c.copyArguments source target) host with
    | (.error fault, host) => (.error (.transfer ("Failed to spawn scp: " ++ fault.message)), host)
    | (.ok run, host) =>
      if run.ending.success then (.ok (), host)
      else
        (.error (.transfer ("scp " ++ source ++ " -> " ++ target ++ " exited with "
          ++ run.ending.text ++ ": " ++ Text.trimmed run.report)), host)

/-- Copy a local file to the remote host. -/
def Client.put (tools : Tools ε) (c : Client) (localPath remotePath : String) : Operation ε Unit :=
  c.copy tools localPath (c.remoteName remotePath)

/-- Copy a remote file to the local host. -/
def Client.get (tools : Tools ε) (c : Client) (remotePath localPath : String) : Operation ε Unit :=
  c.copy tools (c.remoteName remotePath) localPath

/-- Close a connection, if it is open. It counts as closed whatever ssh answers. -/
def Client.close (tools : Tools ε) (c : Client) (host : Host ε) :
    Except TransportFailure Unit × Client × Host ε :=
  if c.isOpen then
    let shut := { c with isOpen := false }
    match tools.run .ssh c.exitArguments host with
    | (.error fault, host) => (.error (spawnFailure fault), shut, host)
    | (.ok run, host) =>
      if run.ending.success then (.ok (), shut, host)
      else
        (.error (.ssh ("control master exit failed: " ++ Text.trimmed run.report)), shut, host)
  else (.ok (), c, host)

/-- Let go of a connection: a control master that is still there is told to exit. -/
def Client.drop (tools : Tools ε) (c : Client) (host : Host ε) : Client × Host ε :=
  (c.close tools host).2

/-! ### The backend -/

/-- The socket of the connection with a number. -/
def socketOf (n : Nat) : String :=
  FileSystem.pathOf
    (FileSystem.temporaryDirectory ++ [FileSystem.temporaryName "stagewright-ssh-" n, "master.sock"])

/-- The connection with a number. -/
def clientAt (part : Part ε (List Client)) (n : Nat) (host : Host ε) : Client :=
  (part.get host.outside).getD n ⟨{}, socketOf n, false⟩

/-- Replace the connection with a number. -/
def setClient (part : Part ε (List Client)) (n : Nat) (c : Client) (host : Host ε) : Host ε :=
  { host with outside := part.set ((part.get host.outside).set n c) host.outside }

/-- Let go of the connection with a number. -/
def dropClient (part : Part ε (List Client)) (tools : Tools ε) (n : Nat) (host : Host ε) :
    Host ε :=
  let (c, host) := (clientAt part n host).drop tools host
  setClient part n c host

/-- Connections by the two programs. The connections are kept in a part of the outside world. -/
def backend (part : Part ε (List Client)) (tools : Tools ε) : Backend ε where
  connect target host :=
    let n := (part.get host.outside).length
    match Client.begin tools ⟨target, socketOf n, false⟩ host with
    | (.error cause, host) => (.error cause, host)
    | (.ok c, host) =>
      let clients := part.get host.outside
      (.ok clients.length, { host with outside := part.set (clients ++ [c]) host.outside })
  exec n command limits listen host :=
    let (followed, host) := (clientAt part n host).exec tools command limits listen host
    (⟨followed.lines, followed.result⟩, host)
  put n localPath remotePath host := (clientAt part n host).put tools localPath remotePath host
  get n remotePath localPath host := (clientAt part n host).get tools remotePath localPath host
  close n host :=
    let (result, c, host) := (clientAt part n host).close tools host
    (result, setClient part n c host)

end ArtifactPipeline.Remote.Ssh
