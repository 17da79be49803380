import ArtifactPipeline.Remote.Backend
import ArtifactPipeline.Text.Blank

/-!
# Work in a session

What a stage does over an open connection. A command that ends badly is a failure that carries what
the command wrote to its error channel. The workspace is recorded when it has been provisioned, so
that `Session.release` knows what to remove: it removes the workspace, closes the connection in any
case, and reports the first of the two that went wrong.
-/

namespace ArtifactPipeline.Remote.Session

variable {ε : Type}

/-- The channel of what a remote command writes. -/
def stdoutChannel : String := "stagewright::remote::stdout"

/-- The channel of what a remote command reports. -/
def stderrChannel : String := "stagewright::remote::stderr"

/-- The event before a command. -/
def commandEvent (command : String) : Event := ⟨.debug, "remote", [("command", command)], none⟩

/-- The event for a line that a command wrote. -/
def lineEvent (line : String) : Event := ⟨.debug, line, [], some stdoutChannel⟩

/-- The command that provisions a workspace. -/
def provisionCommand : String := "mktemp -d"

/-- The command that removes a workspace. -/
def removeCommand (workspace : String) : String := "rm -rf " ++ workspace

/-- Look at how a command ended: its report is noted, and a bad end is a failure. -/
def check (command : String) (output : Output) : Action (Host ε) Unit := do
  if output.stderr ≠ "" then
    Host.record ⟨.debug, Text.trimmedEnd output.stderr, [], some stderrChannel⟩
  if output.success then return ()
  else .fail (.command command output.stderr)

/-- Run a command and hand over the lines that it wrote. -/
def exec (b : Backend ε) (s : Session) (command : String) (limits : Limits)
    (listen : String → Host ε → Host ε) : Action (Host ε) (List String) := fun host =>
  let (delivery, host) := b.exec s.connection command limits listen (host.note (commandEvent command))
  match delivery.result with
  | .error cause => (.failed (.transport cause), host)
  | .ok output => ((check command output).run host).map (·.map fun _ => delivery.lines) id

/-- Run a command and note every line that it writes. -/
def runLogged (b : Backend ε) (s : Session) (command : String) (limits : Limits) :
    Action (Host ε) Unit := do
  let _ ← exec b s command limits fun line => Host.note (lineEvent line)

/-- Run a command and collect what it writes. -/
def capture (b : Backend ε) (s : Session) (command : String) (limits : Limits) :
    Action (Host ε) String := do
  let lines ← exec b s command limits fun _ => id
  return String.join (lines.map (· ++ "\n"))

/-- Provision a workspace and record it. -/
def provision (b : Backend ε) : Action (Session × Host ε) String := fun (s, host) =>
  match (capture b s provisionCommand .unlimited).run host with
  | (.failed f, host) => (.failed f, (s, host))
  | (.crashed, host) => (.crashed, (s, host))
  | (.done written, host) =>
    let workspace := Text.trimmed written
    if workspace = "" then
      (.failed (.command provisionCommand "no directory name returned"), (s, host))
    else
      let event := ⟨.debug, "provisioned remote directory", [("remote_dir", workspace)], none⟩
      (.done workspace, ({ s with workspace := some workspace }, host.note event))

/-- An operation of the backend, as an action. -/
def lift {α : Type} (x : Operation ε α) : Action (Host ε) α := fun host =>
  match x host with
  | (.ok a, host) => (.done a, host)
  | (.error cause, host) => (.failed (.transport cause), host)

/-- Copy a local file to the remote host. -/
def put (b : Backend ε) (s : Session) (localPath remotePath : String) : Action (Host ε) Unit := do
  Host.record ⟨.debug, "upload", [("local", localPath), ("remote", remotePath)], none⟩
  lift (b.put s.connection localPath remotePath)

/-- Copy a remote file to the local host. -/
def get (b : Backend ε) (s : Session) (remotePath localPath : String) : Action (Host ε) Unit := do
  Host.record ⟨.debug, "download", [("remote", remotePath), ("local", localPath)], none⟩
  lift (b.get s.connection remotePath localPath)

/-- Remove the workspace, if there is one. A command that ends badly is only noted. -/
def remove (b : Backend ε) (s : Session) : Operation ε Unit := fun host =>
  match s.workspace with
  | none => (.ok (), host)
  | some workspace =>
    let (delivery, host) :=
      b.exec s.connection (removeCommand workspace) .unlimited (fun _ => id) host
    match delivery.result with
    | .error cause => (.error cause, host)
    | .ok output =>
      if output.success then (.ok (), host)
      else
        (.ok (), host.note ⟨.warn, "could not remove remote directory",
          [("remote_dir", workspace), ("stderr", Text.trimmed output.stderr)], none⟩)

/-- Remove the workspace and close the connection. Both are tried; the first failure counts. -/
def release (b : Backend ε) (s : Session) (host : Host ε) :
    Except TransportFailure Unit × Session × Host ε :=
  let (removed, host) := remove b s host
  let (closed, host) := b.close s.connection host
  let result := match removed with
    | .error cause => .error cause
    | .ok () => closed
  (result, { s with workspace := none }, host)

end ArtifactPipeline.Remote.Session
