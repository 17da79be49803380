import ArtifactPipeline.Emulation.Settings
import ArtifactPipeline.Remote.Session
import ArtifactPipeline.Script
import ArtifactPipeline.Stage

/-!
# The emulation stage

The emulation of a compiled kernel on a remote host turns a kernel file into the waveforms of one
run. It is a script over one session: connect, provision a workspace, copy the kernel, the host
program and the configuration of the runtime there, compile, write the device's configuration,
emulate, and fetch the waveforms. The release of the session is registered as soon as the connection
is open, so that it happens on every way out.
-/

namespace ArtifactPipeline.Emulation

open Remote

variable {ε : Type}

/-- Do something over a session that stays as it is. -/
def overSession {α : Type} (f : Session → Action (Host ε) α) : Action (Session × Host ε) α :=
  fun (s, host) =>
    let (outcome, host) := f s host
    (outcome, (s, host))

/-- The failure of a setting of the stage that was not given. -/
def missing (key : String) : Failure := .missingSetting (stageName ++ "." ++ key)

/-- A setting that has to be given. -/
def given {α : Type} (key : String) (setting : Option α) : Except Failure α :=
  match setting with
  | some a => .ok a
  | none => .error (missing key)

/-! ### The steps -/

/-- Make sure that the settings that only the user can give are given. -/
def checkConfig (settings : Settings) : Step ε where
  name := "check_config"
  description := "Make sure that \x60-s wdb.host\x60 and \x60-s wdb.ssh_host\x60 are provided"
  body := do
    let _ ← .ofExcept (given "host" settings.hostProgram)
    let _ ← .ofExcept (given "ssh_host" settings.target)
    return none

/-- Open the connection. -/
def connect (b : Backend ε) (settings : Settings) : Step ε where
  name := "connect"
  description := "Establish SSH connection"
  result := some .untyped
  body := do
    let target ← .ofExcept (given "ssh_host" settings.target)
    let connection ← Arguments.onHost (Session.lift (b.connect target))
    return some (.untyped (.session ⟨connection, none⟩))

/-- What the steps over a session declare first. -/
def sessionParameter : Parameter := ⟨"session", .untyped⟩

/-- What the steps in the workspace declare second. -/
def workspaceParameter : Parameter := ⟨"dir", .string⟩

/-- What provisioning declares. -/
def provisionSignature : Signature where
  name := "provision_remote_dir"
  description := "Create a temporary directory on the remote host"
  parameters := [sessionParameter]
  result := some .string

/-- Provision the workspace. -/
def provision (b : Backend ε) : Step ε where
  toSignature := provisionSignature
  body := do
    let workspace ← Arguments.withPayload .session provisionSignature 0 (Session.provision b)
    return some (.string workspace)

/-- What the upload declares. -/
def uploadSignature : Signature where
  name := "upload"
  description := "Copy the kernel, host source and runtime config to the remote host"
  parameters := [sessionParameter, workspaceParameter, ⟨"xclbin", .path⟩]

/-- Copy the three files that the run needs. -/
def upload (b : Backend ε) (settings : Settings) : Step ε where
  toSignature := uploadSignature
  body := do
    let workspace ← Arguments.text uploadSignature 1
    let kernel ← Arguments.path uploadSignature 2
    let hostProgram ← .ofExcept (given "host" settings.hostProgram)
    Arguments.withPayload .session uploadSignature 0 <| overSession fun s => do
      Session.put b s kernel (workspace ++ "/kernel.xclbin")
      Session.put b s hostProgram (workspace ++ "/host.cpp")
      Session.put b s settings.runtimeConfig (workspace ++ "/xrt.ini")
    return none

/-- What a command in the workspace declares. -/
def commandSignature (name description : String) : Signature where
  name := name
  description := description
  parameters := [sessionParameter, workspaceParameter]

/-- Run a command in the workspace. -/
def workspaceCommand (b : Backend ε) (limits : Limits) (signature : Signature)
    (command : String → CommandLine) :
    Action (Frame ε signature.parameters.length) (Option Source) := do
  let workspace ← Arguments.text signature 1
  Arguments.withPayload .session signature 0 <| overSession fun s =>
    Session.runLogged b s (command workspace) limits
  return none

/-- Compile the host program. -/
def compile (b : Backend ε) (settings : Settings) (limits : Limits) : Step ε where
  toSignature := commandSignature "compile_remote" "Compile the host code"
  body := workspaceCommand b limits _ settings.toolchain.compileCommand

/-- Write the configuration of the device. -/
def configureDevice (b : Backend ε) (settings : Settings) (limits : Limits) : Step ε where
  toSignature := commandSignature "generate_device_config" "Generate emconfig.json"
  body := workspaceCommand b limits _ settings.toolchain.deviceConfigCommand

/-- Emulate the kernel. -/
def emulate (b : Backend ε) (settings : Settings) (limits : Limits) : Step ε where
  toSignature := commandSignature "run_emulation" "Emulate the xclbin"
  body := workspaceCommand b limits _ settings.toolchain.emulateCommand

/-- Make a temporary directory, which belongs to the caller. -/
def temporaryDirectory (fs : FileSystem) : Except IoFault (String × FileSystem) :=
  (fs.freshLocation Conversion.temporaryBeginning).map fun l =>
    (FileSystem.pathOf l, fs.addDirectory l)

/-- Open a file for reading. -/
def openFile (path : String) (fs : FileSystem) : Except IoFault (Node × FileSystem) :=
  (fs.find path).map fun (_, node) => (node, fs)

/-- What the download declares. -/
def downloadSignature : Signature where
  name := "download_artifact"
  description := "Download the waveform database"
  parameters := [sessionParameter, workspaceParameter]
  result := some .stream

/-- Fetch the waveforms into a temporary directory, which is handed on with the stream. -/
def download (b : Backend ε) (settings : Settings) : Step ε where
  toSignature := downloadSignature
  body := do
    let workspace ← Arguments.text downloadSignature 1
    let remotePath := settings.toolchain.artifactPath workspace
    let directory ← Arguments.onHost (Host.onFiles temporaryDirectory)
    let localPath := Path.join directory "kernel.wdb"
    Arguments.withPayload .session downloadSignature 0 <| overSession fun s =>
      Session.get b s remotePath localPath
    let node ← Arguments.onHost (Host.onFiles (openFile localPath))
    return some (.stream ⟨.opened node 0, some localPath⟩)

/-- What the release declares. -/
def cleanupSignature : Signature where
  name := "cleanup"
  description := "Close SSH connection and remove the remote directory"
  parameters := [sessionParameter]
  release := true

/-- Release a session, as an action. -/
def releaseSession (b : Backend ε) : Action (Session × Host ε) Unit := fun (s, host) =>
  match Session.release b s host with
  | (.ok (), state) => (.done (), state)
  | (.error cause, state) => (.failed (.transport cause), state)

/-- Remove the workspace and close the connection. -/
def cleanup (b : Backend ε) : Step ε where
  toSignature := cleanupSignature
  body := do
    Arguments.withPayload .session cleanupSignature 0 (releaseSession b)
    return none

/-! ### The stage -/

/-- What the stage declares. -/
def info : StageInfo :=
  (StageInfo.between "xclbin" stageName .path .stream).describe "Runs Vivado hw emulation"

/-- What the stage does with a kernel file. -/
def body (b : Backend ε) (settings : Settings) (limits : Limits) :
    Action (Script ε × Host ε) Source := do
  let kernel := Script.input
  Script.perform (checkConfig settings) []
  let session ← Script.eval (connect b settings) []
  Script.defer (cleanup b) [session]
  let workspace ← Script.eval (provision b) [session]
  Script.perform (upload b settings) [session, workspace, kernel]
  Script.perform (compile b settings limits) [session, workspace]
  Script.perform (configureDevice b settings limits) [session, workspace]
  Script.perform (emulate b settings limits) [session, workspace]
  let waveforms ← Script.eval (download b settings) [session, workspace]
  Script.finish waveforms info.output

/-- The emulation stage with given settings. -/
def stage (b : Backend ε) (settings : Settings) (limits : Limits) : Stage ε :=
  ⟨info, fun input => Script.runWith info.name input (body b settings limits)⟩

/-- The emulation stage of a configuration. -/
def stageOf (b : Backend ε) (limits : Limits) (c : Config.Context) : Except Failure (Stage ε) :=
  (Settings.ofContext c).map fun settings => stage b settings limits

end ArtifactPipeline.Emulation
