import ArtifactPipeline.CommandLine
import ArtifactPipeline.Config.Context
import ArtifactPipeline.Remote.Backend
import ArtifactPipeline.Remote.Target

/-!
# The settings of the emulation

What the emulation stage reads from the configuration when it is built. The host program and the
remote host may be missing at that point; the first step of the stage asks for them. A port that is
given has to be a port (`portOf?`), and the tool chain has to be complete (`Toolchain.ofContext`).

The tool chain is the remote tools that compile and emulate a kernel and the device they work for; it
has the command lines by which they are run. Every command line first goes to the workspace.
-/

namespace ArtifactPipeline.Emulation

/-! ### The tool chain -/

/-- The name of the stage, under which it has its settings. -/
def stageName : String := "wdb"

/-- Remote tools and target device. -/
structure Toolchain where
  device : String
  setupCommands : String
  runtimeInclude : String
  vendorInclude : String
  runtimeLib : String
  emconfigutil : String
deriving Repr, DecidableEq

namespace Toolchain

/-- The tool chain of a configuration. Every part of it has to be given. -/
def ofContext (c : Config.Context) : Except Failure Toolchain := do
  let device ← c.require stageName "device"
  let setupCommands ← c.require stageName "setup_commands"
  let runtimeInclude ← c.require stageName "runtime_include"
  let vendorInclude ← c.require stageName "vendor_include"
  let runtimeLib ← c.require stageName "runtime_lib"
  let emconfigutil ← c.require stageName "emconfigutil"
  return { device, setupCommands, runtimeInclude, vendorInclude, runtimeLib, emconfigutil }

/-- Compile the host program. -/
def compileCommand (t : Toolchain) (workspace : String) : CommandLine :=
  .ofTokens ["cd " ++ workspace, "&&", "g++", "-I" ++ t.runtimeInclude, "-I" ++ t.vendorInclude,
    "-Wall -O0 -g -std=c++14 -fmessage-length=0", "host.cpp", "-o 'host'", "-L" ++ t.runtimeLib,
    "-lOpenCL -lpthread -lrt -lstdc++"]

/-- Write the configuration of the device. -/
def deviceConfigCommand (t : Toolchain) (workspace : String) : CommandLine :=
  .ofTokens ["cd " ++ workspace, "&&", t.emconfigutil, "--platform " ++ t.device, "--od ."]

/-- Emulate the kernel. -/
def emulateCommand (t : Toolchain) (workspace : String) : CommandLine :=
  .ofTokens ["cd " ++ workspace, "&&", t.setupCommands, "&&", "XCL_EMULATION_MODE=hw_emu",
    "./host", "kernel.xclbin", t.device]

/-- Where the emulator writes the waveforms. -/
def artifactPath (t : Toolchain) (workspace : String) : String :=
  workspace ++ "/" ++ t.device ++ "-0-kernel.wdb"

end Toolchain

/-! ### The settings -/

open Config

/-- The greatest number of a port. -/
def lastPort : Nat := 65535

/-- The number of a port that digits denote; a plus sign may stand before them. -/
def smallNumber? (text : List Char) : Option Nat :=
  let digits := match text with
    | '+' :: rest => rest
    | _ => text
  if digits.isEmpty || !digits.all Char.isDigit then none
  else
    let n := digits.foldl (fun n c => 10 * n + (c.toNat - '0'.toNat)) 0
    if n ≤ lastPort then some n else none

/-- The port that a value gives: a whole number, or a text of digits. -/
def portOf? (v : Value) : Option Nat :=
  let number := match v with
    | .int n => if 0 ≤ n ∧ n ≤ lastPort then some n.toNat else none
    | .string s => smallNumber? (Text.trim s.toList)
    | _ => none
  number.filter fun n => n ≠ 0

/-- The port in a configuration, if one is given. -/
def sshPort (c : Context) : Except Failure (Option Nat) :=
  match c.get? stageName "ssh_port" with
  | none => .ok none
  | some v =>
    match portOf? v with
    | some port => .ok (some port)
    | none =>
      .error (.config (.invalidValue (stageName ++ ".ssh_port")
        "a port number between 1 and 65535" v.compact))

/-- What the emulation stage works with. -/
structure Settings where
  /-- The source text of the host program. -/
  hostProgram : Option String
  target : Option Remote.Target
  /-- The configuration file of the runtime. -/
  runtimeConfig : String
  toolchain : Toolchain
deriving DecidableEq

/-- The remote host of a configuration. -/
def targetOf (c : Context) (port : Option Nat) : Option Remote.Target :=
  (c.getString? stageName "ssh_host").map fun host =>
    { host
      user := c.getString? stageName "ssh_username"
      keyPath := c.getString? stageName "ssh_key"
      port := port.getD 22 }

/-- The configuration file of the runtime that comes with the support files. -/
def defaultRuntimeConfig (c : Context) : String :=
  let root := ((c.global? "root_dir").bind Value.asString?).getD "."
  Path.join (Path.join (Path.join root "fud") "bitstream") "xrt.ini"

/-- Read the settings. -/
def Settings.ofContext (c : Context) : Except Failure Settings := do
  let port ← sshPort c
  let toolchain ← Toolchain.ofContext c
  return {
    hostProgram := c.getString? stageName "host"
    target := targetOf c port
    runtimeConfig := (c.getString? stageName "xrt").getD (defaultRuntimeConfig c)
    toolchain }

/-- The limits on the long commands of the emulation. -/
def limitsOf (c : Context) (cancellable : Bool) : Remote.Limits where
  timeout := ((c.get? stageName "timeout_seconds").bind Value.asNat?).map Duration.ofSeconds
  cancellable

end ArtifactPipeline.Emulation
