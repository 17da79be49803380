import ArtifactPipeline.Config.Merge
import ArtifactPipeline.Config.Override
import ArtifactPipeline.Config.Redaction
import ArtifactPipeline.Config.Render
import ArtifactPipeline.Config.Value
import ArtifactPipeline.Digest.Sha
import ArtifactPipeline.Files.System
import ArtifactPipeline.Journal

/-!
# The configuration of a run

A `Context` holds the configuration that a run works with, laid together from the built-in
settings, a file and the command line, and the list of the layers that contributed. Stages look
their settings up by their own name and a key (`Context.get?`); a setting that is absent or null
counts as not given.

* `defaults` is the bottom layer: where the support files are, and the target device and tools of the
  emulation stage. Connection settings have no built-in value.
* `Context.build` reads a file, if it exists, and overrides;
* `Context.ofValue` lays one given value over the built-in settings;
* `Context.redacted` is the configuration as it may be shown.
-/

namespace ArtifactPipeline.Config

/-! ### Built-in settings -/

/-- The settings of the bottom layer. -/
structure Defaults where
  /-- The directory of the support files. -/
  rootDir : String := "."
  /-- The target device. -/
  device : String := "xilinx_u50_gen3x16_xdma_201920_3"
  /-- What the remote shell runs before the emulator. -/
  setupCommands : String :=
    "source /scratch/opt/Xilinx/Vitis/2020.2/settings64.sh && source /opt/xilinx/xrt/setup.sh"
  /-- The directory of the device's runtime headers. -/
  runtimeInclude : String := "/opt/xilinx/xrt/include"
  /-- The directory of the vendor's headers. -/
  vendorInclude : String := "/scratch/opt/Xilinx/Vivado/2020.2/include"
  /-- The directory of the device's runtime library. -/
  runtimeLib : String := "/opt/xilinx/xrt/lib"
  /-- The program that writes the device's configuration. -/
  emconfigutil : String := "/scratch/opt/Xilinx/Vitis/2020.2/bin/emconfigutil"

/-- The settings as a configuration value. -/
def Defaults.value (d : Defaults) : Value :=
  .table [
    ("global", .table [("root_dir", .string d.rootDir)]),
    ("stages", .table [
      ("wdb", .table [
        ("device", .string d.device),
        ("setup_commands", .string d.setupCommands),
        ("runtime_include", .string d.runtimeInclude),
        ("vendor_include", .string d.vendorInclude),
        ("runtime_lib", .string d.runtimeLib),
        ("emconfigutil", .string d.emconfigutil)])])]

/-- The bottom layer. -/
def defaults : Value := ({} : Defaults).value

/-! ### Layers -/

/-- Where a layer of configuration comes from. -/
inductive Layer where
  | builtin
  /-- A file, with the digest of its octets. -/
  | file (path digest : String)
  | commandLine
deriving Repr, DecidableEq

namespace Layer

/-- The name of the place a layer comes from. -/
def origin : Layer → String
  | builtin => "builtin"
  | file _ _ => "file"
  | commandLine => "cli"

/-- A layer, described. -/
def value : Layer → Value
  | file path digest =>
    .table [("origin", .string "file"), ("path", .string path), ("digest", .string digest)]
  | layer => .table [("origin", .string layer.origin)]

end Layer

/-- The configuration of a run. -/
structure Context where
  config : Value
  layers : List Layer
  /-- How much detail the run reports. -/
  verbosity : Level := .warn

namespace Context

/-- The built-in settings alone. -/
def base : Context := ⟨defaults, [.builtin], .warn⟩

/-- The value that the octets of a configuration file spell. -/
def readFile (bytes : Bytes) : Except ConfigFailure Value :=
  match Text.Utf8.decode? bytes with
  | .error fault => .error (.parse ("Invalid UTF-8: " ++ fault.message))
  | .ok text =>
    match Toml.parse text with
    | some document => .ok document
    | none => .error (.parse "TOML parse error")

/-- The layer of the configuration file, if there is one. -/
def fileLayer (fs : FileSystem) (path : String) :
    Except ConfigFailure (Option (Value × Layer)) :=
  if fs.has path then
    match fs.read path with
    | .error fault => .error (.io fault)
    | .ok bytes =>
      (readFile bytes).map fun value => some (value, .file path (Digest.Sha256.hexText (Digest.Sha256.digest bytes)))
  else .ok none

/-- The configuration from a file, if it exists, and overrides. -/
def build (fs : FileSystem) (path : Option String) (overrides : List String) :
    Except ConfigFailure Context := do
  let file ←
    match path with
    | none => .ok none
    | some path => fileLayer fs path
  let settings ← overrides.mapM Override.parse
  let values := [defaults] ++ (file.map Prod.fst).toList ++ settings.map Override.layer
  let layers := [.builtin] ++ (file.map Prod.snd).toList
    ++ (if overrides.isEmpty then [] else [.commandLine])
  return { config := mergeLayers values, layers }

/-- The configuration that a value laid over the built-in settings makes. -/
def ofValue (overlay : Value) : Context :=
  { config := mergeLayers [defaults, overlay], layers := [.builtin, .commandLine] }

/-- The same configuration with another amount of detail. -/
def withVerbosity (c : Context) (level : Level) : Context := { c with verbosity := level }

/-! ### Looking settings up -/

/-- A value that is given and not null. -/
def given (v : Option Value) : Option Value := v.filter fun v => !v.isNull

/-- A setting of a stage. -/
def get? (c : Context) (stage key : String) : Option Value :=
  given (c.config.getPath? [Override.stagesTable, stage, key])

/-- A setting of a stage that is a text. -/
def getString? (c : Context) (stage key : String) : Option String :=
  (c.get? stage key).bind Value.asString?

/-- A setting of a stage that has to be a text. -/
def require (c : Context) (stage key : String) : Except Failure String :=
  match c.getString? stage key with
  | some text => .ok text
  | none => .error (.missingSetting (stage ++ "." ++ key))

/-- A setting that belongs to no stage. -/
def global? (c : Context) (key : String) : Option Value :=
  given (c.config.getPath? [Override.globalTable, key])

/-- The names under which stages have settings, in their order. -/
def stageNames (c : Context) : List String :=
  match (c.config.get? Override.stagesTable).bind Value.asEntries? with
  | some entries => Entries.keys entries
  | none => []

/-- The configuration without its secrets, and where it comes from. -/
def redacted (c : Context) : String :=
  (Value.table [("config", c.config.redact), ("sources", .array (c.layers.map Layer.value))]).pretty

theorem require_eq_ok_iff (c : Context) (stage key text : String) :
    c.require stage key = .ok text ↔ c.getString? stage key = some text := by
  rw [require]
  split
  · next h => simp [h]
  · next h => simp [h]

end Context

end ArtifactPipeline.Config
