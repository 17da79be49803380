import ArtifactPipeline.Duration
import ArtifactPipeline.Files.Fault
import ArtifactPipeline.Kind

/-!
# Failures

What can go wrong while a pipeline runs, by cause. Three families have a type of their own, because
the operations that raise them know nothing of the rest: conversions between kinds of artifact
(`ConversionFailure`), the connection to a remote host (`TransportFailure`), and the configuration
(`ConfigFailure`). A `Failure` is one of these or a cause of the pipeline itself.

Each has one report (`message`). Every failure falls in one of four classes (`Failure.category`),
and the class decides the exit code of the program (`Failure.exitCode`).
-/

namespace ArtifactPipeline

/-- Why an artifact could not become one of another kind. -/
inductive ConversionFailure where
  /-- No conversion leads from the one kind to the other. -/
  | unsupported (source target : Kind)
  /-- A path that should lead to a directory does not. -/
  | notDirectory (path : String)
  | io (fault : IoFault)
deriving Repr, DecidableEq

/-- The report of a failed conversion. -/
def ConversionFailure.message : ConversionFailure → String
  | unsupported source target =>
    "unsupported conversion from " ++ source.display ++ " to " ++ target.display
  | notDirectory path => "source \x60" ++ path ++ "\x60 is not a directory"
  | io fault => "I/O error during conversion: " ++ fault.message

/-- Why an operation on a remote host failed. -/
inductive TransportFailure where
  /-- The host could not be reached, or refused. -/
  | connectionFailed (destination : String)
  | io (fault : IoFault)
  /-- The connection broke, or could not be closed. -/
  | ssh (report : String)
  /-- A file could not be copied. -/
  | transfer (report : String)
  /-- The command was stopped because the user asked for it. -/
  | cancelled
  /-- The command ran longer than allowed. -/
  | timedOut (limit : Duration)
deriving Repr, DecidableEq

/-- The report of a failed remote operation. -/
def TransportFailure.message : TransportFailure → String
  | connectionFailed destination => "connection to " ++ destination ++ " failed"
  | io fault => "I/O error: " ++ fault.message
  | ssh report => "SSH error: " ++ report
  | transfer report => "file transfer failed: " ++ report
  | cancelled => "remote command cancelled"
  | timedOut limit => "remote command exceeded " ++ limit.text

/-- Why a configuration is not usable. -/
inductive ConfigFailure where
  /-- The configuration file could not be read. -/
  | io (fault : IoFault)
  /-- The configuration file is not well formed. -/
  | parse (report : String)
  /-- A setting on the command line lacks its key or its value. -/
  | invalidOverride (text : String)
  /-- A setting has a value that its reader cannot use. -/
  | invalidValue (key expected value : String)
deriving Repr, DecidableEq

/-- The report of an unusable configuration. -/
def ConfigFailure.message : ConfigFailure → String
  | io fault => "IO error: " ++ fault.message
  | parse report => "Parse error: " ++ report
  | invalidOverride text =>
    "invalid override \x60" ++ text ++ "\x60, expected \x60stage.key=value\x60"
  | invalidValue key expected value =>
    "invalid value for \x60" ++ key ++ "\x60: expected " ++ expected ++ ", got " ++ value

/-- Why a step, a stage or a whole pipeline failed. -/
inductive Failure where
  /-- A setting that only the user can give was not given. -/
  | missingSetting (key : String)
  | conversion (cause : ConversionFailure)
  /-- A step was given too many or too few arguments. -/
  | arity (step : String) (expected actual : Nat)
  /-- An argument is not of the kind that the parameter declares. -/
  | parameterKind (step parameter : String) (expected actual : Kind)
  /-- A step that declares a result produced none. -/
  | missingResult (step : String) (expected : Kind)
  /-- A result is not of the kind that was declared. -/
  | resultKind (step : String) (expected actual : Kind)
  /-- A step that declares no result produced one. -/
  | unexpectedResult (step : String) (actual : Kind)
  /-- A step asked for a parameter that it does not have. -/
  | unknownParameter (step parameter : String)
  /-- A value was asked for after it had been used up. -/
  | valueConsumed (step value : String)
  /-- An untyped argument does not hold what the step expects in it. -/
  | payloadKind (step parameter expected : String)
  /-- A step that releases nothing was registered for release. -/
  | notRelease (step : String)
  /-- A command ended unsuccessfully. -/
  | command (line stderr : String)
  | transport (cause : TransportFailure)
  | config (cause : ConfigFailure)
  /-- No stages lead from one state to the other. -/
  | noPath (source target : String)
  | io (fault : IoFault)
deriving Repr, DecidableEq

/-- The classes of failures. -/
inductive FailureCategory where
  /-- What was asked for makes no sense. -/
  | configuration
  /-- A command ended unsuccessfully. -/
  | execution
  /-- The connection to the remote host failed. -/
  | transport
  /-- The local system failed. -/
  | io
deriving Repr, DecidableEq

namespace FailureCategory

/-- The name of a class. -/
def name : FailureCategory → String
  | configuration => "Configuration"
  | execution => "Execution"
  | transport => "Transport"
  | io => "Io"

/-- The exit code of a program that ends with a failure of the class. -/
def exitCode : FailureCategory → Nat
  | configuration => 1
  | execution => 2
  | transport => 3
  | io => 4

end FailureCategory

namespace Failure

/-- A name between two accents. -/
def named (name : String) : String := "\x60" ++ name ++ "\x60"

/-- The report of a failure. -/
def message : Failure → String
  | missingSetting key =>
    "missing dynamic configuration " ++ named key ++ "; pass it with \x60-s " ++ key ++ "=<value>\x60"
  | conversion cause => cause.message
  | arity step expected actual =>
    "step " ++ named step ++ " takes " ++ toString expected ++ " argument(s), got "
      ++ toString actual
  | parameterKind step parameter expected actual =>
    "step " ++ named step ++ " parameter " ++ named parameter ++ " expects " ++ expected.display
      ++ ", got " ++ actual.display
  | missingResult step expected =>
    "step " ++ named step ++ " declares return type " ++ expected.display
      ++ " but produced nothing"
  | resultKind step expected actual =>
    "step " ++ named step ++ " declares return type " ++ expected.display ++ " but produced "
      ++ actual.display
  | unexpectedResult step actual =>
    "step " ++ named step ++ " declares no return value but produced " ++ actual.display
  | unknownParameter step parameter =>
    "step " ++ named step ++ " has no parameter " ++ named parameter
  | valueConsumed step value =>
    "value " ++ named value ++ " was already consumed before step " ++ named step
  | payloadKind step parameter expected =>
    "step " ++ named step ++ " parameter " ++ named parameter ++ " does not hold a "
      ++ named expected
  | notRelease step => "step " ++ named step ++ " is not marked as a release step"
  | command line stderr => "\x60" ++ line ++ "' failed:\n" ++ stderr
  | transport cause => "transport error: " ++ cause.message
  | config cause => "configuration error: " ++ cause.message
  | noPath source target => "no stage path from " ++ named source ++ " to " ++ named target
  | io fault => "I/O error: " ++ fault.message

/-- The class of a failure. -/
def category : Failure → FailureCategory
  | conversion (.io _) => .io
  | command _ _ => .execution
  | transport _ => .transport
  | io _ => .io
  | missingSetting _ | conversion _ | arity _ _ _ | parameterKind _ _ _ _ | missingResult _ _
  | resultKind _ _ _ | unexpectedResult _ _ | unknownParameter _ _ | valueConsumed _ _
  | payloadKind _ _ _ | notRelease _ | config _ | noPath _ _ => .configuration

/-- The exit code of a program that ends with the failure. -/
def exitCode (f : Failure) : Nat := f.category.exitCode

/-- A failed conversion counts as a configuration failure unless the local system failed. -/
@[simp] theorem category_conversion_io (fault : IoFault) :
    (conversion (.io fault)).category = .io := rfl

@[simp] theorem category_transport (cause : TransportFailure) :
    (transport cause).category = .transport := rfl

end Failure

end ArtifactPipeline
