/-!
# How programs end

A program ends with an exit code, or a signal ends it. Only the exit code zero is a success.
-/

namespace ArtifactPipeline

/-- How a program ended. -/
inductive Ending where
  | exited (code : Nat)
  /-- A signal, by its number. -/
  | signalled (number : Nat)
deriving Repr, DecidableEq

namespace Ending

/-- The name of a signal. -/
def signalName : Nat → String
  | 1 => "SIGHUP"
  | 2 => "SIGINT"
  | 3 => "SIGQUIT"
  | 6 => "SIGABRT"
  | 9 => "SIGKILL"
  | 13 => "SIGPIPE"
  | 15 => "SIGTERM"
  | n => "SIG" ++ toString n

/-- Whether a program ended well. -/
def success : Ending → Bool
  | exited code => code == 0
  | signalled _ => false

/-- How a program ended, in words. -/
def text : Ending → String
  | exited code => "exit status: " ++ toString code
  | signalled number => "signal: " ++ toString number ++ " (" ++ signalName number ++ ")"

/-- The exit code, if there is one. -/
def code? : Ending → Option Nat
  | exited code => some code
  | signalled _ => none

theorem success_iff (e : Ending) : e.success = true ↔ e = exited 0 := by
  cases e <;> simp [success]

end Ending

end ArtifactPipeline
