import ArtifactPipeline.Failure
import ArtifactPipeline.Host
import ArtifactPipeline.Remote.Target

/-!
# Backends

A backend is a way to reach remote hosts: it opens connections, which are known by numbers, runs
commands on them, copies files over them and closes them. Nothing is assumed of what a backend
answers. A `Part` of the outside world is what one backend keeps there.

A remote command may be stopped for two reasons: the user asked for it, or it has run longer than
allowed. Neither applies unless the caller asks for it (`Limits`). A request of the user counts before a
timeout, and a command that has run exactly as long as allowed may go on.
-/

namespace ArtifactPipeline.Remote

/-! ### Limits on remote commands -/

/-- Limits on one command. -/
structure Limits where
  timeout : Option Duration := none
  /-- Whether the command stops when the user asks for it. -/
  cancellable : Bool := false
deriving Repr, DecidableEq

/-- What the limits say of a command at one moment. -/
inductive LimitStatus where
  | within
  | cancelled
  | timedOut (limit : Duration)
deriving Repr, DecidableEq

/-- The failure of a command that was stopped. -/
def LimitStatus.failure? : LimitStatus → Option TransportFailure
  | within => none
  | cancelled => some .cancelled
  | timedOut limit => some (.timedOut limit)

/-- The limits that limit nothing. -/
def Limits.unlimited : Limits := {}

/-- Check the limits of a command that has run for some time. -/
def Limits.check (l : Limits) (interrupted : Bool) (elapsed : Duration) : LimitStatus :=
  if l.cancellable && interrupted then .cancelled
  else
    match l.timeout with
    | some limit => if limit < elapsed then .timedOut limit else .within
    | none => .within

@[simp] theorem Limits.check_unlimited (interrupted : Bool) (elapsed : Duration) :
    Limits.unlimited.check interrupted elapsed = .within := rfl

/-! ### Backends -/

/-- How a command ended on the remote host. -/
structure Output where
  exitCode : Int
  stderr : String
deriving Repr, DecidableEq

/-- Whether a command ended well. -/
def Output.success (o : Output) : Bool := o.exitCode == 0

/-- What a command delivered: the lines that it wrote, and how it ended. -/
structure Delivery where
  lines : List String
  result : Except TransportFailure Output

/-- An operation that a backend carries out. -/
abbrev Operation (ε α : Type) := Host ε → Except TransportFailure α × Host ε

/-- A way to reach remote hosts. -/
structure Backend (ε : Type) where
  /-- Open a connection. -/
  connect : Target → Operation ε Nat
  /-- Run a command, and show every line that it writes to the listener as it comes. -/
  exec : Nat → String → Limits → (listen : String → Host ε → Host ε) → Host ε → Delivery × Host ε
  /-- Copy a local file to the remote host. -/
  put : Nat → (localPath remotePath : String) → Operation ε Unit
  /-- Copy a remote file to the local host. -/
  get : Nat → (remotePath localPath : String) → Operation ε Unit
  /-- Close a connection. -/
  close : Nat → Operation ε Unit

/-- What a backend keeps in the outside world. -/
structure Part (ε κ : Type) where
  get : ε → κ
  set : κ → ε → ε
  get_set : ∀ k e, get (set k e) = k

/-- The whole of the outside world. -/
def Part.whole (κ : Type) : Part κ κ := ⟨id, fun k _ => k, fun _ _ => rfl⟩

end ArtifactPipeline.Remote
