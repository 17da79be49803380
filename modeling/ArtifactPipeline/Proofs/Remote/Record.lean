import ArtifactPipeline.Remote.Session
import ArtifactPipeline.Text.Search

/-!
# The record of a backend

To say in which order the calls of a run are made, one has to see them. `Backend.recorded` makes any
backend write every call down, with what was asked, what was answered, and the files of the host at
that moment; the record lies in a part of the outside world that the backend itself cannot spoil.
Nothing else of the backend changes, and since nothing was assumed of it either, the recorded
backends show every behaviour that a connection can have.

The rest of the file reads the record. A request may ask for the end of a connection or the removal
of a workspace; a call may have failed (`Call.failure?`), opened a connection or provisioned a
workspace; and `Writes` says which calls a run has added.
-/

namespace ArtifactPipeline.Remote

variable {ε α : Type}

/-- What a backend is asked for. -/
inductive Request where
  | connect (target : Target)
  | exec (connection : Nat) (command : String) (limits : Limits)
  | put (connection : Nat) (localPath remotePath : String)
  | get (connection : Nat) (remotePath localPath : String)
  | close (connection : Nat)
deriving DecidableEq

/-- A request together with the answer. -/
inductive Call where
  | connect (target : Target) (answer : Except TransportFailure Nat)
  | exec (connection : Nat) (command : String) (limits : Limits) (delivery : Delivery)
  | put (connection : Nat) (localPath remotePath : String) (answer : Except TransportFailure Unit)
  | get (connection : Nat) (remotePath localPath : String) (answer : Except TransportFailure Unit)
  | close (connection : Nat) (answer : Except TransportFailure Unit)

/-- A call, and the files of the host when it was answered. -/
structure Entry where
  call : Call
  files : FileSystem

/-- The calls of a run, in the order in which they were made. -/
abbrev Record := List Entry

/-- The first of two parts that make up the outside world. -/
def Part.first {κ κ' : Type} : Part (κ × κ') κ := ⟨Prod.fst, fun k e => (k, e.2), fun _ _ => rfl⟩

/-- The second of two parts that make up the outside world. -/
def Part.second {κ κ' : Type} : Part (κ × κ') κ' := ⟨Prod.snd, fun k e => (e.1, k), fun _ _ => rfl⟩

/-- Write a call down on the host that it has led to. What was written down before is taken from the
host that the call began on. -/
def writeDown (part : Part ε Record) (before : Host ε) (call : Call) (after : Host ε) : Host ε :=
  { after with
    outside := part.set (part.get before.outside ++ [⟨call, after.files⟩]) after.outside }

/-- An operation that is written down. -/
def Operation.recorded (part : Part ε Record) (call : Except TransportFailure α → Call)
    (x : Operation ε α) : Operation ε α := fun host =>
  let (answer, after) := x host
  (answer, writeDown part host (call answer) after)

/-- **A backend that is recorded.** It answers as before, and every call is written down. -/
def Backend.recorded (b : Backend ε) (part : Part ε Record) : Backend ε where
  connect target := (b.connect target).recorded part (.connect target)
  exec connection command limits listen host :=
    let (delivery, after) := b.exec connection command limits listen host
    (delivery, writeDown part host (.exec connection command limits delivery) after)
  put connection localPath remotePath :=
    (b.put connection localPath remotePath).recorded part (.put connection localPath remotePath)
  get connection remotePath localPath :=
    (b.get connection remotePath localPath).recorded part (.get connection remotePath localPath)
  close connection := (b.close connection).recorded part (.close connection)

/-! ### Reading a request -/

/-- Dropping a beginning leaves what was put after it. -/
theorem restAfter_append [BEq α] [LawfulBEq α] (beginning rest : List α) :
    Text.restAfter beginning (beginning ++ rest) = some rest := by
  induction beginning with
  | nil => rfl
  | cons a as ih => rw [List.cons_append, Text.restAfter, if_pos (beq_self_eq_true a), ih]

theorem without?_append (beginning rest : String) :
    Text.without? beginning (beginning ++ rest) = some rest := by
  rw [Text.without?, String.toList_append, restAfter_append, Option.map_some, String.ofList_toList]

namespace Request

/-- Whether a connection is to be opened. -/
def isConnect : Request → Bool
  | connect _ => true
  | _ => false

/-- The connection that is to be closed. -/
def closed? : Request → Option Nat
  | close connection => some connection
  | _ => none

/-- The workspace that is to be removed. -/
def removed? : Request → Option String
  | exec _ command _ => Text.without? "rm -rf " command
  | _ => none

@[simp] theorem removed?_exec_removeCommand (connection : Nat) (workspace : String)
    (limits : Limits) :
    (exec connection (Session.removeCommand workspace) limits).removed? = some workspace :=
  without?_append "rm -rf " workspace

/-- A command that goes somewhere removes nothing. -/
theorem removed?_exec_cd (connection : Nat) (tail : String) (limits : Limits) :
    (exec connection ("cd " ++ tail) limits).removed? = none := by
  rw [removed?, Text.without?, String.toList_append]
  -- the first characters differ, whatever follows
  rfl

/-- The connection over which something is to be done. -/
def over? : Request → Option Nat
  | connect _ => none
  | exec connection _ _ => some connection
  | put connection _ _ => some connection
  | get connection _ _ => some connection
  | close connection => some connection

/-- Whether the request belongs to the release of a session. -/
def isCleanup (r : Request) : Bool := r.removed?.isSome || r.closed?.isSome

/-- Whether a workspace is to be provisioned. -/
def isProvision : Request → Bool
  | exec _ command _ => command == Session.provisionCommand
  | _ => false

end Request

/-! ### Reading a call -/

/-- What a command wrote, as one text. -/
def Delivery.written (d : Delivery) : String := String.join (d.lines.map (· ++ "\n"))

/-- The failure of a command: the connection broke, or the command ended badly. -/
def Delivery.failure? (command : String) (d : Delivery) : Option Failure :=
  match d.result with
  | .error cause => some (.transport cause)
  | .ok output => if output.success then none else some (.command command output.stderr)

/-- The failure of an answer. -/
def answerFailure? : Except TransportFailure α → Option Failure
  | .error cause => some (.transport cause)
  | .ok _ => none

/-- The failure of a provisioning that names no directory. -/
def namelessFailure : Failure :=
  .command Session.provisionCommand "no directory name returned"

namespace Call

/-- What was asked. -/
def request : Call → Request
  | connect target _ => .connect target
  | exec connection command limits _ => .exec connection command limits
  | put connection localPath remotePath _ => .put connection localPath remotePath
  | get connection remotePath localPath _ => .get connection remotePath localPath
  | close connection _ => .close connection

/-- **The failure of a call**, if it failed: the transport failed, the command ended badly, or the
provisioning named no directory. -/
def failure? : Call → Option Failure
  | connect _ answer => answerFailure? answer
  | exec _ command _ delivery =>
    match delivery.failure? command with
    | some f => some f
    | none =>
      if command = Session.provisionCommand ∧ Text.trimmed delivery.written = "" then
        some namelessFailure
      else none
  | put _ _ _ answer => answerFailure? answer
  | get _ _ _ answer => answerFailure? answer
  | close _ answer => answerFailure? answer

/-- The connection that a call opened. -/
def opened? : Call → Option Nat
  | connect _ (.ok connection) => some connection
  | _ => none

/-- The workspace that a call provisioned. -/
def provisioned? : Call → Option String
  | exec connection command limits delivery =>
    if command = Session.provisionCommand ∧
        (exec connection command limits delivery).failure? = none then
      some (Text.trimmed delivery.written)
    else none
  | _ => none

/-- A call that was not asked to open a connection has opened none. -/
theorem opened?_of_request {c : Call} (hrequest : c.request.isConnect = false) :
    c.opened? = none := by
  cases c with
  | connect target answer => cases hrequest
  | _ => rfl

/-- A call that failed has provisioned nothing. -/
theorem provisioned?_of_failed {c : Call} {f : Failure} (hfailed : c.failure? = some f) :
    c.provisioned? = none := by
  cases c with
  | exec connection command limits delivery =>
    rw [provisioned?, hfailed, if_neg (by simp)]
  | _ => rfl

/-- A call that was not asked to provision has provisioned nothing. -/
theorem provisioned?_of_request {c : Call} (hrequest : c.request.isProvision = false) :
    c.provisioned? = none := by
  cases c with
  | exec connection command limits delivery =>
    have hother : command ≠ Session.provisionCommand := by
      intro hsame
      rw [request, Request.isProvision, hsame, beq_self_eq_true] at hrequest
      cases hrequest
    rw [provisioned?, if_neg fun h => hother h.1]
  | _ => rfl

/-- A provisioning that did not fail has provisioned the workspace that it names. -/
theorem provisioned?_of_answered {connection : Nat} {limits : Limits} {delivery : Delivery}
    (hanswered : (exec connection Session.provisionCommand limits delivery).failure? = none) :
    (exec connection Session.provisionCommand limits delivery).provisioned? =
      some (Text.trimmed delivery.written) := by
  rw [provisioned?, if_pos ⟨rfl, hanswered⟩]

end Call

/-! ### What a run writes down -/

/-- **Going from one host to another, calls were written down**, in the given order and nothing
else. -/
def Writes (part : Part ε Record) (before after : Host ε) (calls : Record) : Prop :=
  part.get after.outside = part.get before.outside ++ calls

/-- The files when the last of some calls was answered, or the files before them. -/
def filesAfter (files : FileSystem) (calls : Record) : FileSystem :=
  calls.foldl (fun _ e => e.files) files

@[simp] theorem filesAfter_cons (files : FileSystem) (e : Entry) (calls : Record) :
    filesAfter files (e :: calls) = filesAfter e.files calls := rfl

theorem filesAfter_append (files : FileSystem) (calls more : Record) :
    filesAfter files (calls ++ more) = filesAfter (filesAfter files calls) more :=
  List.foldl_append

section Writes

variable {part : Part ε Record} {before middle after : Host ε} {calls more : Record}

theorem Writes.refl (host : Host ε) : Writes part host host [] := (List.append_nil _).symm

theorem Writes.trans (hfirst : Writes part before middle calls)
    (hsecond : Writes part middle after more) : Writes part before after (calls ++ more) := by
  rw [Writes] at *
  rw [hsecond, hfirst, List.append_assoc]

/-- Only the outside world counts. -/
theorem Writes.congr {before' after' : Host ε} (hwrites : Writes part before after calls)
    (hbefore : before'.outside = before.outside) (hafter : after'.outside = after.outside) :
    Writes part before' after' calls := by
  rw [Writes, hbefore, hafter]
  exact hwrites

theorem writes_writeDown (part : Part ε Record) (before : Host ε) (call : Call) (after : Host ε) :
    Writes part before (writeDown part before call after) [⟨call, after.files⟩] := by
  rw [Writes, writeDown, part.get_set]

end Writes

end ArtifactPipeline.Remote
