import ArtifactPipeline.Conversion

/-!
# Steps

A step is one operation of a pipeline. Its *signature* declares the parameters by name and kind, and
the kind of the result if there is one; its *body* is an action on the arguments and the host. A
call checks the arguments against the signature before the body runs and the result after it, and
hands back the arguments as the body left them, whether the body was done or failed.

* `Signature.checkArguments` and `Signature.checkResult` are the two checks;
* `Step.call` is a call, `Step.invoke` a call whose left arguments nobody wants;
* the functions of `Arguments` are what a body may do with its arguments. An argument that has been
  taken is gone; all others stay where they are.
-/

namespace ArtifactPipeline

/-- A parameter of a step. -/
structure Parameter where
  name : String
  kind : Kind
deriving Repr, DecidableEq

namespace Parameter

/-- Whether a value of a kind may be bound to the parameter. -/
def accepts (p : Parameter) (k : Kind) : Bool := p.kind.accepts k

/-- A parameter, shown for inspection. -/
def inspect (p : Parameter) : String :=
  Text.RecordText.render ⟨"Param", [("name", Text.quoted p.name), ("kind", p.kind.display)], false⟩

end Parameter

/-- What a step declares. -/
structure Signature where
  name : String
  description : String := ""
  parameters : List Parameter := []
  /-- The kind of the result, if there is one. -/
  result : Option Kind := none
  /-- Whether the step releases what an earlier one acquired. -/
  release : Bool := false
deriving Repr, DecidableEq

namespace Signature

/-- A signature, shown for inspection. -/
def inspect (s : Signature) : String :=
  Text.RecordText.render ⟨"Step",
    [("name", Text.quoted s.name),
      ("params", Text.bracketed (s.parameters.map Parameter.inspect)),
      ("returns", match s.result with
        | none => "None"
        | some kind => "Some(" ++ kind.display ++ ")"),
      ("release", toString s.release)], true⟩

/-- Check one argument after another, each against its parameter. -/
def checkEach (step : String) : List Parameter → List (Option Source) → Except Failure Unit
  | parameter :: parameters, value :: values =>
    match value with
    | none => .error (.valueConsumed step parameter.name)
    | some source =>
      if parameter.accepts source.kind then checkEach step parameters values
      else .error (.parameterKind step parameter.name parameter.kind source.kind)
  | _, _ => .ok ()

/-- Check the arguments: their number, then each one. -/
def checkArguments (s : Signature) (values : List (Option Source)) : Except Failure Unit :=
  if values.length = s.parameters.length then checkEach s.name s.parameters values
  else .error (.arity s.name s.parameters.length values.length)

/-- Check the result. -/
def checkResult (s : Signature) : Option Source → Except Failure (Option Source)
  | none =>
    match s.result with
    | none => .ok none
    | some expected => .error (.missingResult s.name expected)
  | some value =>
    match s.result with
    | none => .error (.unexpectedResult s.name value.kind)
    | some expected =>
      if expected.accepts value.kind then .ok (some value)
      else .error (.resultKind s.name expected value.kind)

/-- Arguments that pass the check are as many as there are parameters. -/
theorem length_of_checkArguments {s : Signature} {values : List (Option Source)}
    (h : s.checkArguments values = .ok ()) : values.length = s.parameters.length := by
  rw [checkArguments] at h
  split at h
  · assumption
  · simp at h

end Signature

/-- The state that the body of a step with `n` parameters works on. -/
structure Frame (ε : Type) (n : Nat) where
  values : Vector (Option Source) n
  host : Host ε

/-- One operation of a pipeline. -/
structure Step (ε : Type) extends Signature where
  body : Action (Frame ε toSignature.parameters.length) (Option Source)

namespace Step

variable {ε : Type}

/-- The event at the start of a body. -/
def startEvent (name : String) : Event := ⟨.info, "starting", [("step", name)], none⟩

/-- The event at the end of a body. -/
def endEvent {α : Type} (name : String) : Outcome α → Option Event
  | .done _ => some ⟨.info, "finished", [("step", name)], none⟩
  | .failed f => some ⟨.debug, "failed", [("step", name), ("error", f.message)], none⟩
  | .crashed => none

/-- Check what a body produced. -/
def checkOutcome (s : Signature) : Outcome (Option Source) → Outcome (Option Source)
  | .done result => .ofExcept (s.checkResult result)
  | .failed f => .failed f
  | .crashed => .crashed

/-- Call a step. The state is the list of arguments and the host; afterwards the list holds what
the body did not take. -/
def call (step : Step ε) : Action (List (Option Source) × Host ε) (Option Source) :=
  fun (values, host) =>
    if h : values.length = step.parameters.length then
      match Signature.checkEach step.name step.parameters values with
      | .error f => (.failed f, (values, host))
      | .ok () =>
        let start : Frame ε step.parameters.length :=
          ⟨⟨values.toArray, by simpa using h⟩, host.note (startEvent step.name)⟩
        let (ended, frame) := step.body.run start
        let outcome := checkOutcome step.toSignature ended
        let host := match endEvent step.name outcome with
          | some event => frame.host.note event
          | none => frame.host
        (outcome, (frame.values.toList, host))
    else (.failed (.arity step.name step.parameters.length values.length), (values, host))

/-- Call a step and drop the arguments that its body did not take. -/
def invoke (step : Step ε) (arguments : List Source) : Action (Host ε) (Option Source) := fun host =>
  let (outcome, (_, host)) := step.call.run (arguments.map some, host)
  (outcome, host)

/-- A call neither adds nor drops an argument. -/
theorem length_call (step : Step ε) (values : List (Option Source)) (host : Host ε) :
    (step.call.run (values, host)).2.1.length = values.length := by
  rw [Action.run, call]
  split
  · next h =>
    split
    · rfl
    · simp [h]
  · rfl

end Step

/-! ### What a body may do with its arguments -/

namespace Arguments

variable {ε : Type} {n : Nat} {α β : Type}

/-- The position of the parameter with a name. -/
def position (s : Signature) (name : String) : Except Failure Nat :=
  match s.parameters.findIdx? fun p => p.name == name with
  | some i => .ok i
  | none => .error (.unknownParameter s.name name)

/-- The name of the parameter at a position. -/
def nameAt (s : Signature) (i : Nat) : String :=
  match s.parameters[i]? with
  | some p => p.name
  | none => "#" ++ toString i

/-- Why there is no argument at a position. -/
def missing (s : Signature) (n i : Nat) : Failure :=
  if n ≤ i then .unknownParameter s.name ("#" ++ toString i)
  else .valueConsumed s.name (nameAt s i)

/-- The argument at a position. -/
def peek (s : Signature) (values : Vector (Option Source) n) (i : Nat) : Except Failure Source :=
  match values[i]? with
  | some (some source) => .ok source
  | _ => .error (missing s n i)

/-- Look at an argument. -/
def get (s : Signature) (i : Nat) : Action (Frame ε n) Source := fun frame =>
  (.ofExcept (peek s frame.values i), frame)

/-- Put another value in the place of an argument that is still there. -/
def set (s : Signature) (i : Nat) (source : Source) : Action (Frame ε n) Unit := fun frame =>
  match peek s frame.values i with
  | .ok _ => (.done (), { frame with values := frame.values.setIfInBounds i (some source) })
  | .error f => (.failed f, frame)

/-- Move an argument out. -/
def take (s : Signature) (i : Nat) : Action (Frame ε n) Source := fun frame =>
  match peek s frame.values i with
  | .ok source => (.done source, { frame with values := frame.values.setIfInBounds i none })
  | .error f => (.failed f, frame)

/-- The failure of an argument that is of another kind than a body needs. -/
def wrongKind (s : Signature) (i : Nat) (expected actual : Kind) : Failure :=
  .parameterKind s.name (nameAt s i) expected actual

/-- Look at an argument that has to be a path. -/
def path (s : Signature) (i : Nat) : Action (Frame ε n) String := do
  let source ← get s i
  match source.asPath? with
  | some name => pure name
  | none => .fail (wrongKind s i .path source.kind)

/-- Look at an argument that has to be a text. -/
def text (s : Signature) (i : Nat) : Action (Frame ε n) String := do
  let source ← get s i
  match source.asString? with
  | some text => pure text
  | none => .fail (wrongKind s i .string source.kind)

/-- Run an action on a value inside an argument: `project` finds it, `inject` puts it back. -/
def within (s : Signature) (i : Nat) (project : Source → Except Failure α) (inject : α → Source)
    (x : Action (α × Host ε) β) : Action (Frame ε n) β := fun frame =>
  match peek s frame.values i >>= project with
  | .error f => (.failed f, frame)
  | .ok a =>
    let (outcome, (a, host)) := x.run (a, frame.host)
    (outcome, ⟨frame.values.setIfInBounds i (some (inject a)), host⟩)

/-- Run an action on an argument that has to be a stream. A stream keeps the file made for it. -/
def withStream (s : Signature) (i : Nat) (x : Action (Stream × Host ε) β) :
    Action (Frame ε n) β :=
  within s i
    (fun source =>
      match source.asStream? with
      | some stream => .ok stream
      | none => .error (wrongKind s i .stream source.kind))
    .stream x

/-- Run an action on the payload of an argument, which has to be of a type. -/
def withPayload (t : PayloadType α) (s : Signature) (i : Nat) (x : Action (α × Host ε) β) :
    Action (Frame ε n) β :=
  within s i
    (fun source =>
      match source.asPayload? t with
      | some a => .ok a
      | none => .error (.payloadKind s.name (nameAt s i) t.name))
    (fun a => .untyped (t.wrap a)) x

/-- Run an action on the host. -/
def onHost (x : Action (Host ε) β) : Action (Frame ε n) β :=
  x.zoom Frame.host fun host frame => { frame with host }

end Arguments

end ArtifactPipeline
