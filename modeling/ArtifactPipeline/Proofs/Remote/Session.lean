import ArtifactPipeline.Proofs.Remote.Record

/-!
# The calls of a session

Each operation of a session makes exactly one call of its backend, and the outcome of the operation
is the outcome of that call: the failure of the call, unchanged, or the result that the answer holds
(`Asks`). The release is the exception. It makes one call or two, and goes on to the second whatever
was answered to the first.
-/

namespace ArtifactPipeline.Remote

variable {ε α : Type}

/-- The outcome that a call leads to, when an action has nothing to do but to make it. -/
def Call.outcome (c : Call) (a : α) : Outcome α :=
  match c.failure? with
  | some f => .failed f
  | none => .done a

theorem Call.outcome_of_failed {c : Call} {f : Failure} (hfailed : c.failure? = some f) (a : α) :
    c.outcome a = .failed f := by
  rw [outcome, hfailed]

theorem Call.outcome_of_answered {c : Call} (hanswered : c.failure? = none) (a : α) :
    c.outcome a = .done a := by
  rw [outcome, hanswered]

/-- **One call.** An action makes the call that is asked for and ends as the call does. -/
def Asks (part : Part ε Record) (request : Request) (x : Action (Host ε) Unit) : Prop :=
  ∀ host, ∃ e : Entry, e.call.request = request ∧ Writes part host (x.run host).2 [e] ∧
    (x.run host).2.files = e.files ∧ (x.run host).1 = e.call.outcome ()

namespace Session

variable (b : Backend ε) (part : Part ε Record) (s : Session)

/-- A backend's operation that answers nothing but success or failure, after a note. -/
theorem asks_lift {call : Except TransportFailure Unit → Call} {request : Request} (event : Event)
    (x : Operation ε Unit) (hrequest : ∀ answer, (call answer).request = request)
    (hfailure : ∀ answer, (call answer).failure? = answerFailure? answer) :
    Asks part request (do
      Host.record event
      lift (x.recorded part call)) := by
  intro host
  -- the note is part of the host on which the call begins, and touches neither files nor record
  rcases hx : x (host.note event) with ⟨answer, after⟩
  have hrun : (do
      Host.record event
      lift (x.recorded part call) : Action (Host ε) Unit).run host =
      ((call answer).outcome (), writeDown part (host.note event) (call answer) after) := by
    rw [Action.run_bind]
    change lift (x.recorded part call) (host.note event) = _
    rw [lift, Operation.recorded, hx]
    cases answer <;> simp [Call.outcome, hfailure, answerFailure?]
  refine ⟨⟨call answer, after.files⟩, hrequest answer, ?_, ?_, ?_⟩
  · rw [hrun]
    exact (writes_writeDown part (host.note event) (call answer) after).congr rfl rfl
  · rw [hrun]
    rfl
  · rw [hrun]

theorem asks_put (localPath remotePath : String) :
    Asks part (.put s.connection localPath remotePath)
      (put (b.recorded part) s localPath remotePath) :=
  asks_lift part _ (b.put s.connection localPath remotePath) (fun _ => rfl) fun _ => rfl

theorem asks_get (remotePath localPath : String) :
    Asks part (.get s.connection remotePath localPath)
      (get (b.recorded part) s remotePath localPath) :=
  asks_lift part _ (b.get s.connection remotePath localPath) (fun _ => rfl) fun _ => rfl

/-- Looking at how a command ended is a matter of notes and of the exit code. -/
theorem run_check (command : String) (output : Output) (host : Host ε) :
    ∃ after, (check command output).run host =
        (if output.success then .done () else .failed (.command command output.stderr), after) ∧
      after.outside = host.outside ∧ after.files = host.files := by
  by_cases hreport : output.stderr ≠ ""
  · refine ⟨host.note ⟨.debug, Text.trimmedEnd output.stderr, [], some stderrChannel⟩, ?_, rfl, rfl⟩
    rw [check, if_pos hreport]
    cases output.success <;> rfl
  · refine ⟨host, ?_, rfl, rfl⟩
    rw [check, if_neg hreport]
    cases output.success <;> rfl

/-- A command ends as its delivery says. Looking at the delivery afterwards touches neither the files
nor what lies outside. -/
theorem run_exec_eq (command : String) (limits : Limits) (listen : String → Host ε → Host ε)
    {host middle : Host ε} {delivery : Delivery}
    (hx : b.exec s.connection command limits listen (host.note (commandEvent command)) =
      (delivery, middle)) :
    ∃ after, (exec b s command limits listen).run host =
        (match delivery.failure? command with
          | some f => .failed f
          | none => .done delivery.lines, after) ∧
      after.outside = middle.outside ∧ after.files = middle.files := by
  cases hresult : delivery.result with
  | error cause =>
    refine ⟨middle, ?_, rfl, rfl⟩
    rw [Delivery.failure?, hresult]
    simp only [Action.run, exec, hx, hresult]
  | ok output =>
    obtain ⟨after, hcheck, houtside, hfiles⟩ := run_check command output middle
    refine ⟨after, ?_, houtside, hfiles⟩
    rw [Action.run] at hcheck
    rw [Delivery.failure?, hresult]
    simp only [Action.run, exec, hx, hresult, hcheck]
    cases output.success <;> rfl

/-- **A command.** It is one call, and it fails exactly as the delivery says. -/
theorem run_exec (command : String) (limits : Limits) (listen : String → Host ε → Host ε)
    (host : Host ε) :
    ∃ delivery after, (exec (b.recorded part) s command limits listen).run host =
        (match delivery.failure? command with
          | some f => .failed f
          | none => .done delivery.lines, after) ∧
      Writes part host after [⟨.exec s.connection command limits delivery, after.files⟩] := by
  -- the call is written down when the command ends; looking at the exit code comes after that
  rcases hx : b.exec s.connection command limits listen (host.note (commandEvent command))
    with ⟨delivery, middle⟩
  have hwrites := writes_writeDown part (host.note (commandEvent command))
    (.exec s.connection command limits delivery) middle
  have hrecorded : (b.recorded part).exec s.connection command limits listen
      (host.note (commandEvent command)) = (delivery, writeDown part
        (host.note (commandEvent command)) (.exec s.connection command limits delivery) middle) := by
    simp only [Backend.recorded, hx]
  obtain ⟨after, hrun, houtside, hfiles⟩ :=
    run_exec_eq (b.recorded part) s command limits listen hrecorded
  refine ⟨delivery, after, hrun, ?_⟩
  rw [hfiles]
  exact hwrites.congr rfl houtside

/-- A command that is run for its effect. Only the provisioning can fail although it ended well. -/
theorem asks_runLogged {command : String} (hcommand : command ≠ provisionCommand)
    (limits : Limits) :
    Asks part (.exec s.connection command limits)
      (runLogged (b.recorded part) s command limits) := by
  intro host
  obtain ⟨delivery, after, hrun, hwrites⟩ :=
    run_exec b part s command limits (fun line => Host.note (lineEvent line)) host
  have hended : (runLogged (b.recorded part) s command limits).run host =
      ((Call.exec s.connection command limits delivery).outcome (), after) := by
    rw [runLogged, Action.run_bind, hrun, Call.outcome, Call.failure?]
    cases delivery.failure? command with
    | some f => rfl
    | none => simp [hcommand]
  rw [hended]
  exact ⟨_, rfl, hwrites, rfl, rfl⟩

/-- **Opening a connection** is one call, whose answer holds the connection. -/
theorem run_connect (target : Target) (host : Host ε) :
    ∃ e : Entry, e.call.request = .connect target ∧
      Writes part host ((lift ((b.recorded part).connect target)).run host).2 [e] ∧
      ((lift ((b.recorded part).connect target)).run host).2.files = e.files ∧
      ((∃ f, e.call.failure? = some f ∧ e.call.opened? = none ∧
          ((lift ((b.recorded part).connect target)).run host).1 = .failed f) ∨
        ∃ connection, e.call.failure? = none ∧ e.call.opened? = some connection ∧
          ((lift ((b.recorded part).connect target)).run host).1 = .done connection) := by
  rcases hx : b.connect target host with ⟨answer, after⟩
  have hwrites := writes_writeDown part host (.connect target answer) after
  have hrun : (lift ((b.recorded part).connect target)).run host =
      (match answer with
        | .ok connection => .done connection
        | .error cause => .failed (.transport cause),
        writeDown part host (.connect target answer) after) := by
    rw [Action.run, lift, Backend.recorded]
    simp only [Operation.recorded, hx]
    cases answer <;> rfl
  rw [hrun]
  refine ⟨⟨.connect target answer, after.files⟩, rfl, hwrites, rfl, ?_⟩
  cases answer with
  | error cause => exact .inl ⟨_, rfl, rfl, rfl⟩
  | ok connection => exact .inr ⟨connection, rfl, rfl, rfl⟩

/-- **Provisioning** is one call. It records the workspace that the call names, and fails when the
call fails or names none. -/
theorem run_provision (host : Host ε) :
    ∃ e : Entry, e.call.request = .exec s.connection provisionCommand .unlimited ∧
      Writes part host ((provision (b.recorded part)).run (s, host)).2.2 [e] ∧
      ((provision (b.recorded part)).run (s, host)).2.2.files = e.files ∧
      ((∃ f, e.call.failure? = some f ∧ e.call.provisioned? = none ∧
          ((provision (b.recorded part)).run (s, host)).1 = .failed f ∧
          ((provision (b.recorded part)).run (s, host)).2.1 = s) ∨
        ∃ workspace, e.call.failure? = none ∧ e.call.provisioned? = some workspace ∧
          ((provision (b.recorded part)).run (s, host)).1 = .done workspace ∧
          ((provision (b.recorded part)).run (s, host)).2.1 =
            { s with workspace := some workspace }) := by
  obtain ⟨delivery, after, hrun, hwrites⟩ :=
    run_exec b part s provisionCommand .unlimited (fun _ => id) host
  have hcapture : (capture (b.recorded part) s provisionCommand .unlimited).run host =
      (match delivery.failure? provisionCommand with
        | some f => .failed f
        | none => .done delivery.written, after) := by
    rw [capture, Action.run_bind, hrun]
    cases delivery.failure? provisionCommand <;> rfl
  refine ⟨⟨.exec s.connection provisionCommand .unlimited delivery, after.files⟩, rfl, ?_⟩
  rw [Action.run, provision, hcapture]
  cases hfailure : delivery.failure? provisionCommand with
  | some f =>
    have hfailed : (Call.exec s.connection provisionCommand .unlimited delivery).failure? =
        some f := by rw [Call.failure?, hfailure]
    exact ⟨hwrites, rfl, .inl ⟨f, hfailed, Call.provisioned?_of_failed hfailed, rfl, rfl⟩⟩
  | none =>
    -- the command ended well, and it may still have named nothing
    by_cases hnameless : Text.trimmed delivery.written = ""
    · have hfailed : (Call.exec s.connection provisionCommand .unlimited delivery).failure? =
          some namelessFailure := by
        rw [Call.failure?, hfailure]
        exact if_pos ⟨rfl, hnameless⟩
      simp only [if_pos hnameless]
      exact ⟨hwrites, trivial,
        .inl ⟨namelessFailure, hfailed, Call.provisioned?_of_failed hfailed, rfl, trivial⟩⟩
    · have hanswered : (Call.exec s.connection provisionCommand .unlimited delivery).failure? =
          none := by
        rw [Call.failure?, hfailure]
        exact if_neg fun h => hnameless h.2
      simp only [if_neg hnameless]
      exact ⟨hwrites.congr rfl rfl, rfl,
        .inr ⟨_, hanswered, Call.provisioned?_of_answered hanswered, rfl, rfl⟩⟩

/-- What the release of a session asks for. -/
def releaseRequests (s : Session) : List Request :=
  (s.workspace.toList.map fun workspace =>
    .exec s.connection (removeCommand workspace) .unlimited) ++ [.close s.connection]

/-- **Releasing** asks for the removal of the workspace, if there is one, and then for the end of
the connection, whatever was answered. -/
theorem release_writes (host : Host ε) :
    ∃ calls, calls.map (fun e : Entry => e.call.request) = releaseRequests s ∧
      Writes part host (release (b.recorded part) s host).2.2 calls := by
  have hclose : ∀ middle, ∃ e : Entry, e.call.request = .close s.connection ∧
      Writes part middle ((b.recorded part).close s.connection middle).2 [e] := by
    intro middle
    rcases hx : b.close s.connection middle with ⟨answer, after⟩
    refine ⟨⟨.close s.connection answer, after.files⟩, rfl, ?_⟩
    simp only [Backend.recorded, Operation.recorded, hx]
    exact writes_writeDown part middle (.close s.connection answer) after
  have hremove : ∃ calls, calls.map (fun e : Entry => e.call.request) =
        (s.workspace.toList.map fun workspace =>
          .exec s.connection (removeCommand workspace) .unlimited) ∧
      Writes part host (remove (b.recorded part) s host).2 calls := by
    rw [remove]
    cases s.workspace with
    | none => exact ⟨[], rfl, Writes.refl host⟩
    | some workspace =>
      rcases hx : b.exec s.connection (removeCommand workspace) .unlimited (fun _ => id) host
        with ⟨delivery, after⟩
      refine ⟨[⟨.exec s.connection (removeCommand workspace) .unlimited delivery, after.files⟩],
        rfl, ?_⟩
      have hwrites := writes_writeDown part host
        (.exec s.connection (removeCommand workspace) .unlimited delivery) after
      simp only [Backend.recorded, hx]
      -- whether the command ended well shows in a note only
      split
      · exact hwrites
      · split
        · exact hwrites
        · exact hwrites.congr rfl rfl
  -- the closing follows on whatever host the removal has left
  obtain ⟨removing, hremoving, hremoved⟩ := hremove
  obtain ⟨closing, hclosing, hclosed⟩ := hclose (remove (b.recorded part) s host).2
  refine ⟨removing ++ [closing], ?_, hremoved.trans hclosed⟩
  rw [List.map_append, hremoving, releaseRequests, List.map_singleton, hclosing]

end Session

end ArtifactPipeline.Remote
