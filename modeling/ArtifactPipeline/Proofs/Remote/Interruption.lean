import ArtifactPipeline.Proofs.Remote.Invariant

/-!
# Interruptions on a fake host

The user may ask for the running command to be stopped at any time. `Backend.interruptedAt` makes a
backend on which this happens at one moment, given by the number of calls that are on record by
then: before the next call, and before all later ones, the flag is up.

A fake host looks at the flag on commands only, and there it refuses those whose limits heed the
flag. `Answers` says how it answers one call, and `Served` how it answers one call after the other;
what it has seen (`Served.execs`, `Served.closes`), what it refuses (`Served.cancelled`) and what it
carries out all the same (`Served.carried`) are read off from there.
-/

namespace ArtifactPipeline.Remote

variable {ε : Type}

/-! ### The moment -/

/-- Raise the flag if a number of calls is on record. -/
def interruptAt (record : Part ε Record) (moment : Nat) (host : Host ε) : Host ε :=
  if moment ≤ (record.get host.outside).length then host.interrupt else host

/-- **A backend during whose use the user asks to stop.** From the moment on at which a number of
calls is on record, every call finds the flag up. -/
def Backend.interruptedAt (b : Backend ε) (record : Part ε Record) (moment : Nat) : Backend ε where
  connect target host := b.connect target (interruptAt record moment host)
  exec connection command limits listen host :=
    b.exec connection command limits listen (interruptAt record moment host)
  put connection localPath remotePath host :=
    b.put connection localPath remotePath (interruptAt record moment host)
  get connection remotePath localPath host :=
    b.get connection remotePath localPath (interruptAt record moment host)
  close connection host := b.close connection (interruptAt record moment host)

section InterruptAt

variable (record : Part ε Record) (moment : Nat) (host : Host ε)

@[simp] theorem outside_interruptAt : (interruptAt record moment host).outside = host.outside := by
  rw [interruptAt]
  split <;> rfl

@[simp] theorem files_interruptAt : (interruptAt record moment host).files = host.files := by
  rw [interruptAt]
  split <;> rfl

theorem interrupted_interruptAt (hmoment : moment ≤ (record.get host.outside).length) :
    (interruptAt record moment host).interrupted = true := by
  rw [interruptAt, if_pos hmoment]
  rfl

end InterruptAt

/-- The limits of a command that heeds the flag do not let it begin when the flag is up. -/
theorem Limits.check_interrupted {limits : Limits} (hcancellable : limits.cancellable = true)
    (elapsed : Duration) : limits.check true elapsed = .cancelled := by
  rw [check, hcancellable]
  rfl

/-! ### What a fake host writes down -/

namespace FakeHost

variable (f : FakeHost)

/-- Every command that is carried out is written down, however it ends. -/
theorem calls_perform (command : String) :
    (f.perform command).2.2.calls = { f.calls with execs := f.calls.execs ++ [command] } := by
  rw [perform]
  split
  · rfl
  · split
    · rfl
    · split <;> rfl

theorem calls_connect (target : Target) :
    (f.connect target).2.calls = { f.calls with connects := f.calls.connects + 1 } := by
  rw [connect]
  split <;> rfl

theorem calls_accept (files : FileSystem) (localPath remotePath : String) :
    (f.accept files localPath remotePath).2.calls =
      { f.calls with puts := f.calls.puts ++ [(localPath, remotePath)] } := by
  rw [accept]
  split
  · rfl
  · -- neither the directory nor the local file makes a difference
    dsimp only
    repeat' split
    all_goals rfl

theorem calls_deliver (remotePath : String) :
    (f.deliver remotePath).2.calls = { f.calls with gets := f.calls.gets ++ [remotePath] } := by
  rw [deliver]
  split
  · rfl
  · split <;> rfl

theorem calls_close : f.close.2.calls = { f.calls with closes := f.calls.closes + 1 } := by
  rw [close]
  split <;> rfl

end FakeHost

/-! ### One call -/

/-- The command that a call has carried out, whether it ended well or badly. -/
def Call.carried? : Call → Option String
  | exec _ command _ delivery =>
    match delivery.result with
    | .ok _ => some command
    | .error _ => none
  | _ => none

/-- **How a fake host answers a call**, depending on the flag, and what it is afterwards. -/
inductive Answers (interrupted : Bool) (f : FakeHost) : Call → FakeHost → Prop
  | connect {target : Target} :
      Answers interrupted f (.connect target (f.connect target).1) (f.connect target).2
  | carried {connection : Nat} {command : String} {limits : Limits}
      (hwithin : (limits.check interrupted .instant).failure? = none) :
      Answers interrupted f
        (.exec connection command limits
          ⟨Text.lines (f.perform command).1, .ok (f.perform command).2.1⟩)
        (f.perform command).2.2
  | refused {connection : Nat} {command : String} {limits : Limits} {cause : TransportFailure}
      (hcause : (limits.check interrupted .instant).failure? = some cause) :
      Answers interrupted f (.exec connection command limits ⟨[], .error cause⟩) f
  | put {connection : Nat} {files : FileSystem} {localPath remotePath : String} :
      Answers interrupted f
        (.put connection localPath remotePath (f.accept files localPath remotePath).1)
        (f.accept files localPath remotePath).2
  /-- What the host delivers may still fail to be written on the other side. -/
  | get {connection : Nat} {remotePath localPath : String} {answer : Except TransportFailure Unit} :
      Answers interrupted f (.get connection remotePath localPath answer) (f.deliver remotePath).2
  | close {connection : Nat} : Answers interrupted f (.close connection f.close.1) f.close.2

namespace Answers

variable {interrupted : Bool} {f f' : FakeHost} {call : Call}

/-- The host has seen the commands that it carried out, and no others. -/
theorem execs (h : Answers interrupted f call f') :
    f'.calls.execs = f.calls.execs ++ call.carried?.toList := by
  cases h with
  | connect => rw [FakeHost.calls_connect]; exact (List.append_nil _).symm
  | carried _ => rw [FakeHost.calls_perform]; rfl
  | refused _ => exact (List.append_nil _).symm
  | put => rw [FakeHost.calls_accept]; exact (List.append_nil _).symm
  | get => rw [FakeHost.calls_deliver]; exact (List.append_nil _).symm
  | close => rw [FakeHost.calls_close]; exact (List.append_nil _).symm

/-- The host has seen every closing. -/
theorem closes (h : Answers interrupted f call f') :
    f'.calls.closes = f.calls.closes + call.request.closed?.toList.length := by
  cases h with
  | connect => rw [FakeHost.calls_connect]; rfl
  | carried _ => rw [FakeHost.calls_perform]; rfl
  | refused _ => rfl
  | put => rw [FakeHost.calls_accept]; rfl
  | get => rw [FakeHost.calls_deliver]; rfl
  | close => rw [FakeHost.calls_close]; rfl

/-- **When the flag is up, commands that heed it are refused.** -/
theorem cancelled (h : Answers true f call f') {connection : Nat} {command : String}
    {limits : Limits} (hrequest : call.request = .exec connection command limits)
    (hcancellable : limits.cancellable = true) :
    call.carried? = none ∧ call.failure? = some (.transport .cancelled) := by
  cases h with
  | carried hwithin =>
    cases hrequest
    rw [Limits.check_interrupted hcancellable] at hwithin
    cases hwithin
  | refused hcause =>
    cases hrequest
    rw [Limits.check_interrupted hcancellable] at hcause
    obtain rfl := Option.some.inj hcause
    exact ⟨rfl, rfl⟩
  | _ => cases hrequest

/-- **A command without limits is carried out**, whatever the flag says. -/
theorem unlimited (h : Answers interrupted f call f') {connection : Nat} {command : String}
    (hrequest : call.request = .exec connection command .unlimited) :
    call.carried? = some command := by
  cases h with
  | carried _ =>
    cases hrequest
    rfl
  | refused hcause =>
    cases hrequest
    cases hcause
  | _ => cases hrequest

end Answers

/-! ### One call after the other -/

/-- **A fake host answers calls**, one after the other. Each that comes when a number of calls has
been made already finds the flag up. -/
inductive Served (moment : Nat) (f : FakeHost) : Record → FakeHost → Prop
  | begun : Served moment f [] f
  | answered {calls : Record} {e : Entry} {middle f' : FakeHost} {interrupted : Bool}
      (hserved : Served moment f calls middle)
      (hflag : moment ≤ calls.length → interrupted = true)
      (hanswers : Answers interrupted middle e.call f') : Served moment f (calls ++ [e]) f'

namespace Served

variable {moment : Nat} {f f' : FakeHost} {calls : Record}

theorem execs (h : Served moment f calls f') :
    f'.calls.execs = f.calls.execs ++ calls.filterMap fun e => e.call.carried? := by
  induction h with
  | begun => exact (List.append_nil _).symm
  | @answered calls e _ _ _ _ _ hanswers ih =>
    rw [hanswers.execs, ih, List.filterMap_append, List.append_assoc]
    cases hcarried : e.call.carried? <;> simp [hcarried]

theorem closes (h : Served moment f calls f') :
    f'.calls.closes =
      f.calls.closes + (calls.filterMap fun e => e.call.request.closed?).length := by
  induction h with
  | begun => rfl
  | @answered calls e _ _ _ _ _ hanswers ih =>
    rw [hanswers.closes, ih, List.filterMap_append, List.length_append, Nat.add_assoc]
    cases hclosed : e.call.request.closed? <;> simp [hclosed]

/-- **Every call was answered**, and from the moment on with the flag up. -/
theorem answers (h : Served moment f calls f') {i : Nat} (hi : i < calls.length) :
    ∃ middle middle' interrupted, (moment ≤ i → interrupted = true) ∧
      Answers interrupted middle calls[i].call middle' := by
  induction h with
  | begun => cases hi
  | @answered calls e middle f' interrupted _ hflag hanswers ih =>
    rcases Nat.lt_succ_iff_lt_or_eq.mp (List.length_append ▸ hi) with hi | rfl
    · rw [List.getElem_append_left hi]
      exact ih hi
    · rw [List.getElem_concat_length rfl]
      exact ⟨middle, f', interrupted, hflag, hanswers⟩

/-- **From the moment on, commands that heed the flag are refused.** -/
theorem cancelled (h : Served moment f calls f') {e : Entry} (he : e ∈ calls.drop moment)
    {connection : Nat} {command : String} {limits : Limits}
    (hrequest : e.call.request = .exec connection command limits)
    (hcancellable : limits.cancellable = true) :
    e.call.carried? = none ∧ e.call.failure? = some (.transport .cancelled) := by
  obtain ⟨i, hi, rfl⟩ := List.getElem_of_mem he
  rw [List.getElem_drop] at hrequest ⊢
  obtain ⟨middle, middle', interrupted, hflag, hanswers⟩ := h.answers (by
    rw [List.length_drop] at hi
    exact Nat.add_lt_of_lt_sub' hi)
  rw [hflag (Nat.le_add_right moment i)] at hanswers
  exact hanswers.cancelled hrequest hcancellable

/-- **Commands without limits are carried out**, before the moment and after it. -/
theorem unlimited (h : Served moment f calls f') {e : Entry} (he : e ∈ calls) {connection : Nat}
    {command : String} (hrequest : e.call.request = .exec connection command .unlimited) :
    e.call.carried? = some command := by
  obtain ⟨i, hi, rfl⟩ := List.getElem_of_mem he
  obtain ⟨middle, middle', interrupted, -, hanswers⟩ := h.answers hi
  exact hanswers.unlimited hrequest

end Served

/-! ### The backend -/

section Answers

variable (part : Part ε FakeHost) (host : Host ε)

theorem answers_connect (target : Target) :
    Answers host.interrupted (part.get host.outside)
      (.connect target ((FakeHost.backend part).connect target host).1)
      (part.get ((FakeHost.backend part).connect target host).2.outside) := by
  simp only [FakeHost.backend, part.get_set]
  exact .connect

/-- A command is carried out or refused, as its limits and the flag say. -/
theorem answers_exec {listen : String → Host ε → Host ε} (hlisten : Quiet listen)
    (connection : Nat) (command : String) (limits : Limits) :
    Answers host.interrupted (part.get host.outside)
      (.exec connection command limits
        ((FakeHost.backend part).exec connection command limits listen host).1)
      (part.get ((FakeHost.backend part).exec connection command limits listen host).2.outside) := by
  simp only [FakeHost.backend]
  -- a fake host takes no time, so the limits are looked at once, before the command
  cases hlimits : (limits.check host.interrupted .instant).failure? with
  | some cause =>
    rw [FakeHost.exec, hlimits]
    exact .refused hlimits
  | none =>
    obtain ⟨after, hexec, -, houtside⟩ :=
      FakeHost.exec_within part hlisten command limits host hlimits
    rw [hexec, houtside]
    exact .carried hlimits

theorem answers_put (connection : Nat) (localPath remotePath : String) :
    Answers host.interrupted (part.get host.outside)
      (.put connection localPath remotePath
        ((FakeHost.backend part).put connection localPath remotePath host).1)
      (part.get ((FakeHost.backend part).put connection localPath remotePath host).2.outside) := by
  simp only [FakeHost.backend, part.get_set]
  exact .put

/-- What happens to the octets on the local host makes no difference to the fake host. -/
theorem answers_get (connection : Nat) (remotePath localPath : String) :
    Answers host.interrupted (part.get host.outside)
      (.get connection remotePath localPath
        ((FakeHost.backend part).get connection remotePath localPath host).1)
      (part.get ((FakeHost.backend part).get connection remotePath localPath host).2.outside) := by
  have hdeliver : part.get ((FakeHost.backend part).get connection remotePath localPath
      host).2.outside = ((part.get host.outside).deliver remotePath).2 := by
    simp only [FakeHost.backend]
    rcases (part.get host.outside).deliver remotePath with ⟨cause | bytes, fake⟩
    · exact part.get_set _ _
    · dsimp only
      split <;> exact part.get_set _ _
  rw [hdeliver]
  exact .get

theorem answers_close (connection : Nat) :
    Answers host.interrupted (part.get host.outside)
      (.close connection ((FakeHost.backend part).close connection host).1)
      (part.get ((FakeHost.backend part).close connection host).2.outside) := by
  simp only [FakeHost.backend, part.get_set]
  exact .close

end Answers

/-- **Since a given state, calls were made**, and the fake host has answered them. -/
def ServedSince (moment : Nat) (before now : FakeHost × Record) : Prop :=
  ∃ calls, now.2 = before.2 ++ calls ∧ Served moment before.1 calls now.1

section Keeps

variable {before : FakeHost × Record} {moment : Nat} {host : Host (FakeHost × Record)}

/-- A call is answered, with the flag as it is at this moment, and written down. -/
theorem servedSince_writeDown (h : ServedSince moment before host.outside) {call : Call}
    {flagged after : Host (FakeHost × Record)}
    (hflagged : interruptAt .second (before.2.length + moment) host = flagged)
    (hanswers : Answers flagged.interrupted flagged.outside.1 call after.outside.1) :
    ServedSince moment before (writeDown .second host call after).outside := by
  subst hflagged
  obtain ⟨calls, hcalls, hserved⟩ := h
  -- raising the flag changes neither the fake host nor what is on record
  rw [outside_interruptAt] at hanswers
  refine ⟨calls ++ [⟨call, after.files⟩], ?_, hserved.answered (fun hmoment => ?_) hanswers⟩
  · rw [← List.append_assoc, ← hcalls]
    rfl
  · -- the moment counts from the calls that were on record at the start
    refine interrupted_interruptAt .second _ host ?_
    change _ ≤ host.outside.2.length
    rw [hcalls, List.length_append]
    exact Nat.add_le_add_left hmoment _

/-- **A fake host that is interrupted at some moment** answers every call accordingly. -/
theorem keeps_servedSince (before : FakeHost × Record) (moment : Nat) :
    (((FakeHost.backend .first).interruptedAt .second (before.2.length + moment)).recorded
      .second).Keeps fun _ => ServedSince moment before where
  connect target _ h := servedSince_writeDown h rfl (answers_connect .first _ target)
  exec connection command limits _ hlisten _ h :=
    servedSince_writeDown h rfl (answers_exec .first _ hlisten connection command limits)
  put connection localPath remotePath _ h :=
    servedSince_writeDown h rfl (answers_put .first _ connection localPath remotePath)
  close connection _ h := servedSince_writeDown h rfl (answers_close .first _ connection)

theorem keepsFetching_servedSince (before : FakeHost × Record) (moment : Nat) :
    (((FakeHost.backend .first).interruptedAt .second (before.2.length + moment)).recorded
      .second).KeepsFetching fun _ => ServedSince moment before :=
  fun connection remotePath localPath _ h =>
    servedSince_writeDown h rfl (answers_get .first _ connection remotePath localPath)

end Keeps

end ArtifactPipeline.Remote
