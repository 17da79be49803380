import ArtifactPipeline.Proofs.Script.Apply

/-!
# Rounds of releases

A script releases in *rounds*: everything that is registered, the last first. The actions of a
script only give the state that a round leads to. The relations of this file also keep the
*attempts* that were made on the way, each with the state in which its step was applied.

* `Round` is one round, `Performs` one operation and the round that it may have set off, `Closes`
  the end of a script together with the drop that follows it;
* `Round.run_release` says that a round ends where the action does, and `exists_round` that there
  always is one, as long as no body crashes;
* `Operation.exists_performs` and `Closing.exists_closes` say the same of operations and of ends,
  and what becomes of the registered releases.

An operation releases at most once, after its own part (`Operation.own`) has failed. That a failing
release neither stops a round nor sets off another is how `Round` is defined: an attempt that fails
is noted, and the next one follows.
-/

namespace ArtifactPipeline.Script

variable {ε : Type}

/-! ### One round -/

/-- One attempt to release: what is released, and the state in which its step is applied. -/
structure Attempt (ε : Type) where
  release : Pending ε
  state : Script ε × Host ε

/-- The state once a release has been announced. -/
def announced (p : Pending ε) (state : Script ε × Host ε) : Script ε × Host ε :=
  (state.1, state.2.note (releaseEvent state.1.stage p.step.name))

/-- The state once the failure of a release has been noted. -/
def excused (p : Pending ε) (f : Failure) (state : Script ε × Host ε) : Script ε × Host ε :=
  (state.1, state.2.note (releaseFailedEvent state.1.stage p.step.name f))

/-- The state when nothing is registered any more. -/
def cleared (state : Script ε × Host ε) : Script ε × Host ε :=
  ({ state.1 with pending := [] }, state.2)

/-- One release after another: a failure is noted, and only a crash stops. -/
theorem run_release_cons (p : Pending ε) (ps : List (Pending ε)) (state : Script ε × Host ε) :
    (release (p :: ps)).run state =
      match (apply p.step p.arguments).run (announced p state) with
      | (.done _, middle) => (release ps).run middle
      | (.failed f, middle) => (release ps).run (excused p f middle)
      | (.crashed, middle) => (.crashed, middle) := by
  obtain ⟨script, host⟩ := state
  -- the note before the attempt is part of the state in which it is made
  have hattempt : (apply p.step p.arguments).run
      (script, host.note (releaseEvent script.stage p.step.name)) =
        (apply p.step p.arguments).run (announced p (script, host)) := rfl
  rw [Action.run, release]
  simp only [hattempt]
  rcases (apply p.step p.arguments).run (announced p (script, host)) with ⟨_ | _ | _, middle⟩ <;>
    rfl

/-- **One round of releases**, with its attempts: each starts where the one before it has ended,
whether that was done or failed. -/
inductive Round : List (Pending ε) → Script ε × Host ε → List (Attempt ε) → Script ε × Host ε →
    Prop where
  | nil (state : Script ε × Host ε) : Round [] state [] state
  | done {p : Pending ε} {ps : List (Pending ε)} {state middle after : Script ε × Host ε}
      {value : Option Source} {attempts : List (Attempt ε)}
      (hend : (apply p.step p.arguments).run (announced p state) = (.done value, middle))
      (hrest : Round ps middle attempts after) :
      Round (p :: ps) state (⟨p, announced p state⟩ :: attempts) after
  | failed {p : Pending ε} {ps : List (Pending ε)} {state middle after : Script ε × Host ε}
      {f : Failure} {attempts : List (Attempt ε)}
      (hend : (apply p.step p.arguments).run (announced p state) = (.failed f, middle))
      (hrest : Round ps (excused p f middle) attempts after) :
      Round (p :: ps) state (⟨p, announced p state⟩ :: attempts) after

namespace Round

variable {ps : List (Pending ε)} {state after : Script ε × Host ε} {attempts : List (Attempt ε)}

/-- Every release of a round is attempted, in the order of the round. -/
theorem map_release (h : Round ps state attempts after) : attempts.map Attempt.release = ps := by
  induction h with
  | nil => rfl
  | done _ _ ih => rw [List.map_cons, ih]
  | failed _ _ ih => rw [List.map_cons, ih]

/-- A round does not register anything. -/
theorem pending_eq (h : Round ps state attempts after) :
    after.1.pending = state.1.pending := by
  induction h with
  | nil => rfl
  | @done p _ state middle _ _ _ hend _ ih =>
    -- whichever way an attempt ends, the application has left the registrations alone
    have hkeeps := (apply_keeps p.step p.arguments (announced p state)).2
    rw [hend] at hkeeps
    exact ih.trans hkeeps
  | @failed p _ state middle _ _ _ hend _ ih =>
    have hkeeps := (apply_keeps p.step p.arguments (announced p state)).2
    rw [hend] at hkeeps
    exact ih.trans hkeeps

/-- The action of a round ends where the round does. -/
theorem run_release (h : Round ps state attempts after) :
    (release ps).run state = (.done (), after) := by
  induction h with
  | nil => rfl
  | done hend _ ih =>
    rw [run_release_cons, hend]
    exact ih
  | failed hend _ ih =>
    rw [run_release_cons, hend]
    exact ih

end Round

/-- **There always is a round**, provided that no body crashes. -/
theorem exists_round {ps : List (Pending ε)} (hsafe : ∀ p ∈ ps, p.step.Safe)
    (state : Script ε × Host ε) : ∃ attempts after, Round ps state attempts after := by
  induction ps generalizing state with
  | nil => exact ⟨[], state, .nil state⟩
  | cons p ps ih =>
    -- the rest of the round may begin in any state, so it does not matter how the attempt ends
    have hrest := ih fun q hq => hsafe q (List.mem_cons_of_mem p hq)
    have hcrash := apply_ne_crashed (hsafe p List.mem_cons_self) p.arguments (announced p state)
    cases hend : (apply p.step p.arguments).run (announced p state) with
    | mk outcome middle =>
      cases outcome with
      | done value =>
        obtain ⟨attempts, after, hround⟩ := hrest middle
        exact ⟨_, after, .done hend hround⟩
      | failed f =>
        obtain ⟨attempts, after, hround⟩ := hrest (excused p f middle)
        exact ⟨_, after, .failed hend hround⟩
      | crashed =>
        rw [hend] at hcrash
        exact absurd rfl hcrash

/-- The releases of a script run in the round that starts with nothing registered. -/
theorem run_releaseAll (state : Script ε × Host ε) :
    releaseAll.run state = (release state.1.pending.reverse).run (cleared state) := rfl

/-- A failure is followed by a round; nothing else is. -/
theorem run_releasingOnFailure {α : Type} (x : Action (Script ε × Host ε) α)
    (state : Script ε × Host ε) :
    (releasingOnFailure x).run state =
      match x.run state with
      | (.failed f, middle) =>
        match releaseAll.run middle with
        | (.crashed, after) => (.crashed, after)
        | (_, after) => (.failed f, after)
      | ended => ended := rfl

/-! ### One operation -/

/-- An operation of a script, with its step and the references that it is given. -/
inductive Operation (ε : Type) where
  | eval (step : Step ε) (refs : List Ref)
  | perform (step : Step ε) (refs : List Ref)
  | defer (step : Step ε) (refs : List Ref)

namespace Operation

/-- The step of an operation. -/
def step : Operation ε → Step ε
  | eval step _ | perform step _ | defer step _ => step

/-- What an operation does. The reference to a new value is not kept, for it is known beforehand. -/
def action : Operation ε → Action (Script ε × Host ε) Unit
  | eval step refs => do
    let _ ← Script.eval step refs
  | perform step refs => Script.perform step refs
  | defer step refs => Script.defer step refs

/-- The part of an operation that comes before any release. -/
def own : Operation ε → Action (Script ε × Host ε) Unit
  | eval step refs => do
    match ← apply step refs with
    | some source =>
      .change fun (script, host) =>
        ({ script with slots := script.slots ++ [⟨step.name, some source⟩] }, host)
    | none => .fail (.missingResult step.name (step.result.getD .untyped))
  | perform step refs => do
    let _ ← apply step refs
  | defer step refs =>
    if step.release then
      .change fun (script, host) =>
        ({ script with pending := script.pending ++ [⟨step, refs⟩] }, host)
    else .fail (.notRelease step.name)

/-- The release that an operation registers, if it does. -/
def registered? : Operation ε → Option (Pending ε)
  | eval _ _ | perform _ _ => none
  | defer step refs => if step.release then some ⟨step, refs⟩ else none

/-- **When an operation fails**: its step fails, or it yields nothing where a value is needed, or it
releases nothing although it is to be registered. -/
def Fails : Operation ε → Script ε × Host ε → Prop
  | eval step refs, state =>
    ((apply step refs).run state).1.isFailed = true ∨
      ((apply step refs).run state).1 = .done none
  | perform step refs, state => ((apply step refs).run state).1.isFailed = true
  | defer step _, _ => step.release = false

/-- An operation is its own part, and a round of releases when that fails. -/
theorem run_action_eq (op : Operation ε) (state : Script ε × Host ε) :
    op.action.run state = (releasingOnFailure op.own).run state := by
  cases op with
  | perform | defer => rfl
  | eval step refs =>
    rw [action, Action.run_bind, Script.eval, run_releasingOnFailure, run_releasingOnFailure, own]
    simp only [Action.run_bind]
    rcases (apply step refs).run state with ⟨(_ | source) | f | _, middle⟩
    -- in both the round comes right after a failure, be it that of the step or that of no value
    · rcases hround : releaseAll.run middle with ⟨_ | _ | _, after⟩ <;> simp [hround]
    · rfl
    · rcases hround : releaseAll.run middle with ⟨_ | _ | _, after⟩ <;> simp [hround]
    · rfl

/-- **What the own part of an operation does.** When it is done, it may have registered one more
release; when it fails, nothing was registered; and it crashes only if its step does. -/
theorem run_own {op : Operation ε} (hsafe : op.step.Safe) (state : Script ε × Host ε) :
    (∃ after, op.own.run state = (.done (), after) ∧ ¬op.Fails state ∧
        after.1.pending = state.1.pending ++ op.registered?.toList) ∨
      ∃ f after, op.own.run state = (.failed f, after) ∧ op.Fails state ∧
        after.1.pending = state.1.pending ∧ op.registered? = none := by
  cases op with
  | eval step refs =>
    have hkeeps := (apply_keeps step refs state).2
    have hcrash : ((apply step refs).run state).1 ≠ .crashed := apply_ne_crashed hsafe refs state
    rw [own, Action.run_bind, Fails]
    generalize (apply step refs).run state = ended at hkeeps hcrash ⊢
    rcases ended with ⟨(_ | source) | f | _, after⟩
    · -- the step was done, but it has yielded nothing
      exact .inr ⟨_, after, rfl, .inr rfl, hkeeps, rfl⟩
    · refine .inl ⟨_, rfl, ?_, hkeeps.trans (List.append_nil _).symm⟩
      rintro (h | h) <;> cases h
    · exact .inr ⟨f, after, rfl, .inl rfl, hkeeps, rfl⟩
    · exact absurd rfl hcrash
  | perform step refs =>
    have hkeeps := (apply_keeps step refs state).2
    have hcrash : ((apply step refs).run state).1 ≠ .crashed := apply_ne_crashed hsafe refs state
    rw [own, Action.run_bind, Fails]
    generalize (apply step refs).run state = ended at hkeeps hcrash ⊢
    rcases ended with ⟨value | f | _, after⟩
    · exact .inl ⟨after, rfl, Bool.false_ne_true, hkeeps.trans (List.append_nil _).symm⟩
    · exact .inr ⟨f, after, rfl, rfl, hkeeps, rfl⟩
    · exact absurd rfl hcrash
  | defer step refs =>
    rw [own, Fails, registered?]
    cases hrelease : step.release with
    | true => exact .inl ⟨_, rfl, nofun, rfl⟩
    | false => exact .inr ⟨_, state, rfl, rfl, rfl, rfl⟩

end Operation

/-- **One operation**, with the attempts it makes: none when its own part is done, and those of one
round when that has failed. -/
inductive Performs (op : Operation ε) (state : Script ε × Host ε) :
    List (Attempt ε) → Script ε × Host ε → Prop where
  | quiet {after : Script ε × Host ε} (hown : op.own.run state = (.done (), after)) :
      Performs op state [] after
  | failing {f : Failure} {middle after : Script ε × Host ε} {attempts : List (Attempt ε)}
      (hown : op.own.run state = (.failed f, middle))
      (hround : Round middle.1.pending.reverse (cleared middle) attempts after) :
      Performs op state attempts after

/-- **There is such an account of every operation.** Either nothing was released and there may be
one more registration, or everything was released, the last first, and nothing is registered. -/
theorem Operation.exists_performs {op : Operation ε} (hsafe : op.step.Safe)
    {state : Script ε × Host ε} (hpending : ∀ p ∈ state.1.pending, p.step.Safe) :
    ∃ attempts after, Performs op state attempts after ∧
      ((op.action.run state = (.done (), after) ∧ ¬op.Fails state ∧ attempts = [] ∧
          after.1.pending = state.1.pending ++ op.registered?.toList) ∨
        (∃ f, op.action.run state = (.failed f, after)) ∧ op.Fails state ∧
          op.registered? = none ∧ attempts.map Attempt.release = state.1.pending.reverse ∧
          after.1.pending = []) := by
  rw [run_action_eq, run_releasingOnFailure]
  obtain ⟨after, hown, hfails, hafter⟩ | ⟨f, middle, hown, hfails, hmiddle, hregistered⟩ :=
    run_own hsafe state
  · refine ⟨[], after, .quiet hown, .inl ⟨?_, hfails, rfl, hafter⟩⟩
    rw [hown]
  · -- the own part has failed and registered nothing, so the round is over what was there before
    have hround : ∀ p ∈ middle.1.pending.reverse, p.step.Safe := by
      intro p hp
      rw [hmiddle] at hp
      exact hpending p (List.mem_reverse.mp hp)
    obtain ⟨attempts, after, hround⟩ := exists_round hround (cleared middle)
    have hrun : releaseAll.run middle = (.done (), after) := hround.run_release
    refine ⟨attempts, after, .failing hown hround, .inr ⟨⟨f, ?_⟩, hfails, hregistered, ?_, ?_⟩⟩
    · simp only [hown, hrun]
    · rw [hround.map_release, hmiddle]
    · exact hround.pending_eq

/-! ### The end of a script -/

/-- How a script is ended: with a value of its table, or by leaving it with a result of another
origin. -/
inductive Closing where
  | finish (output : Ref) (expected : Kind)
  | drop (result : Except Failure Source)

/-- What is done at the end of a script, before it is dropped. -/
def Closing.action : Closing → Action (Script ε × Host ε) Source
  | finish output expected => Script.finish output expected
  | drop result => .ofExcept result

/-- The state once the value to finish with has been taken out, if it was there. -/
def yielded (output : Ref) (state : Script ε × Host ε) : Script ε × Host ε :=
  match takeSlot state.1.stage state.1.slots output with
  | .ok (_, slots) => ({ state.1 with slots }, state.2)
  | .error _ => state

/-- Taking the value to finish with leaves the registrations alone. -/
theorem pending_yielded (output : Ref) (state : Script ε × Host ε) :
    (yielded output state).1.pending = state.1.pending := by
  rw [yielded]
  split <;> rfl

/-- **The end of a script**, with its attempts. A script that was finished, in a round that comes
after its value was taken out, is dropped nevertheless, which is a round of its own. -/
inductive Closes : Closing → Script ε × Host ε → List (Attempt ε) → Script ε × Host ε → Prop where
  | finish {output : Ref} {expected : Kind} {outcome : Outcome Source}
      {state middle after : Script ε × Host ε} {attempts again : List (Attempt ε)}
      (hround : Round state.1.pending.reverse (cleared (yielded output state)) attempts middle)
      (hfinish : (Script.finish output expected).run state = (outcome, middle))
      (hdrop : Round middle.1.pending.reverse (cleared middle) again after) :
      Closes (.finish output expected) state (attempts ++ again) after
  | drop {result : Except Failure Source} {state after : Script ε × Host ε}
      {attempts : List (Attempt ε)}
      (hround : Round state.1.pending.reverse (cleared state) attempts after) :
      Closes (.drop result) state attempts after

/-- What the runner of a script makes of its end: whatever is still registered is released. -/
def settle : Outcome Source × (Script ε × Host ε) → Outcome Source × Host ε
  | (.crashed, (_, host)) => (.crashed, host)
  | (outcome, state) =>
    match releaseAll.run state with
    | (.crashed, (_, host)) => (.crashed, host)
    | (_, (_, host)) => (outcome, host)

theorem run_runWith (stage : String) (input : Source)
    (body : Action (Script ε × Host ε) Source) (host : Host ε) :
    (runWith stage input body).run host = settle (body.run (start stage input, host)) := rfl

theorem settle_of_run_releaseAll {outcome : Outcome Source} (hcrash : outcome ≠ .crashed)
    {state after : Script ε × Host ε} (hround : releaseAll.run state = (.done (), after)) :
    settle (outcome, state) = (outcome, after.2) := by
  cases outcome with
  | done | failed => simp [settle, hround]
  | crashed => exact absurd rfl hcrash

/-- Where nothing is registered, the runner has nothing left to do. -/
theorem settle_of_pending_nil {outcome : Outcome Source} {script : Script ε} {host : Host ε}
    (hpending : script.pending = []) : settle (outcome, (script, host)) = (outcome, host) := by
  have hround : releaseAll.run (script, host) =
      (.done (), ({ script with pending := [] }, host)) := by
    rw [run_releaseAll, hpending]
    rfl
  cases outcome <;> simp [settle, hround]

/-- A script is finished in the round that follows the taking of its value. -/
theorem run_finish {output : Ref} {expected : Kind} {state middle : Script ε × Host ε}
    (hround : releaseAll.run (yielded output state) = (.done (), middle)) :
    ∃ outcome, (finish output expected).run state = (outcome, middle) ∧ outcome ≠ .crashed := by
  obtain ⟨script, host⟩ := state
  rw [Action.run, finish]
  rw [yielded] at hround
  cases htaken : takeSlot script.stage script.slots output with
  | error f =>
    -- the value is not there, which is found out before the round and told after it
    simp only [htaken] at hround ⊢
    rw [hround]
    exact ⟨_, rfl, by rintro ⟨⟩⟩
  | ok taken =>
    simp only [htaken] at hround ⊢
    rw [hround]
    by_cases haccepts : expected.accepts taken.1.kind = true
    · exact ⟨.done taken.1, by simp [haccepts], by rintro ⟨⟩⟩
    · refine ⟨.failed (.resultKind script.stage expected taken.1.kind), by simp [haccepts], ?_⟩
      rintro ⟨⟩

/-- **There is such an account of every end.** Everything that is still registered is released, the
last first, and that is all the runner finds to do. -/
theorem Closing.exists_closes (closing : Closing) {state : Script ε × Host ε}
    (hpending : ∀ p ∈ state.1.pending, p.step.Safe) :
    ∃ attempts after outcome, Closes closing state attempts after ∧
      attempts.map Attempt.release = state.1.pending.reverse ∧
      settle (closing.action.run state) = (outcome, after.2) := by
  have hsafe : ∀ p ∈ state.1.pending.reverse, p.step.Safe :=
    fun p hp => hpending p (List.mem_reverse.mp hp)
  cases closing with
  | finish output expected =>
    obtain ⟨attempts, middle, hround⟩ := exists_round hsafe (cleared (yielded output state))
    have hmiddle : middle.1.pending = [] := hround.pending_eq
    have hrun : releaseAll.run (yielded output state) = (.done (), middle) := by
      rw [run_releaseAll, pending_yielded]
      exact hround.run_release
    obtain ⟨outcome, hfinish, hcrash⟩ := run_finish hrun
    -- the drop finds nothing to release
    have hdrop : Round middle.1.pending.reverse (cleared middle) [] (cleared middle) := by
      rw [hmiddle]
      exact .nil _
    refine ⟨attempts ++ [], cleared middle, outcome, .finish hround hfinish hdrop, ?_, ?_⟩
    · rw [List.append_nil]
      exact hround.map_release
    · rw [Closing.action, hfinish]
      exact settle_of_run_releaseAll hcrash hdrop.run_release
  | drop result =>
    obtain ⟨attempts, after, hround⟩ := exists_round hsafe (cleared state)
    refine ⟨attempts, after, .ofExcept result, .drop hround, hround.map_release, ?_⟩
    refine settle_of_run_releaseAll ?_ hround.run_release
    -- a script is left with a result or with a failure
    cases result <;> nofun

end ArtifactPipeline.Script
