import ArtifactPipeline.Proofs.Script.Rejection

/-!
# Releases do not sway a script

The releases of a script run over the table that holds its result. They may change values, use them
up or fail, and nothing keeps them from referring to the very slot that the script is finished with.
What the script returns does not depend on them all the same.

The crux is an order that `Script.finish` keeps: the value is taken out of the table before the first
release runs, and its kind is looked at after the last. So the result can be read off the table of the
call (`returned`), and the releases get a table in which the value is gone.

* `run_finish_cases` : finishing makes a whole round of releases and returns just that;
* `run_apply_withPending` : what is pending does not show in an application, from which follows that
  it does not show in how an operation ends (`fst_run_releasingOnFailure`);
* `releases_sway_nothing` puts the two together.

The one thing that releases can do is to crash. Then nothing is returned at all.
-/

namespace ArtifactPipeline.Script

variable {ε α : Type}

/-! ### Rounds that end -/

section Rounds

variable {ps : List (Pending ε)} {state : Script ε × Host ε}

/-- Releases that come to an end have made a whole round. -/
theorem exists_round_of_run (hcrash : ((release ps).run state).1 ≠ .crashed) :
    ∃ attempts after, Round ps state attempts after := by
  induction ps generalizing state with
  | nil => exact ⟨[], state, .nil state⟩
  | cons p ps ih =>
    rw [run_release_cons] at hcrash
    rcases hend : (apply p.step p.arguments).run (announced p state) with ⟨value | f | _, middle⟩
    · rw [hend] at hcrash
      obtain ⟨attempts, after, hround⟩ := ih hcrash
      exact ⟨_, after, .done hend hround⟩
    · rw [hend] at hcrash
      obtain ⟨attempts, after, hround⟩ := ih hcrash
      exact ⟨_, after, .failed hend hround⟩
    · rw [hend] at hcrash
      exact absurd rfl hcrash

/-- Only a body that crashes keeps releases from coming to an end. -/
theorem exists_unsafe_of_crashed (hcrash : ((release ps).run state).1 = .crashed) :
    ∃ p ∈ ps, ¬p.step.Safe := by
  by_contra hsafe
  push Not at hsafe
  obtain ⟨attempts, after, hround⟩ := exists_round hsafe state
  rw [hround.run_release] at hcrash
  cases hcrash

end Rounds

/-! ### The end of a script -/

/-- **What a script returns** when it is finished with a slot: the value that the slot holds at the
time of the call, if it is of the kind expected. -/
def returned (script : Script ε) (output : Ref) (expected : Kind) : Except Failure Source :=
  match valueAt script.slots output with
  | none => .error (.valueConsumed script.stage (label script.slots output))
  | some source =>
    if expected = .untyped ∨ expected = source.kind then .ok source
    else .error (.resultKind script.stage expected source.kind)

/-- To finish is to take the value out, to release, and to say what was returned. -/
theorem run_finish_eq (output : Ref) (expected : Kind) (state : Script ε × Host ε) :
    (finish output expected).run state =
      match releaseAll.run (yielded output state) with
      | (.crashed, after) => (.crashed, after)
      | (_, after) => (.ofExcept (returned state.1 output expected), after) := by
  obtain ⟨script, host⟩ := state
  rw [Action.run, finish, yielded, returned]
  cases htaken : takeSlot script.stage script.slots output with
  | error f =>
    obtain ⟨hvalue, rfl⟩ := takeSlot_eq_error_iff.mp htaken
    rw [hvalue]
    simp only
    rcases releaseAll.run (script, host) with ⟨_ | _ | _, after⟩ <;> rfl
  | ok taken =>
    obtain ⟨source, rest⟩ := taken
    have hvalue : valueAt script.slots output = some source :=
      valueAt_eq_some_iff.mpr (takeSlot_eq_ok_iff.mp htaken).1
    rw [hvalue]
    simp only
    -- the kind is looked at only after the releases, but it was settled before them
    by_cases haccepts : expected.accepts source.kind = true
    · rw [if_pos (Kind.accepts_iff.mp haccepts)]
      rcases releaseAll.run ({ script with slots := rest }, host) with ⟨_ | _ | _, after⟩ <;>
        simp [haccepts]
    · rw [if_neg (Kind.accepts_iff.not.mp haccepts)]
      rcases releaseAll.run ({ script with slots := rest }, host) with ⟨_ | _ | _, after⟩ <;>
        simp [haccepts]

/-- **How finishing ends.** Everything that is pending is attempted, once the value has been taken out
of the table, and what is returned was settled before. Otherwise a release has crashed. -/
theorem run_finish_cases (output : Ref) (expected : Kind) (state : Script ε × Host ε) :
    (∃ attempts after,
        Round state.1.pending.reverse (cleared (yielded output state)) attempts after ∧
        (finish output expected).run state =
          (.ofExcept (returned state.1 output expected), after)) ∨
      ((finish output expected).run state).1 = .crashed ∧ ∃ p ∈ state.1.pending, ¬p.step.Safe := by
  rw [run_finish_eq, run_releaseAll, pending_yielded]
  by_cases hcrash :
      ((release state.1.pending.reverse).run (cleared (yielded output state))).1 = .crashed
  · right
    obtain ⟨p, hp, hunsafe⟩ := exists_unsafe_of_crashed hcrash
    refine ⟨?_, p, List.mem_reverse.mp hp, hunsafe⟩
    generalize (release state.1.pending.reverse).run _ = ended at hcrash
    obtain ⟨outcome, after⟩ := ended
    obtain rfl : outcome = .crashed := hcrash
    rfl
  · left
    obtain ⟨attempts, after, hround⟩ := exists_round_of_run hcrash
    refine ⟨attempts, after, hround, ?_⟩
    simp only [hround.run_release]

/-! ### Operations -/

/-- The same script with other releases pending. -/
def withPending (script : Script ε) (pending : List (Pending ε)) : Script ε := { script with pending }

/-- **What is pending does not show in an application**, and is still pending after it. -/
theorem run_apply_withPending (step : Step ε) (refs : List Ref) (script : Script ε) (host : Host ε)
    (pending : List (Pending ε)) :
    (apply step refs).run (script.withPending pending, host) =
      (((apply step refs).run (script, host)).1,
        (((apply step refs).run (script, host)).2.1.withPending pending,
          ((apply step refs).run (script, host)).2.2)) := by
  rw [Action.run, Action.run, apply, apply, withPending]
  cases lend step.name script.slots refs <;> rfl

/-- An action that ends although it releases on failure ends as it does without the releases. -/
theorem fst_run_releasingOnFailure {x : Action (Script ε × Host ε) α} {state : Script ε × Host ε}
    (hends : ((releasingOnFailure x).run state).1 ≠ .crashed) :
    ((releasingOnFailure x).run state).1 = (x.run state).1 := by
  rw [run_releasingOnFailure] at hends ⊢
  rcases hown : x.run state with ⟨a | f | _, middle⟩
  · rfl
  · -- a failure remains, unless one of the releases after it crashes
    rcases hround : releaseAll.run middle with ⟨_ | _ | _, after⟩ <;>
      simp [hown, hround] at hends ⊢
  · rfl

section Operations

variable {script : Script ε} {host : Host ε} {pending : List (Pending ε)} {step : Step ε}
  {refs : List Ref}

/-- What is pending does not show in how an action ends, provided that it does not show in how the
action ends without the releases. -/
theorem fst_run_releasingOnFailure_withPending {x : Action (Script ε × Host ε) α}
    (hown : (x.run (script.withPending pending, host)).1 = (x.run (script, host)).1)
    (hends : ((releasingOnFailure x).run (script, host)).1 ≠ .crashed)
    (hends' : ((releasingOnFailure x).run (script.withPending pending, host)).1 ≠ .crashed) :
    ((releasingOnFailure x).run (script.withPending pending, host)).1 =
      ((releasingOnFailure x).run (script, host)).1 := by
  rw [fst_run_releasingOnFailure hends, fst_run_releasingOnFailure hends', hown]

theorem fst_run_eval_withPending (hends : ((eval step refs).run (script, host)).1 ≠ .crashed)
    (hends' : ((eval step refs).run (script.withPending pending, host)).1 ≠ .crashed) :
    ((eval step refs).run (script.withPending pending, host)).1 =
      ((eval step refs).run (script, host)).1 := by
  refine fst_run_releasingOnFailure_withPending ?_ hends hends'
  rw [Action.run_bind, Action.run_bind, run_apply_withPending]
  rcases (apply step refs).run (script, host) with ⟨(_ | source) | f | _, middle⟩ <;> rfl

theorem fst_run_perform_withPending
    (hends : ((perform step refs).run (script, host)).1 ≠ .crashed)
    (hends' : ((perform step refs).run (script.withPending pending, host)).1 ≠ .crashed) :
    ((perform step refs).run (script.withPending pending, host)).1 =
      ((perform step refs).run (script, host)).1 := by
  refine fst_run_releasingOnFailure_withPending ?_ hends hends'
  rw [Action.run_bind, Action.run_bind, run_apply_withPending]
  rcases (apply step refs).run (script, host) with ⟨value | f | _, middle⟩ <;> rfl

end Operations

/-! ### Both together -/

/-- **Nothing that a script returns is swayed by its releases.**

* `finished`: to finish attempts everything that is pending, and returns what the table of the call
  says, unless a release crashes;
* `finishedAlike`: with other releases pending, on whatever host, the script returns the same;
* `evaluatedAlike`, `performedAlike`: so do the operations, also when they fail and set off what is
  pending. -/
structure Unswayed (state : Script ε × Host ε) : Prop where
  finished : ∀ output expected,
    (∃ attempts after,
        Round state.1.pending.reverse (cleared (yielded output state)) attempts after ∧
        (finish output expected).run state =
          (.ofExcept (returned state.1 output expected), after)) ∨
      ((finish output expected).run state).1 = .crashed ∧ ∃ p ∈ state.1.pending, ¬p.step.Safe
  finishedAlike : ∀ output expected pending host,
    ((finish output expected).run state).1 ≠ .crashed →
    ((finish output expected).run (state.1.withPending pending, host)).1 ≠ .crashed →
      ((finish output expected).run (state.1.withPending pending, host)).1 =
        ((finish output expected).run state).1
  evaluatedAlike : ∀ step refs pending, ((eval step refs).run state).1 ≠ .crashed →
    ((eval step refs).run (state.1.withPending pending, state.2)).1 ≠ .crashed →
      ((eval step refs).run (state.1.withPending pending, state.2)).1 =
        ((eval step refs).run state).1
  performedAlike : ∀ step refs pending, ((perform step refs).run state).1 ≠ .crashed →
    ((perform step refs).run (state.1.withPending pending, state.2)).1 ≠ .crashed →
      ((perform step refs).run (state.1.withPending pending, state.2)).1 =
        ((perform step refs).run state).1

/-- A script that can be finished returns what its table says. -/
theorem fst_run_finish {output : Ref} {expected : Kind} {state : Script ε × Host ε}
    (hends : ((finish output expected).run state).1 ≠ .crashed) :
    ((finish output expected).run state).1 = .ofExcept (returned state.1 output expected) := by
  obtain ⟨attempts, after, -, hrun⟩ | ⟨hcrash, -⟩ := run_finish_cases output expected state
  · rw [hrun]
  · exact absurd hcrash hends

/-- **Releases sway nothing**, in whatever state the script is, and whatever their bodies do: change
the values that they share with the result, use them up, or fail. In particular the bodies of the
pending releases may be replaced by any others. -/
theorem releases_sway_nothing (state : Script ε × Host ε) : Unswayed state := by
  refine ⟨fun output expected => run_finish_cases output expected state,
    fun output expected pending host hends hends' => ?_,
    fun step refs pending hends hends' => fst_run_eval_withPending hends hends',
    fun step refs pending hends hends' => fst_run_perform_withPending hends hends'⟩
  rw [fst_run_finish hends, fst_run_finish hends']
  -- neither the stage nor the table knows of the releases
  rfl

/-- A release that refers to the result does not get hold of it. -/
example : ((finish 0 .string).run halfUsed).1 = .done (.string "text") := rfl

end ArtifactPipeline.Script
