import ArtifactPipeline.Failure

/-!
# Actions

An *action* changes a state and ends in one of three ways (`Outcome`): it is done and has a result,
it failed for a reason, or it crashed. A failure is a value that the caller can look at and go on
from; a crash ends everything that was under way. Actions are put together in sequence, and a
sequence ends with its first part that is not done.

`Action.zoom` runs an action on a part of a larger state.
-/

namespace ArtifactPipeline

/-- How an action ends. -/
inductive Outcome (α : Type) where
  | done (a : α)
  | failed (f : Failure)
  | crashed
deriving Repr, DecidableEq

namespace Outcome

variable {α β : Type}

/-- An outcome whose result is changed. -/
def map (f : α → β) : Outcome α → Outcome β
  | done a => done (f a)
  | failed e => failed e
  | crashed => crashed

/-- The outcome of a computation that cannot crash. -/
def ofExcept : Except Failure α → Outcome α
  | .ok a => done a
  | .error e => failed e

/-- Whether an action failed. -/
def isFailed : Outcome α → Bool
  | failed _ => true
  | done _ | crashed => false

@[simp] theorem map_done (f : α → β) (a : α) : (done a).map f = done (f a) := rfl

@[simp] theorem map_failed (f : α → β) (e : Failure) : (failed e).map f = failed e := rfl

@[simp] theorem map_crashed (f : α → β) : (crashed : Outcome α).map f = crashed := rfl

@[simp] theorem ofExcept_ok (a : α) : ofExcept (.ok a) = done a := rfl

@[simp] theorem ofExcept_error (e : Failure) : (ofExcept (.error e) : Outcome α) = failed e := rfl

end Outcome

/-- A change of a state that ends in one of three ways. -/
def Action (σ α : Type) : Type := σ → Outcome α × σ

namespace Action

variable {σ τ α β : Type}

/-- Run an action on a state. -/
def run (x : Action σ α) (s : σ) : Outcome α × σ := x s

/-- Go on after an action that is done. -/
def andThen (x : Action σ α) (f : α → Action σ β) : Action σ β := fun s =>
  match x s with
  | (.done a, s') => f a s'
  | (.failed e, s') => (.failed e, s')
  | (.crashed, s') => (.crashed, s')

instance : Monad (Action σ) where
  pure a := fun s => (.done a, s)
  bind := andThen

/-- The state. -/
def current : Action σ σ := fun s => (.done s, s)

/-- Change the state. -/
def change (f : σ → σ) : Action σ Unit := fun s => (.done (), f s)

/-- End with a failure. -/
def fail (f : Failure) : Action σ α := fun s => (.failed f, s)

/-- End with a crash. -/
def crash : Action σ α := fun s => (.crashed, s)

/-- A computation that does not touch the state. -/
def ofExcept (x : Except Failure α) : Action σ α := fun s => (.ofExcept x, s)

/-- Run an action and hand its outcome over, whatever it is. -/
def attempt (x : Action σ α) : Action σ (Outcome α) := fun s =>
  let (outcome, s') := x s
  (.done outcome, s')

/-- Run an action on a part of the state. -/
def zoom (get : τ → σ) (set : σ → τ → τ) (x : Action σ α) : Action τ α := fun t =>
  let (outcome, s) := x (get t)
  (outcome, set s t)

@[simp] theorem run_pure (a : α) (s : σ) : (pure a : Action σ α).run s = (.done a, s) := rfl

theorem run_bind (x : Action σ α) (f : α → Action σ β) (s : σ) :
    (x >>= f).run s =
      match x.run s with
      | (.done a, s') => (f a).run s'
      | (.failed e, s') => (.failed e, s')
      | (.crashed, s') => (.crashed, s') := rfl

@[simp] theorem run_fail (f : Failure) (s : σ) : (fail f : Action σ α).run s = (.failed f, s) := rfl

@[simp] theorem run_crash (s : σ) : (crash : Action σ α).run s = (.crashed, s) := rfl

@[simp] theorem run_current (s : σ) : (current : Action σ σ).run s = (.done s, s) := rfl

@[simp] theorem run_change (f : σ → σ) (s : σ) : (change f).run s = (.done (), f s) := rfl

@[simp] theorem run_ofExcept (x : Except Failure α) (s : σ) :
    (ofExcept x : Action σ α).run s = (.ofExcept x, s) := rfl

@[simp] theorem run_attempt (x : Action σ α) (s : σ) :
    x.attempt.run s = (.done (x.run s).1, (x.run s).2) := rfl

@[simp] theorem run_zoom (get : τ → σ) (set : σ → τ → τ) (x : Action σ α) (t : τ) :
    (x.zoom get set).run t = ((x.run (get t)).1, set (x.run (get t)).2 t) := rfl

instance : LawfulMonad (Action σ) := LawfulMonad.mk' _
  (fun x => by
    funext s
    change (match x s with
      | (.done a, s') => (.done a, s')
      | (.failed e, s') => (.failed e, s')
      | (.crashed, s') => (.crashed, s')) = x s
    rcases x s with ⟨_ | _ | _, s'⟩ <;> rfl)
  (fun _ _ => rfl)
  (fun x f g => by
    funext s
    change (match (match x s with
        | (.done a, s') => f a s'
        | (.failed e, s') => (.failed e, s')
        | (.crashed, s') => (.crashed, s')) with
      | (.done a, s') => g a s'
      | (.failed e, s') => (.failed e, s')
      | (.crashed, s') => (.crashed, s')) =
      (match x s with
        | (.done a, s') => andThen (f a) g s'
        | (.failed e, s') => (.failed e, s')
        | (.crashed, s') => (.crashed, s'))
    rcases x s with ⟨_ | _ | _, s'⟩ <;> rfl)

end Action

end ArtifactPipeline
