import ArtifactPipeline.Proofs.Remote.Session

/-!
# Calls that follow a plan

A sequence of operations of a session makes its calls in a fixed order, and the first call that
fails ends it. `Follows` is this reading of a record: the calls answer to the beginning of a *plan*,
each but the last was answered well, and the outcome is the failure of the last one, or else it is
decided by what comes after the plan.

* `Makes` says of an action that its calls follow a plan, with nothing after it;
* `Asks.makes` and `Makes.bind` are its rules, for one call and for a sequence;
* `Follows.append` puts a plan and what comes after it together.
-/

namespace ArtifactPipeline.Remote

variable {ε α β : Type}

/-- What was asked, call by call. -/
def requests (calls : Record) : List Request := calls.map fun e => e.call.request

@[simp] theorem requests_cons (e : Entry) (calls : Record) :
    requests (e :: calls) = e.call.request :: requests calls := rfl

@[simp] theorem requests_append (calls more : Record) :
    requests (calls ++ more) = requests calls ++ requests more := List.map_append

/-- **The calls follow a plan.** Begun with some files, the calls answer to the plan one after the
other. The first that fails is the last, and its failure is the outcome; when none does, what is
left of the calls after the plan, and the outcome, are as `final` says. -/
inductive Follows (final : FileSystem → Record → Outcome α → Prop) :
    FileSystem → List Request → Record → Outcome α → Prop
  | broken {files : FileSystem} {e : Entry} {plan : List Request} {f : Failure}
      (hfailed : e.call.failure? = some f) :
      Follows final files (e.call.request :: plan) [e] (.failed f)
  | answered {files : FileSystem} {e : Entry} {plan : List Request} {calls : Record}
      {outcome : Outcome α} (hanswered : e.call.failure? = none)
      (hrest : Follows final e.files plan calls outcome) :
      Follows final files (e.call.request :: plan) (e :: calls) outcome
  | finished {files : FileSystem} {calls : Record} {outcome : Outcome α}
      (hfinal : final files calls outcome) : Follows final files [] calls outcome

/-- Nothing comes after the plan, and all is well. -/
def Finished (_ : FileSystem) (calls : Record) (outcome : Outcome α) : Prop :=
  calls = [] ∧ ∃ a, outcome = .done a

/-- A plan that failed on its own fails with anything after it. -/
theorem Follows.append_of_failed (final : FileSystem → Record → Outcome β → Prop)
    {files : FileSystem} {plan : List Request} {calls : Record} {f : Failure}
    (hfollows : Follows (Finished (α := α)) files plan calls (.failed f)) (more : List Request) :
    Follows final files (plan ++ more) calls (.failed f) := by
  -- the induction is on the calls that were made; the outcome stays the same all along
  generalize houtcome : (Outcome.failed f : Outcome α) = outcome at hfollows
  induction hfollows with
  | broken hfailed =>
    cases houtcome
    exact .broken hfailed
  | answered hanswered _ ih => exact .answered hanswered (ih houtcome)
  | finished hfinal =>
    -- what is finished is done
    obtain ⟨-, a, rfl⟩ := hfinal
    cases houtcome

/-- A plan that was followed to its end leads over to what comes after it. -/
theorem Follows.append {final : FileSystem → Record → Outcome β → Prop} {files : FileSystem}
    {plan more : List Request} {calls later : Record} {a : α} {outcome : Outcome β}
    (hfollows : Follows Finished files plan calls (.done a))
    (hlater : Follows final (filesAfter files calls) more later outcome) :
    Follows final files (plan ++ more) (calls ++ later) outcome := by
  generalize houtcome : (Outcome.done a : Outcome α) = first at hfollows
  induction hfollows with
  | broken hfailed => cases houtcome
  | answered hanswered _ ih => exact .answered hanswered (ih hlater houtcome)
  | finished hfinal =>
    -- nothing is left over, so what comes later starts here
    obtain ⟨rfl, -⟩ := hfinal
    exact hlater

/-! ### What following a plan means for the calls -/

section Reading

variable {final : FileSystem → Record → Outcome α → Prop} {files : FileSystem}
  {plan : List Request} {calls : Record} {outcome : Outcome α}

/-- The calls are asked for in the order of the plan and of what comes after it. -/
theorem Follows.requests_prefix {after : List Request}
    (hfollows : Follows final files plan calls outcome)
    (hfinal : ∀ files calls outcome, final files calls outcome → requests calls <+: after) :
    requests calls <+: plan ++ after := by
  induction hfollows with
  | broken _ => exact List.cons_prefix_cons.mpr ⟨rfl, List.nil_prefix⟩
  | answered _ _ ih => exact List.cons_prefix_cons.mpr ⟨rfl, ih⟩
  | finished h => exact hfinal _ _ _ h

/-- No call is made after one that failed. -/
theorem Follows.stops (hfollows : Follows final files plan calls outcome)
    (hfinal : ∀ files calls outcome, final files calls outcome →
      calls.Pairwise fun c _ => c.call.failure? = none) :
    calls.Pairwise fun c _ => c.call.failure? = none := by
  induction hfollows with
  | broken _ => exact List.pairwise_singleton _ _
  | answered hanswered _ ih => exact List.pairwise_cons.mpr ⟨fun _ _ => hanswered, ih⟩
  | finished h => exact hfinal _ _ _ h

/-- The failure of a call is the outcome, unchanged. -/
theorem Follows.unchanged (hfollows : Follows final files plan calls outcome)
    (hfinal : ∀ files calls outcome, final files calls outcome →
      ∀ e ∈ calls, ∀ f, e.call.failure? = some f → outcome = .failed f) :
    ∀ e ∈ calls, ∀ f, e.call.failure? = some f → outcome = .failed f := by
  induction hfollows with
  | broken hfailed =>
    -- the one call that is left is the one that failed
    intro e he f hf
    rw [List.mem_singleton.mp he, hfailed] at hf
    rw [Option.some.inj hf]
  | answered hanswered _ ih =>
    intro e he f hf
    rcases List.mem_cons.mp he with rfl | hmem
    · rw [hanswered] at hf
      cases hf
    · exact ih e hmem f hf
  | finished h => exact hfinal _ _ _ h

/-- Where no call fails, the whole plan is followed, and what comes after it decides. -/
theorem Follows.final_of_answered (hfollows : Follows final files plan calls outcome)
    (hanswered : ∀ e ∈ calls, e.call.failure? = none) :
    ∃ first later, calls = first ++ later ∧ requests first = plan ∧
      final (filesAfter files first) later outcome := by
  induction hfollows with
  | @broken _ e _ _ hfailed =>
    -- a call has failed after all
    rw [hanswered e (List.mem_singleton_self e)] at hfailed
    cases hfailed
  | @answered _ e _ _ _ _ _ ih =>
    obtain ⟨first, later, rfl, rfl, h⟩ := ih fun e he => hanswered e (List.mem_cons_of_mem _ he)
    exact ⟨e :: first, later, rfl, rfl, h⟩
  | finished h => exact ⟨[], _, rfl, rfl, h⟩

/-- What holds of every failure, and of the outcomes that may come after a plan, holds of the
outcome. -/
theorem Follows.outcome_holds {P : Outcome α → Prop}
    (hfollows : Follows final files plan calls outcome) (hfailed : ∀ f, P (.failed f))
    (hfinal : ∀ files calls outcome, final files calls outcome → P outcome) : P outcome := by
  induction hfollows with
  | broken _ => exact hfailed _
  | answered _ _ ih => exact ih
  | finished h => exact hfinal _ _ _ h

/-- **Where a failure comes from**: it is the failure of a call, or of what comes after the plan. -/
theorem Follows.failed_cases {f : Failure} (hfollows : Follows final files plan calls (.failed f)) :
    (∃ e ∈ calls, e.call.failure? = some f) ∨ ∃ files later, final files later (.failed f) := by
  generalize houtcome : (Outcome.failed f : Outcome α) = outcome at hfollows
  induction hfollows with
  | @broken _ e _ _ hfailed =>
    obtain rfl := Outcome.failed.inj houtcome
    exact .inl ⟨e, List.mem_singleton_self e, hfailed⟩
  | answered _ _ ih =>
    exact (ih houtcome).imp_left fun ⟨e, he, hfailed⟩ => ⟨e, List.mem_cons_of_mem _ he, hfailed⟩
  | finished h =>
    subst houtcome
    exact .inr ⟨_, _, h⟩

/-- What follows a plan does not crash. -/
theorem Follows.ne_crashed (hfollows : Follows final files plan calls outcome)
    (hfinal : ∀ files calls outcome, final files calls outcome → outcome ≠ .crashed) :
    outcome ≠ .crashed :=
  hfollows.outcome_holds (fun _ => by simp) hfinal

end Reading

theorem Finished.ne_crashed {files : FileSystem} {calls : Record} {outcome : Outcome α}
    (hfinished : Finished files calls outcome) : outcome ≠ .crashed := by
  obtain ⟨-, a, rfl⟩ := hfinished
  simp

/-! ### Actions that follow a plan -/

/-- **An action makes the calls of a plan**: it writes down calls that follow the plan, and the
files that it leaves are those of its last call. -/
def Makes (part : Part ε Record) (plan : List Request) (x : Action (Host ε) α) : Prop :=
  ∀ host, ∃ calls, Writes part host (x.run host).2 calls ∧
    (x.run host).2.files = filesAfter host.files calls ∧
    Follows Finished host.files plan calls (x.run host).1

variable {part : Part ε Record}

theorem Asks.makes {request : Request} {x : Action (Host ε) Unit} (hasks : Asks part request x) :
    Makes part [request] x := by
  intro host
  obtain ⟨e, rfl, hwrites, hfiles, hended⟩ := hasks host
  refine ⟨[e], hwrites, hfiles, ?_⟩
  rw [hended]
  cases hfailure : e.call.failure? with
  | some f =>
    rw [Call.outcome_of_failed hfailure]
    exact .broken hfailure
  | none =>
    rw [Call.outcome_of_answered hfailure]
    exact .answered hfailure (.finished ⟨rfl, (), rfl⟩)

/-- **Sequence.** The second action begins where the first one, being done, has left the host. -/
theorem Makes.bind {plan more : List Request} {x : Action (Host ε) α} {k : α → Action (Host ε) β}
    (hfirst : Makes part plan x) (hsecond : ∀ a, Makes part more (k a)) :
    Makes part (plan ++ more) (x >>= k) := by
  intro host
  obtain ⟨calls, hwrites, hfiles, hfollows⟩ := hfirst host
  rw [Action.run_bind]
  generalize x.run host = ended at hwrites hfiles hfollows ⊢
  rcases ended with ⟨a | f | _, middle⟩
  · obtain ⟨later, hlater, hfilesLater, hfollowsLater⟩ := hsecond a middle
    refine ⟨calls ++ later, hwrites.trans hlater, ?_, ?_⟩
    · rw [filesAfter_append, ← hfiles]
      exact hfilesLater
    · rw [hfiles] at hfollowsLater
      exact hfollows.append hfollowsLater
  · exact ⟨calls, hwrites, hfiles, hfollows.append_of_failed _ more⟩
  · exact absurd rfl (hfollows.ne_crashed fun _ _ _ => Finished.ne_crashed)

end ArtifactPipeline.Remote
