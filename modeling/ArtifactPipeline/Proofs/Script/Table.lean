import ArtifactPipeline.Proofs.Script.Deferred

/-!
# The table of a script

A script moves values out of its table, lends them to the body of a step and puts back what the body
has left. This file follows the table through that, whatever the references and the bodies are.

An *application* is one step applied to references in one state. When it is rejected, because the
values are not there or do not fit, the table stays as it is. When the body runs, every slot that is
referred to holds afterwards what the body has left in it, and is used up if the body has taken its
value (`Application.HandsBack`). All that an operation does to the table are its applications, one
after another (`Passes`): its own and those of the releases that it sets off. An evaluation that is
done adds one slot at the end.

* `apply_cases` says what an application does, and `Application.handsBack` reads it off the table;
* `Passes.extended`, `Passes.getElem?_of_not_mem` and `Passes.getElem?_of_last` carry this from one
  application to all of them;
* `table_kept` puts it together for every operation of a script and for its end.

Nothing is said of the values that a crashing body was lent, since the script ends with it.
-/

namespace ArtifactPipeline.Script

variable {ε : Type}

/-! ### Later tables -/

/-- **A table extends another**: no slot is lost, none has got another name, and what was used up
stays used up. -/
structure Extends (before after : List Slot) : Prop where
  names : before.map Slot.name <+: after.map Slot.name
  spent : ∀ (r : Ref) (name : String),
    before[r]? = some ⟨name, none⟩ → after[r]? = some ⟨name, none⟩

namespace Extends

variable {before middle after : List Slot}

theorem refl (slots : List Slot) : Extends slots slots := ⟨List.prefix_rfl, fun _ _ h => h⟩

theorem trans (hfirst : Extends before middle) (hsecond : Extends middle after) :
    Extends before after :=
  ⟨hfirst.names.trans hsecond.names,
    fun r name hspent => hsecond.spent r name (hfirst.spent r name hspent)⟩

theorem append_right (slots new : List Slot) : Extends slots (slots ++ new) := by
  refine ⟨?_, fun r name hspent => ?_⟩
  · rw [List.map_append]
    exact List.prefix_append _ _
  · obtain ⟨hr, -⟩ := List.getElem?_eq_some_iff.mp hspent
    rw [List.getElem?_append_left hr, hspent]

/-- What was used up leads to nothing any more. -/
theorem valueAt_eq_none (h : Extends before after) {r : Ref} (hr : r < before.length)
    (hspent : valueAt before r = none) : valueAt after r = none := by
  have hslot : before[r]? = some ⟨before[r].name, before[r].value⟩ := List.getElem?_eq_getElem hr
  have hvalue : before[r].value = none := by
    rw [valueAt, hslot] at hspent
    exact hspent
  rw [hvalue] at hslot
  rw [valueAt, h.spent r _ hslot]
  rfl

end Extends

/-! ### What is lent and what is put back -/

section Lending

variable {step : String} {slots rest : List Slot} {refs : List Ref} {sources : List Source}
  {values : List (Option Source)} {r : Ref}

@[simp] theorem map_name_assign (slots : List Slot) (r : Ref) (value : Option Source) :
    (assign slots r value).map Slot.name = slots.map Slot.name := by
  apply List.ext_getElem?
  intro i
  rw [List.getElem?_map, List.getElem?_map, getElem?_assign]
  split
  · cases slots[i]? <;> rfl
  · rfl

theorem map_name_restore (slots : List Slot) (refs : List Ref) (values : List (Option Source)) :
    (restore slots refs values).map Slot.name = slots.map Slot.name := by
  induction refs generalizing slots values with
  | nil => simp only [restore]
  | cons i refs ih =>
    rcases values with _ | ⟨_ | source, values⟩
    · rfl
    · rw [restore, ih]
    · rw [restore, ih, map_name_assign]

theorem valueAt_assign_none (slots : List Slot) (r : Ref) :
    valueAt (assign slots r none) r = none := by
  rw [valueAt, getElem?_assign, if_pos rfl]
  cases slots[r]? <;> rfl

/-- What has been used up can be taken out once more without a change. -/
theorem assign_none_of_spent (hspent : valueAt slots r = none) : assign slots r none = slots := by
  cases hslot : slots[r]? with
  | none =>
    -- there is no such slot, so nothing is modified
    rw [assign, List.modify_eq_self (List.getElem?_eq_none_iff.mp hslot)]
  | some slot =>
    rw [valueAt, hslot] at hspent
    have hself := assign_self hslot
    rwa [show slot.value = none from hspent] at hself

/-- Lending does not touch other slots. -/
theorem getElem?_of_lend (hlent : lend step slots refs = .ok (sources, rest)) (hr : r ∉ refs) :
    rest[r]? = slots[r]? := by
  induction refs generalizing slots sources with
  | nil =>
    rw [lend, Except.ok.injEq, Prod.mk.injEq] at hlent
    rw [hlent.2]
  | cons i refs ih =>
    obtain ⟨hne, hr⟩ := not_or.mp (List.mem_cons.not.mp hr)
    obtain ⟨source, others, rfl, -, hlent⟩ := lend_cons_eq_ok_iff.mp hlent
    rw [ih hlent hr, getElem?_assign, if_neg (Ne.symm hne)]

/-- Lending empties the slots that are referred to. -/
theorem valueAt_of_lend (hlent : lend step slots refs = .ok (sources, rest)) (hr : r ∈ refs) :
    valueAt rest r = none := by
  induction refs generalizing slots sources with
  | nil => cases hr
  | cons i refs ih =>
    obtain ⟨source, others, rfl, -, hothers⟩ := lend_cons_eq_ok_iff.mp hlent
    by_cases hmem : r ∈ refs
    · exact ih hothers hmem
    · -- the first slot was emptied before the others, which leave it alone
      obtain rfl : r = i := (List.mem_cons.mp hr).resolve_right hmem
      rw [valueAt, getElem?_of_lend hothers hmem]
      exact valueAt_assign_none slots r

/-- Putting back does not touch other slots. -/
theorem getElem?_restore_of_not_mem (hr : r ∉ refs) (slots : List Slot)
    (values : List (Option Source)) : (restore slots refs values)[r]? = slots[r]? := by
  induction refs generalizing slots values with
  | nil => simp only [restore]
  | cons i refs ih =>
    obtain ⟨hne, hr⟩ := not_or.mp (List.mem_cons.not.mp hr)
    rcases values with _ | ⟨_ | source, values⟩
    · rfl
    · rw [restore, ih hr]
    · rw [restore, ih hr, getElem?_assign, if_neg (Ne.symm hne)]

/-- **Every slot gets its own value back**: the one at the place of its reference. A value that is
not there, because it was taken or the list is too short, leaves the slot empty. -/
theorem valueAt_restore (hlent : lend step slots refs = .ok (sources, rest)) {i : ℕ}
    (hi : refs[i]? = some r) : valueAt (restore rest refs values) r = values[i]?.join := by
  induction refs generalizing slots sources values i with
  | nil => cases hi
  | cons first refs ih =>
    have hempty : ∀ s ∈ first :: refs, valueAt rest s = none := fun s => valueAt_of_lend hlent
    obtain ⟨source, others, rfl, hvalue, hothers⟩ := lend_cons_eq_ok_iff.mp hlent
    have hfresh : first ∉ refs := not_mem_of_lend hothers
    rcases values with _ | ⟨value, values⟩
    · simp only [restore, List.getElem?_nil, Option.join_none]
      exact hempty r (List.mem_of_getElem? hi)
    cases i with
    | zero =>
      -- the first value, whose slot the others leave alone
      obtain rfl : first = r := by simpa using hi
      cases value with
      | none =>
        rw [restore, valueAt, getElem?_restore_of_not_mem hfresh]
        exact hempty first List.mem_cons_self
      | some source' =>
        have hslot : ∃ slot, rest[first]? = some slot := by
          rw [getElem?_of_lend hothers hfresh, getElem?_assign, if_pos rfl]
          obtain ⟨name, hname⟩ := valueAt_eq_some_iff.mp hvalue
          rw [hname]
          exact ⟨_, rfl⟩
        obtain ⟨slot, hslot⟩ := hslot
        rw [restore, valueAt, getElem?_restore_of_not_mem hfresh, getElem?_assign, if_pos rfl,
          hslot]
        rfl
    | succ i =>
      have hi : refs[i]? = some r := by simpa using hi
      have hne : first ≠ r := fun h => hfresh (h ▸ List.mem_of_getElem? hi)
      cases value with
      | none =>
        rw [restore]
        exact ih hothers hi
      | some source' =>
        rw [restore, restore_assign values hfresh, valueAt_assign_of_ne hne]
        exact ih hothers hi

end Lending

/-! ### One application -/

/-- One step applied to references, and the state in which it is. -/
structure Application (ε : Type) where
  step : Step ε
  refs : List Ref
  state : Script ε × Host ε

namespace Application

/-- The table that an application leaves. -/
def table (a : Application ε) : List Slot := ((apply a.step a.refs).run a.state).2.1.slots

/-- **The frame that the body works on**: the values that it was lent, and the host on which its
start is noted. -/
structure Enters (a : Application ε) (frame : Frame ε a.step.parameters.length) : Prop where
  values : frame.values.toList = a.refs.map (valueAt a.state.1.slots)
  host : frame.host = a.state.2.note (Step.startEvent a.step.name)

/-- **What is lent is handed back.** A rejected application leaves the table as it is. When the body
runs and does not crash, every slot that is referred to holds what the body has left in the place of
the reference: nothing if it has taken the value, and else the value as it is then. Whether the body
is done or has failed, and whether its result passes the check, makes no difference. -/
structure HandsBack (a : Application ε) : Prop where
  rejected : ¬BodyRuns a.step a.refs a.state → a.table = a.state.1.slots
  left : BodyRuns a.step a.refs a.state → ∃ frame, a.Enters frame ∧
    ((apply a.step a.refs).run a.state).1 =
      Step.checkOutcome a.step.toSignature (a.step.body.run frame).1 ∧
    ((a.step.body.run frame).1 ≠ .crashed →
      ∀ (i : ℕ) (hi : i < a.step.parameters.length) (r : Ref), a.refs[i]? = some r →
        valueAt a.table r = (a.step.body.run frame).2.values[i])

end Application

/-- **What an application does.** Either it is rejected and nothing has changed, or the body runs on
the values that were lent, and what it has left of them is put back. -/
theorem apply_cases (step : Step ε) (refs : List Ref) (state : Script ε × Host ε) :
    (¬BodyRuns step refs state ∧ ∃ f, (apply step refs).run state = (.failed f, state)) ∨
      (BodyRuns step refs state ∧ ∃ sources rest frame,
        lend step.name state.1.slots refs = .ok (sources, rest) ∧
        Application.Enters ⟨step, refs, state⟩ frame ∧
        (apply step refs).run state =
          (Step.checkOutcome step.toSignature (step.body.run frame).1,
            ({ state.1 with
                slots := restore rest refs (step.body.run frame).2.values.toList },
              Step.noteEnd step.name
                (Step.checkOutcome step.toSignature (step.body.run frame).1)
                (step.body.run frame).2.host))) := by
  obtain ⟨script, host⟩ := state
  cases hlent : lend step.name script.slots refs with
  | error short =>
    refine .inl ⟨?_, short.failure, run_apply_of_shortfall hlent host⟩
    rw [BodyRuns, Action.run, apply, hlent]
    rintro ⟨⟩
  | ok lent =>
    obtain ⟨sources, rest⟩ := lent
    have hvalues : refs.map (valueAt script.slots) = sources.map some :=
      (lend_eq_ok_iff.mp ⟨rest, hlent⟩).2
    have hrun : (apply step refs).run (script, host) =
        ((step.call.run (sources.map some, host)).1,
          ({ script with
              slots := restore rest refs (step.call.run (sources.map some, host)).2.1 },
            (step.call.run (sources.map some, host)).2.2)) := by
      rw [Action.run, apply, hlent]
    by_cases hfits : List.Forall₂ Parameter.Fits step.parameters (sources.map some)
    · have hlength : (sources.map some).length = step.parameters.length := hfits.length_eq.symm
      have hcheck := (Signature.checkEach_eq_ok_iff step.name hlength).mpr hfits
      refine .inr ⟨?_, sources, rest, ⟨⟨(sources.map some).toArray, by simpa using hlength⟩,
        host.note (Step.startEvent step.name)⟩, rfl, ⟨?_, rfl⟩, ?_⟩
      · rw [bodyRuns_iff_forall₂, hvalues]
        exact ⟨(lend_eq_ok_iff.mp ⟨rest, hlent⟩).1, hfits⟩
      · exact hvalues.symm
      · rw [hrun, Step.run_call hlength hcheck]
    · refine .inl ⟨?_, ?_⟩
      · rw [bodyRuns_iff_forall₂, hvalues]
        exact fun h => hfits h.2
      · by_cases hlength : (sources.map some).length = step.parameters.length
        · cases hcheck : Signature.checkEach step.name step.parameters (sources.map some) with
          | ok _ => exact absurd ((Signature.checkEach_eq_ok_iff step.name hlength).mp hcheck) hfits
          | error f =>
            refine ⟨f, run_apply_of_refused hlent ?_⟩
            rw [Action.run, Step.call]
            simp only [hcheck, dif_pos hlength]
        · refine ⟨.arity step.name step.parameters.length (sources.map some).length,
            run_apply_of_refused hlent ?_⟩
          rw [Action.run, Step.call]
          simp only [dif_neg hlength]

namespace Application

/-- What is lent is handed back, whatever the step and the references are. -/
theorem handsBack (a : Application ε) : a.HandsBack := by
  obtain ⟨step, refs, state⟩ := a
  rcases apply_cases step refs state with
    ⟨hruns, f, hrun⟩ | ⟨hruns, sources, rest, frame, hlent, henters, hrun⟩
  · refine ⟨fun _ => ?_, fun h => absurd h hruns⟩
    rw [table, hrun]
  · refine ⟨fun h => absurd hruns h, fun _ => ⟨frame, henters, ?_, fun _ i hi r hr => ?_⟩⟩
    · rw [hrun]
    · rw [table, hrun, valueAt_restore hlent hr, Vector.getElem?_toList,
        Vector.getElem?_eq_getElem hi]
      rfl

/-- An application neither adds a slot nor gives one another name. -/
theorem map_name_table (a : Application ε) :
    a.table.map Slot.name = a.state.1.slots.map Slot.name := by
  obtain ⟨step, refs, state⟩ := a
  rcases apply_cases step refs state with
    ⟨-, f, hrun⟩ | ⟨-, sources, rest, frame, hlent, -, hrun⟩
  · rw [table, hrun]
  · rw [table, hrun]
    change (restore rest refs (step.body.run frame).2.values.toList).map Slot.name = _
    -- putting back what was lent gives the table, so lending has not changed a name either
    rw [map_name_restore, ← map_name_restore rest refs (sources.map some), restore_lend hlent]

/-- An application does not touch slots that it does not refer to. -/
theorem getElem?_table (a : Application ε) {r : Ref} (hr : r ∉ a.refs) :
    a.table[r]? = a.state.1.slots[r]? := by
  obtain ⟨step, refs, state⟩ := a
  rcases apply_cases step refs state with
    ⟨-, f, hrun⟩ | ⟨-, sources, rest, frame, hlent, -, hrun⟩
  · rw [table, hrun]
  · rw [table, hrun]
    exact (getElem?_restore_of_not_mem hr rest _).trans (getElem?_of_lend hlent hr)

/-- **What is used up stays used up.** An application that refers to it is rejected, and any other
does not touch it. -/
theorem extends_table (a : Application ε) : Extends a.state.1.slots a.table := by
  refine ⟨(a.map_name_table).symm ▸ List.prefix_rfl, fun r name hspent => ?_⟩
  by_cases hr : r ∈ a.refs
  · have hruns : ¬BodyRuns a.step a.refs a.state := by
      intro hruns
      have hlive := (bodyRuns_iff.mp hruns).live r hr
      rw [kindOf, hspent] at hlive
      cases hlive
    rw [a.handsBack.rejected hruns, hspent]
  · rw [a.getElem?_table hr, hspent]

end Application

/-! ### One application after another -/

/-- **A table passes through applications**, one after another, and nothing else happens to it. -/
inductive Passes : List Slot → List (Application ε) → List Slot → Prop where
  | nil (slots : List Slot) : Passes slots [] slots
  | cons (a : Application ε) {later : List (Application ε)} {after : List Slot}
      (hrest : Passes a.table later after) : Passes a.state.1.slots (a :: later) after

namespace Passes

variable {before middle after : List Slot} {applications later : List (Application ε)}

theorem append (hfirst : Passes before applications middle) (hlater : Passes middle later after) :
    Passes before (applications ++ later) after := by
  induction hfirst with
  | nil => exact hlater
  | cons a _ ih => exact .cons a (ih hlater)

theorem extended (h : Passes before applications after) : Extends before after := by
  induction h with
  | nil slots => exact .refl slots
  | cons a _ ih => exact a.extends_table.trans ih

theorem length_eq (h : Passes before applications after) : after.length = before.length := by
  induction h with
  | nil => rfl
  | cons a _ ih =>
    have hlength := congrArg List.length a.map_name_table
    rw [List.length_map, List.length_map] at hlength
    rw [ih, hlength]

/-- A slot that no application refers to is left exactly as it was. -/
theorem getElem?_of_not_mem (h : Passes before applications after) {r : Ref}
    (hr : ∀ a ∈ applications, r ∉ a.refs) : after[r]? = before[r]? := by
  induction h with
  | nil => rfl
  | cons a _ ih =>
    rw [ih fun b hb => hr b (List.mem_cons_of_mem a hb), a.getElem?_table (hr a List.mem_cons_self)]

/-- A slot is left as the last application has left it that refers to it. -/
theorem getElem?_of_last {a : Application ε} (h : Passes before (applications ++ a :: later) after)
    {r : Ref} (hr : ∀ b ∈ later, r ∉ b.refs) : after[r]? = a.table[r]? := by
  induction applications generalizing before with
  | nil =>
    cases h with
    | cons _ hrest => exact hrest.getElem?_of_not_mem hr
  | cons _ _ ih =>
    cases h with
    | cons _ hrest => exact ih hrest

end Passes

/-- The application of an attempt. -/
def Attempt.application (a : Attempt ε) : Application ε :=
  ⟨a.release.step, a.release.arguments, a.state⟩

/-- The applications of some releases, up to the first that crashes. -/
def trail : List (Pending ε) → Script ε × Host ε → List (Application ε)
  | [], _ => []
  | p :: ps, state =>
    ⟨p.step, p.arguments, announced p state⟩ ::
      match (apply p.step p.arguments).run (announced p state) with
      | (.done _, middle) => trail ps middle
      | (.failed f, middle) => trail ps (excused p f middle)
      | (.crashed, _) => []

/-- They are the attempts of the round. -/
theorem Round.map_application {ps : List (Pending ε)} {state after : Script ε × Host ε}
    {attempts : List (Attempt ε)} (h : Round ps state attempts after) :
    attempts.map Attempt.application = trail ps state := by
  induction h with
  | nil => rfl
  | done hend _ ih =>
    rw [List.map_cons, ih, trail, hend]
    rfl
  | failed hend _ ih =>
    rw [List.map_cons, ih, trail, hend]
    rfl

/-- **Releasing passes the table through these applications.** The notes before and after them do
not touch it. -/
theorem passes_release (ps : List (Pending ε)) (state : Script ε × Host ε) :
    Passes state.1.slots (trail ps state) ((release ps).run state).2.1.slots := by
  induction ps generalizing state with
  | nil => exact .nil _
  | cons p ps ih =>
    rw [trail, run_release_cons]
    refine .cons ⟨p.step, p.arguments, announced p state⟩ ?_
    rw [Application.table]
    rcases (apply p.step p.arguments).run (announced p state) with ⟨_ | f | _, middle⟩
    · exact ih middle
    · exact ih (excused p f middle)
    · exact .nil _

/-! ### One operation -/

namespace Operation

/-- The application that an operation begins with. Registering a release applies nothing. -/
def applied : Operation ε → Script ε × Host ε → List (Application ε)
  | eval step refs, state | perform step refs, state => [⟨step, refs, state⟩]
  | defer _ _, _ => []

/-- All applications of an operation: its own, and those of the releases that it sets off when it
fails. -/
def applications (op : Operation ε) (state : Script ε × Host ε) : List (Application ε) :=
  op.applied state ++
    match op.own.run state with
    | (.failed _, middle) => trail middle.1.pending.reverse (cleared middle)
    | _ => []

/-- **An evaluation that is done**, with a reference to the new value. -/
def Yields : Operation ε → Script ε × Host ε → Prop
  | eval step refs, state => ∃ r, ((Script.eval step refs).run state).1 = .done r
  | perform _ _, _ | defer _ _, _ => False

/-- An evaluation is done exactly when its step is and yields a value. -/
theorem yields_eval_iff {step : Step ε} {refs : List Ref} {state : Script ε × Host ε} :
    (eval step refs).Yields state ↔
      ∃ source, ((apply step refs).run state).1 = .done (some source) := by
  rw [Yields, Script.eval, run_releasingOnFailure]
  simp only [Action.run_bind]
  rcases (apply step refs).run state with ⟨(_ | source) | f | _, middle⟩
  · rcases hround : releaseAll.run middle with ⟨_ | _ | _, after⟩ <;> simp [hround]
  · exact iff_of_true ⟨_, rfl⟩ ⟨source, rfl⟩
  · rcases hround : releaseAll.run middle with ⟨_ | _ | _, after⟩ <;> simp [hround]
  · simp

/-- The own part of an operation passes the table through its application, and an evaluation that is
done adds a slot. -/
theorem passes_own (op : Operation ε) (state : Script ε × Host ε) :
    ∃ middle new, Passes state.1.slots (op.applied state) middle ∧
      (op.own.run state).2.1.slots = middle ++ new ∧
      ((op.Yields state ∧ (op.own.run state).1 = .done () ∧ new.length = 1) ∨
        ¬op.Yields state ∧ new = []) := by
  cases op with
  | eval step refs =>
    refine ⟨Application.table ⟨step, refs, state⟩, ?_⟩
    rw [own, Action.run_bind, yields_eval_iff, Application.table]
    have hpasses : Passes state.1.slots (applied (eval step refs) state)
        ((apply step refs).run state).2.1.slots := .cons ⟨step, refs, state⟩ (.nil _)
    generalize (apply step refs).run state = ended at hpasses ⊢
    rcases ended with ⟨(_ | source) | f | _, middle⟩
    · exact ⟨[], hpasses, (List.append_nil _).symm, .inr ⟨by rintro ⟨_, ⟨⟩⟩, rfl⟩⟩
    · exact ⟨[⟨step.name, some source⟩], hpasses, rfl, .inl ⟨⟨source, rfl⟩, rfl, rfl⟩⟩
    · exact ⟨[], hpasses, (List.append_nil _).symm, .inr ⟨by rintro ⟨_, ⟨⟩⟩, rfl⟩⟩
    · exact ⟨[], hpasses, (List.append_nil _).symm, .inr ⟨by rintro ⟨_, ⟨⟩⟩, rfl⟩⟩
  | perform step refs =>
    refine ⟨Application.table ⟨step, refs, state⟩, [], .cons ⟨step, refs, state⟩ (.nil _), ?_,
      .inr ⟨id, rfl⟩⟩
    rw [own, Action.run_bind, Application.table, List.append_nil]
    rcases (apply step refs).run state with ⟨_ | _ | _, middle⟩ <;> rfl
  | defer step refs =>
    refine ⟨state.1.slots, [], .nil _, ?_, .inr ⟨id, rfl⟩⟩
    rw [own, List.append_nil]
    split <;> rfl

/-- **An operation passes the table through its applications**, and an evaluation that is done adds
a slot. -/
theorem passes_action (op : Operation ε) (state : Script ε × Host ε) :
    ∃ middle new, Passes state.1.slots (op.applications state) middle ∧
      (op.action.run state).2.1.slots = middle ++ new ∧
      (op.Yields state ∧ new.length = 1 ∨ ¬op.Yields state ∧ new = []) := by
  obtain ⟨middle, new, hpasses, hslots, hnew⟩ := op.passes_own state
  rw [run_action_eq, run_releasingOnFailure, applications]
  rcases hown : op.own.run state with ⟨_ | f | _, ended⟩
  · rw [hown] at hslots
    exact ⟨middle, new, (List.append_nil (op.applied state)).symm ▸ hpasses, hslots,
      hnew.imp_left fun h => ⟨h.1, h.2.2⟩⟩
  · -- an operation that fails has added nothing, and its releases pass the table on
    rw [hown] at hslots hnew
    obtain ⟨-, hdone, -⟩ | ⟨hyields, rfl⟩ := hnew
    · cases hdone
    have hround := passes_release ended.1.pending.reverse (cleared ended)
    have hmiddle : (cleared ended).1.slots = middle := hslots.trans (List.append_nil middle)
    rw [hmiddle, ← run_releaseAll] at hround
    refine ⟨_, [], hpasses.append hround, ?_, .inr ⟨hyields, rfl⟩⟩
    rw [List.append_nil]
    rcases hreleased : releaseAll.run ended with ⟨_ | _ | _, after⟩ <;> simp [hreleased]
  · rw [hown] at hslots
    exact ⟨middle, new, (List.append_nil (op.applied state)).symm ▸ hpasses, hslots,
      hnew.imp_left fun h => ⟨h.1, h.2.2⟩⟩

end Operation

/-- The applications of an operation are its own and those of the attempts that it makes. -/
theorem Performs.applications_eq {op : Operation ε} {state after : Script ε × Host ε}
    {attempts : List (Attempt ε)} (h : Performs op state attempts after) :
    op.applications state = op.applied state ++ attempts.map Attempt.application := by
  rw [Operation.applications]
  cases h with
  | quiet hown => rw [hown, List.map_nil]
  | failing hown hround => rw [hown, hround.map_application]

/-! ### The end of a script -/

/-- The applications of the end of a script, after its value was taken out. -/
def finishApplications (output : Ref) (state : Script ε × Host ε) : List (Application ε) :=
  trail state.1.pending.reverse (cleared (yielded output state))

/-- To finish takes the value out of the table, and does nothing where there is none. -/
theorem slots_yielded (output : Ref) (state : Script ε × Host ε) :
    (yielded output state).1.slots = assign state.1.slots output none := by
  rw [yielded]
  cases htaken : takeSlot state.1.stage state.1.slots output with
  | ok taken => exact (takeSlot_eq_ok_iff.mp htaken).2
  | error f =>
    refine (assign_none_of_spent ?_).symm
    -- a value that could not be taken was not there
    by_contra hlive
    obtain ⟨source, hsource⟩ := Option.ne_none_iff_exists'.mp hlive
    have htakes : takeSlot state.1.stage state.1.slots output = .ok (source, _) :=
      takeSlot_eq_ok_iff.mpr ⟨valueAt_eq_some_iff.mp hsource, rfl⟩
    rw [htaken] at htakes
    cases htakes

/-- **Finishing passes the table through the releases**, once the value was taken out. -/
theorem passes_finish (output : Ref) (expected : Kind) (state : Script ε × Host ε) :
    Passes (assign state.1.slots output none) (finishApplications output state)
      ((finish output expected).run state).2.1.slots := by
  have hround := passes_release state.1.pending.reverse (cleared (yielded output state))
  rw [← pending_yielded output state, ← run_releaseAll, pending_yielded] at hround
  have hslots : (cleared (yielded output state)).1.slots = assign state.1.slots output none :=
    slots_yielded output state
  rw [hslots] at hround
  -- what is made of the value afterwards does not change the state
  have hstate : ((finish output expected).run state).2 =
      (releaseAll.run (yielded output state)).2 := by
    rw [Action.run, finish, yielded]
    cases takeSlot state.1.stage state.1.slots output with
    | error f =>
      simp only
      rcases releaseAll.run state with ⟨_ | _ | _, after⟩ <;> rfl
    | ok taken =>
      simp only
      rcases releaseAll.run ({ state.1 with slots := taken.2 }, state.2) with
        ⟨_ | _ | _, after⟩ <;> simp only <;> split <;> rfl
  rw [hstate]
  exact hround

/-! ### All operations of a script -/

/-- **What an operation makes of the table**, given the references that it takes a value from on its
own account and its applications.

* `extended`: no slot is lost or gets another name, and what was used up stays so;
* `untouched`: a slot that neither the operation nor any of its applications refers to is left
  exactly as it was;
* `handsBack`: after each application the slots hold what its body has left;
* `last`: that is what they hold in the end, unless a later application refers to them, too. -/
structure Kept (before : List Slot) (taken : List Ref) (applications : List (Application ε))
    (after : List Slot) : Prop where
  extended : Extends before after
  untouched : ∀ r < before.length, r ∉ taken → (∀ a ∈ applications, r ∉ a.refs) →
    after[r]? = before[r]?
  handsBack : ∀ a ∈ applications, a.HandsBack
  last : ∀ earlier a later, applications = earlier ++ a :: later →
    ∀ r < before.length, r ∈ a.refs → (∀ b ∈ later, r ∉ b.refs) → after[r]? = a.table[r]?

/-- **What the end of a script makes of its table.** The value to finish with is gone, and the rest
is kept through the releases, which are those of the round that ends the script. -/
structure FinishKept (output : Ref) (before : Script ε × Host ε) (after : List Slot) : Prop where
  kept : Kept before.1.slots [output] (finishApplications output before) after
  length : after.length = before.1.slots.length
  spent : valueAt after output = none
  attempted : ∀ attempts final,
    Round before.1.pending.reverse (cleared (yielded output before)) attempts final →
      finishApplications output before = attempts.map Attempt.application

/-- **What a script makes of its table.**

* `operation`: what each operation makes of it;
* `grows`, `stays`: an evaluation that is done adds one slot, and nothing else adds any;
* `forever`: what is used up at one moment is so at every later one, and no slot is ever lost or
  gets another name;
* `attempted`: the applications of an operation are its own and the attempts that it makes;
* `finish`: what the end makes of the table, at whichever moment it comes. -/
structure TableKept (s₀ : Script ε × Host ε) (ops : List (Operation ε)) : Prop where
  operation : ∀ n (hn : n < ops.length), Kept (stateAt s₀ ops n).1.slots []
    (ops[n].applications (stateAt s₀ ops n)) (stateAt s₀ ops (n + 1)).1.slots
  grows : ∀ n (hn : n < ops.length), ops[n].Yields (stateAt s₀ ops n) →
    (stateAt s₀ ops (n + 1)).1.slots.length = (stateAt s₀ ops n).1.slots.length + 1
  stays : ∀ n (hn : n < ops.length), ¬ops[n].Yields (stateAt s₀ ops n) →
    (stateAt s₀ ops (n + 1)).1.slots.length = (stateAt s₀ ops n).1.slots.length
  forever : ∀ m n, m ≤ n → n ≤ ops.length →
    Extends (stateAt s₀ ops m).1.slots (stateAt s₀ ops n).1.slots
  attempted : ∀ n (hn : n < ops.length) attempts after,
    Performs ops[n] (stateAt s₀ ops n) attempts after →
      ops[n].applications (stateAt s₀ ops n) =
        ops[n].applied (stateAt s₀ ops n) ++ attempts.map Attempt.application
  finish : ∀ n ≤ ops.length, ∀ output expected, FinishKept output (stateAt s₀ ops n)
    ((finish output expected).run (stateAt s₀ ops n)).2.1.slots

/-- A table that passes through applications is kept, also when slots are added at its end. -/
theorem Passes.kept {before middle : List Slot} {applications : List (Application ε)}
    (h : Passes before applications middle) (new : List Slot) :
    Kept before [] applications (middle ++ new) := by
  have hlength : ∀ r < before.length, (middle ++ new)[r]? = middle[r]? := fun r hr =>
    List.getElem?_append_left (h.length_eq.symm ▸ hr)
  refine ⟨h.extended.trans (.append_right middle new), fun r hr _ hfresh => ?_,
    fun a _ => a.handsBack, fun earlier a later heq r hr _ hfresh => ?_⟩
  · rw [hlength r hr, h.getElem?_of_not_mem hfresh]
  · subst heq
    rw [hlength r hr, h.getElem?_of_last hfresh]

/-- What was kept after a value was taken out has been kept apart from that value. -/
theorem Kept.of_assign {before after : List Slot} {output : Ref}
    {applications : List (Application ε)}
    (h : Kept (assign before output none) [] applications after) :
    Kept before [output] applications after := by
  have hlength : (assign before output none).length = before.length := length_assign _ _ _
  refine ⟨Extends.trans ⟨?_, fun r name hspent => ?_⟩ h.extended, fun r hr hne hfresh => ?_,
    h.handsBack, fun earlier a later heq r hr => h.last earlier a later heq r (hlength.symm ▸ hr)⟩
  · exact (map_name_assign before output none).symm ▸ List.prefix_rfl
  · rw [getElem?_assign, hspent]
    split <;> rfl
  · rw [h.untouched r (hlength.symm ▸ hr) List.not_mem_nil hfresh, getElem?_assign,
      if_neg (Ne.symm (List.mem_singleton.not.mp hne))]

/-- What was taken out of a table is gone for good. -/
theorem Passes.valueAt_taken {before after : List Slot} {output : Ref}
    {applications : List (Application ε)}
    (h : Passes (assign before output none) applications after) : valueAt after output = none := by
  by_cases houtput : output < (assign before output none).length
  · exact h.extended.valueAt_eq_none houtput (valueAt_assign_none before output)
  · -- beyond the end of the table there is nothing to take
    rw [valueAt, List.getElem?_eq_none (h.length_eq.symm ▸ not_lt.mp houtput)]
    rfl

/-- **The table of a script keeps its integrity**, from any state on, under any operations and at
any end. -/
theorem table_kept (s₀ : Script ε × Host ε) (ops : List (Operation ε)) : TableKept s₀ ops := by
  have hstep : ∀ n (hn : n < ops.length), Kept (stateAt s₀ ops n).1.slots []
      (ops[n].applications (stateAt s₀ ops n)) (stateAt s₀ ops (n + 1)).1.slots := by
    intro n hn
    obtain ⟨middle, new, hpasses, hslots, -⟩ := ops[n].passes_action (stateAt s₀ ops n)
    rw [stateAt_succ hn, hslots]
    exact hpasses.kept new
  refine ⟨hstep, fun n hn hyields => ?_, fun n hn hyields => ?_, fun m n hmn hn => ?_,
    fun n hn attempts after hperforms => hperforms.applications_eq, fun n _ output expected => ?_⟩
  · obtain ⟨middle, new, hpasses, hslots, ⟨-, hnew⟩ | ⟨hnot, -⟩⟩ :=
      ops[n].passes_action (stateAt s₀ ops n)
    · rw [stateAt_succ hn, hslots, List.length_append, hpasses.length_eq, hnew]
    · exact absurd hyields hnot
  · obtain ⟨middle, new, hpasses, hslots, ⟨hyes, -⟩ | ⟨-, rfl⟩⟩ :=
      ops[n].passes_action (stateAt s₀ ops n)
    · exact absurd hyes hyields
    · rw [stateAt_succ hn, hslots, List.append_nil, hpasses.length_eq]
  · -- the induction is on the operations between the two moments
    induction n, hmn using Nat.le_induction with
    | base => exact .refl _
    | succ n hmn ih => exact (ih (Nat.le_of_lt hn)).trans (hstep n hn).extended
  · have hpasses := passes_finish output expected (stateAt s₀ ops n)
    have hkept := hpasses.kept []
    rw [List.append_nil] at hkept
    exact ⟨hkept.of_assign, hpasses.length_eq.trans (length_assign _ _ _), hpasses.valueAt_taken,
      fun attempts final hround => hround.map_application.symm⟩

end ArtifactPipeline.Script
