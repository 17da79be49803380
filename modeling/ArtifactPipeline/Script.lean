import ArtifactPipeline.Step

/-!
# Scripts

A script is one run of a stage that wires its steps by hand. It keeps every value of the run in a
table of *slots*; a step is applied to references into the table, which lend it the values and take
back what it leaves. A value that a step has taken is gone for good.

Steps that release something are registered while the script goes on (`Script.defer`). They are
pending until the first operation fails, or until the script ends, and then all run, the last
registered first (`Script.releaseAll`). A release that fails is noted and does not stop the others.
A crash is not a failure: it ends the script, and nothing is released.

* `Script.lend` and `Script.restore` are the two halves of lending, and `Script.restore_lend` says
  that restoring what was lent gives the table back; `Script.restore_shortfall` says it of lending
  that had to stop halfway;
* `Script.eval`, `Script.perform`, `Script.defer` and `Script.finish` are the operations.
-/

namespace ArtifactPipeline

/-- A place in the table of a script. -/
structure Slot where
  /-- The step that produced the value. -/
  name : String
  /-- The value, unless it has been used up. -/
  value : Option Source
deriving DecidableEq

/-- A reference into the table of a script. -/
abbrev Ref := Nat

/-- A release that is still to be done. -/
structure Pending (ε : Type) where
  step : Step ε
  arguments : List Ref

/-- One run of a stage that wires its steps by hand. -/
structure Script (ε : Type) where
  stage : String
  slots : List Slot
  /-- The pending releases, in order of registration. -/
  pending : List (Pending ε) := []

namespace Script

variable {ε : Type}

/-- A script whose table holds the input of the stage. -/
def start (stage : String) (input : Source) : Script ε := ⟨stage, [⟨"input", some input⟩], []⟩

/-- The reference to the input. -/
def input : Ref := 0

/-- The kind of a value, unless it has been used up. -/
def kindOf (s : Script ε) (r : Ref) : Option Kind :=
  (s.slots[r]?.bind Slot.value).map Source.kind

/-! ### The table -/

/-- Put a value into a slot, or take it out. -/
def assign (slots : List Slot) (r : Ref) (value : Option Source) : List Slot :=
  slots.modify r fun slot => { slot with value }

/-- Take the value of a slot for a step. -/
def takeSlot (step : String) (slots : List Slot) (r : Ref) :
    Except Failure (Source × List Slot) :=
  match slots[r]? with
  | none => .error (.valueConsumed step ("#" ++ toString r))
  | some ⟨name, none⟩ => .error (.valueConsumed step name)
  | some ⟨_, some source⟩ => .ok (source, assign slots r none)

/-- Lending that had to stop at a value that is not there. The values before it are already out of
the table. -/
structure Shortfall where
  failure : Failure
  /-- The values that were taken, in the order of the references. -/
  taken : List Source
  /-- The table without them. -/
  slots : List Slot
deriving DecidableEq

/-- Take the values of several slots, from the first reference to the last. -/
def lend (step : String) (slots : List Slot) :
    List Ref → Except Shortfall (List Source × List Slot)
  | [] => .ok ([], slots)
  | r :: rs =>
    match takeSlot step slots r with
    | .error f => .error ⟨f, [], slots⟩
    | .ok (source, slots) =>
      match lend step slots rs with
      | .error short => .error { short with taken := source :: short.taken }
      | .ok (sources, slots) => .ok (source :: sources, slots)

/-- Put back the values that are left. -/
def restore (slots : List Slot) : List Ref → List (Option Source) → List Slot
  | r :: rs, some source :: values => restore (assign slots r (some source)) rs values
  | _ :: rs, none :: values => restore slots rs values
  | _, _ => slots

@[simp] theorem length_assign (slots : List Slot) (r : Ref) (value : Option Source) :
    (assign slots r value).length = slots.length := by simp [assign]

theorem getElem?_assign (slots : List Slot) (r i : Ref) (value : Option Source) :
    (assign slots r value)[i]? =
      if r = i then slots[i]?.map fun slot => { slot with value } else slots[i]? := by
  rw [assign, List.getElem?_modify]
  split <;> simp

/-- Assignments to two slots may be exchanged. -/
theorem assign_comm (slots : List Slot) {r s : Ref} (h : r ≠ s) (v w : Option Source) :
    assign (assign slots r v) s w = assign (assign slots s w) r v := by
  apply List.ext_getElem?
  intro i
  simp only [getElem?_assign]
  by_cases hr : r = i <;> by_cases hs : s = i <;> simp [hr, hs]
  exact absurd (hr.trans hs.symm) h

/-- The last of two assignments to a slot counts. -/
theorem assign_assign (slots : List Slot) (r : Ref) (v w : Option Source) :
    assign (assign slots r v) r w = assign slots r w := by
  apply List.ext_getElem?
  intro i
  simp only [getElem?_assign]
  by_cases hr : r = i
  · simp [hr]
    cases slots[i]? <;> rfl
  · simp [hr]

/-- Assigning what a slot holds changes nothing. -/
theorem assign_self {slots : List Slot} {r : Ref} {slot : Slot} (h : slots[r]? = some slot) :
    assign slots r slot.value = slots := by
  apply List.ext_getElem?
  intro i
  rw [getElem?_assign]
  split
  · next same =>
    subst same
    simp [h]
  · rfl

/-- What taking a value means for the table. -/
theorem takeSlot_eq_ok_iff {step : String} {slots rest : List Slot} {r : Ref} {source : Source} :
    takeSlot step slots r = .ok (source, rest) ↔
      (∃ name, slots[r]? = some ⟨name, some source⟩) ∧ rest = assign slots r none := by
  rw [takeSlot]
  split
  · next h => simp [h]
  · next h => simp [h]
  · next h =>
    constructor
    · intro same
      obtain ⟨rfl, rfl⟩ := Prod.mk.inj (Except.ok.inj same)
      exact ⟨⟨_, h⟩, rfl⟩
    · rintro ⟨⟨name, same⟩, rfl⟩
      rw [h] at same
      simp at same
      simp [same.2]

/-! ### Operations -/

/-- Apply a step to references: lend it the values and take back what it leaves. When a value is not
there, those before it go back to where they were. -/
def apply (step : Step ε) (arguments : List Ref) : Action (Script ε × Host ε) (Option Source) :=
  fun (script, host) =>
    match lend step.name script.slots arguments with
    | .error short =>
      let back := restore short.slots (arguments.take short.taken.length) (short.taken.map some)
      (.failed short.failure, ({ script with slots := back }, host))
    | .ok (sources, slots) =>
      let (outcome, (left, host)) := step.call.run (sources.map some, host)
      (outcome, ({ script with slots := restore slots arguments left }, host))

/-- The event before a release. -/
def releaseEvent (stage step : String) : Event :=
  ⟨.debug, "releasing", [("stage", stage), ("step", step)], none⟩

/-- The event after a release that failed. -/
def releaseFailedEvent (stage step : String) (f : Failure) : Event :=
  ⟨.warn, "release failed; continuing",
    [("stage", stage), ("step", step), ("error", f.message)], none⟩

/-- Run releases one after another. -/
def release : List (Pending ε) → Action (Script ε × Host ε) Unit
  | [] => pure ()
  | p :: ps => fun (script, host) =>
    let host := host.note (releaseEvent script.stage p.step.name)
    match (apply p.step p.arguments).run (script, host) with
    | (.done _, state) => release ps state
    | (.failed f, (script, host)) =>
      release ps (script, host.note (releaseFailedEvent script.stage p.step.name f))
    | (.crashed, state) => (.crashed, state)

/-- Run all pending releases, the last registered first. None is pending afterwards. -/
def releaseAll : Action (Script ε × Host ε) Unit := fun (script, host) =>
  release script.pending.reverse ({ script with pending := [] }, host)

/-- After a failure, run all pending releases; the failure remains. -/
def releasingOnFailure {α : Type} (x : Action (Script ε × Host ε) α) :
    Action (Script ε × Host ε) α := fun state =>
  match x.run state with
  | (.failed f, state) =>
    match releaseAll.run state with
    | (.crashed, state) => (.crashed, state)
    | (_, state) => (.failed f, state)
  | ended => ended

/-- Apply a step that yields a value, which gets a slot of its own. -/
def eval (step : Step ε) (arguments : List Ref) : Action (Script ε × Host ε) Ref :=
  releasingOnFailure do
    match ← apply step arguments with
    | some source =>
      let (script, _) ← .current
      .change fun (script, host) =>
        ({ script with slots := script.slots ++ [⟨step.name, some source⟩] }, host)
      return script.slots.length
    | none => .fail (.missingResult step.name (step.result.getD .untyped))

/-- Apply a step for its effect. -/
def perform (step : Step ε) (arguments : List Ref) : Action (Script ε × Host ε) Unit :=
  releasingOnFailure do
    let _ ← apply step arguments

/-- Register a release. -/
def defer (step : Step ε) (arguments : List Ref) : Action (Script ε × Host ε) Unit :=
  releasingOnFailure do
    if step.release then
      .change fun (script, host) =>
        ({ script with pending := script.pending ++ [⟨step, arguments⟩] }, host)
    else .fail (.notRelease step.name)

/-- End the script with the value of a slot, which has to be of the kind expected. -/
def finish (output : Ref) (expected : Kind) : Action (Script ε × Host ε) Source :=
  fun (script, host) =>
    let taken := takeSlot script.stage script.slots output
    let slots := match taken with
      | .ok (_, slots) => slots
      | .error _ => script.slots
    match releaseAll.run ({ script with slots }, host) with
    | (.crashed, state) => (.crashed, state)
    | (_, state) =>
      match taken with
      | .error f => (.failed f, state)
      | .ok (source, _) =>
        if expected.accepts source.kind then (.done source, state)
        else (.failed (.resultKind script.stage expected source.kind), state)

/-- Run what a stage does with a script, and release what is pending when it ends. A crash
releases nothing. -/
def runWith (stage : String) (input : Source) (body : Action (Script ε × Host ε) Source) :
    Action (Host ε) Source := fun host =>
  match body.run (start stage input, host) with
  | (.crashed, (_, host)) => (.crashed, host)
  | (outcome, state) =>
    match releaseAll.run state with
    | (.crashed, (_, host)) => (.crashed, host)
    | (_, (_, host)) => (outcome, host)

/-! ### Lending and restoring -/

/-- What is lent was there. -/
theorem mem_of_lend {step : String} {slots rest : List Slot} {arguments : List Ref}
    {sources : List Source} (h : lend step slots arguments = .ok (sources, rest)) :
    ∀ r ∈ arguments, ∃ name source, slots[r]? = some ⟨name, some source⟩ := by
  induction arguments generalizing slots sources rest with
  | nil => simp
  | cons r rs ih =>
    rw [lend] at h
    split at h
    · simp at h
    · next source slots₁ taken =>
      split at h
      · simp at h
      · next sources₁ slots₂ lent =>
        obtain ⟨⟨name, found⟩, rfl⟩ := takeSlot_eq_ok_iff.1 taken
        intro i mem
        rcases List.mem_cons.1 mem with rfl | mem
        · exact ⟨name, source, found⟩
        · obtain ⟨name', source', found'⟩ := ih lent i mem
          rw [getElem?_assign] at found'
          split at found'
          · next same =>
            subst same
            simp [found] at found'
          · exact ⟨name', source', found'⟩

/-- Only references that differ can be lent together. -/
theorem not_mem_of_lend {step : String} {slots rest : List Slot} {r : Ref} {arguments : List Ref}
    {sources : List Source}
    (h : lend step (assign slots r none) arguments = .ok (sources, rest)) : r ∉ arguments := by
  intro mem
  obtain ⟨name, source, found⟩ := mem_of_lend h r mem
  rw [getElem?_assign, if_pos rfl] at found
  cases hr : slots[r]? <;> simp [hr] at found

/-- Restoring does not touch other slots. -/
theorem restore_assign {slots : List Slot} {r : Ref} {v : Option Source} {arguments : List Ref}
    (values : List (Option Source)) (h : r ∉ arguments) :
    restore (assign slots r v) arguments values = assign (restore slots arguments values) r v := by
  induction arguments generalizing slots values with
  | nil => simp [restore]
  | cons i rs ih =>
    have hi : r ≠ i := fun same => h (by simp [same])
    have hrs : r ∉ rs := fun mem => h (List.mem_cons_of_mem _ mem)
    cases values with
    | nil => simp [restore]
    | cons value values =>
      cases value with
      | none => simp only [restore, ih values hrs]
      | some source => simp only [restore, assign_comm slots hi, ih values hrs]

/-- Restoring exactly what was lent gives the table back. -/
theorem restore_lend {step : String} {slots rest : List Slot} {arguments : List Ref}
    {sources : List Source} (h : lend step slots arguments = .ok (sources, rest)) :
    restore rest arguments (sources.map some) = slots := by
  induction arguments generalizing slots sources rest with
  | nil =>
    simp only [lend, Except.ok.injEq, Prod.mk.injEq] at h
    obtain ⟨rfl, rfl⟩ := h
    rfl
  | cons r rs ih =>
    rw [lend] at h
    split at h
    · simp at h
    · next source slots₁ taken =>
      split at h
      · simp at h
      · next sources₁ slots₂ lent =>
        simp only [Except.ok.injEq, Prod.mk.injEq] at h
        obtain ⟨rfl, rfl⟩ := h
        obtain ⟨⟨name, found⟩, rfl⟩ := takeSlot_eq_ok_iff.1 taken
        rw [List.map_cons, restore, restore_assign _ (not_mem_of_lend lent), ih lent,
          assign_assign]
        exact assign_self found

/-- Lending that had to stop has lent what stands before the value that is not there. -/
theorem exists_of_shortfall {step : String} {slots : List Slot} {arguments : List Ref}
    {short : Shortfall} (h : lend step slots arguments = .error short) :
    ∃ earlier r later, arguments = earlier ++ r :: later ∧
      lend step slots earlier = .ok (short.taken, short.slots) ∧
      takeSlot step short.slots r = .error short.failure := by
  induction arguments generalizing slots short with
  | nil => cases h
  | cons r rs ih =>
    rw [lend] at h
    split at h
    · next f missing =>
      -- the first value is not there, so nothing was taken
      obtain rfl := Except.error.inj h
      exact ⟨[], r, rs, rfl, rfl, missing⟩
    · next source slots₁ taken =>
      split at h
      · next short₁ stopped =>
        obtain rfl := Except.error.inj h
        obtain ⟨earlier, r', later, rfl, lent, missing⟩ := ih stopped
        refine ⟨r :: earlier, r', later, rfl, ?_, missing⟩
        rw [lend, taken]
        simp only [lent]
      · cases h

/-- Values that were lent are as many as the references. -/
theorem length_of_lend {step : String} {slots rest : List Slot} {arguments : List Ref}
    {sources : List Source} (h : lend step slots arguments = .ok (sources, rest)) :
    sources.length = arguments.length := by
  induction arguments generalizing slots rest sources with
  | nil =>
    rw [lend, Except.ok.injEq, Prod.mk.injEq] at h
    rw [← h.1, List.length_nil, List.length_nil]
  | cons r rs ih =>
    rw [lend] at h
    split at h
    · cases h
    · next source slots₁ taken =>
      split at h
      · cases h
      · next sources₁ slots₂ lent =>
        rw [Except.ok.injEq, Prod.mk.injEq] at h
        rw [← h.1, List.length_cons, List.length_cons, ih lent]

/-- Putting back what was taken before lending had to stop gives the table back. -/
theorem restore_shortfall {step : String} {slots : List Slot} {arguments : List Ref}
    {short : Shortfall} (h : lend step slots arguments = .error short) :
    restore short.slots (arguments.take short.taken.length) (short.taken.map some) = slots := by
  obtain ⟨earlier, r, later, rfl, lent, -⟩ := exists_of_shortfall h
  rw [length_of_lend lent, List.take_left]
  exact restore_lend lent

end Script

end ArtifactPipeline
