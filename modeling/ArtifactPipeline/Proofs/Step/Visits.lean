import ArtifactPipeline.Proofs.Step.Call

/-!
# Watching the bodies of steps

Which bodies ran, in which order and on what, does not show in the outcome of a run. `Step.watched`
makes a step write down every run of its body: where the step stands among others, what it declares,
the arguments that the body was given and how the body ended (`Visit`). The notes go to a record
that lies outside, beside whatever else is there (`Host.withRecord`), so that the body itself can
neither see nor spoil it.

Watching changes nothing else. `Watches` says that an action does to the host what another one does
and writes down some visits besides; `Watches.bind` puts such actions together, and
`Step.watches_invoke` is the rule for a step whose arguments fit: its call is one visit.
-/

namespace ArtifactPipeline

variable {ε κ α β : Type}

/-- The same host with a record beside what lies outside. -/
def Host.withRecord (host : Host ε) (record : κ) : Host (ε × κ) :=
  { host with outside := (host.outside, record) }

/-- The same host without the record. -/
def Host.withoutRecord (host : Host (ε × κ)) : Host ε :=
  { host with outside := host.outside.1 }

/-- **A run of the body of a step.** -/
structure Visit where
  /-- Where the step stands. -/
  position : Nat
  /-- What the step declares. -/
  signature : Signature
  /-- The arguments that the body was given. -/
  arguments : List (Option Source)
  /-- How the body ended. -/
  ended : Outcome (Option Source)

/-- What the call comes to, once the result of the body has been checked. -/
def Visit.result (v : Visit) : Outcome (Option Source) := Step.checkOutcome v.signature v.ended

/-- **A step that is watched.** It does what it did, and every run of its body is written down. -/
def Step.watched (step : Step ε) (position : Nat) : Step (ε × List Visit) where
  toSignature := step.toSignature
  body := fun frame =>
    let ended := step.body.run ⟨frame.values, frame.host.withoutRecord⟩
    let visit : Visit := ⟨position, step.toSignature, frame.values.toList, ended.1⟩
    (ended.1, ⟨ended.2.values, ended.2.host.withRecord (frame.host.outside.2 ++ [visit])⟩)

/-! ### Actions that are watched -/

/-- **One action watches another**: it ends as the other does, on the same host but for the record,
to which it has added some visits. `P` says which. -/
def Watches (watching : Action (Host (ε × List κ)) α) (x : Action (Host ε) α)
    (P : List κ → Outcome α → Prop) : Prop :=
  ∀ host record, ∃ visits,
    watching.run (host.withRecord record) =
      ((x.run host).1, (x.run host).2.withRecord (record ++ visits)) ∧
    P visits (x.run host).1

/-- An action that runs no body has nothing to write down. -/
theorem Watches.of_unvisited {watching : Action (Host (ε × List κ)) α} {x : Action (Host ε) α}
    {P : Outcome α → Prop}
    (hsame : ∀ host record, watching.run (host.withRecord record) =
      ((x.run host).1, (x.run host).2.withRecord record))
    (hends : ∀ host, P (x.run host).1) :
    Watches watching x fun visits outcome => visits = [] ∧ P outcome := by
  intro host record
  refine ⟨[], ?_, rfl, hends host⟩
  rw [List.append_nil]
  exact hsame host record

/-- **Sequence.** The visits of the second action, begun with what the first one can come to, stand
after those of the first. -/
theorem Watches.bind {watching : Action (Host (ε × List κ)) α} {x : Action (Host ε) α}
    {next : α → Action (Host (ε × List κ)) β} {k : α → Action (Host ε) β}
    {P : List κ → Outcome α → Prop} {Q : α → List κ → Outcome β → Prop}
    {R : List κ → Outcome β → Prop} (hfirst : Watches watching x P)
    (hnext : ∀ visits a, P visits (.done a) → Watches (next a) (k a) (Q a))
    (hdone : ∀ visits a later outcome, P visits (.done a) → Q a later outcome →
      R (visits ++ later) outcome)
    (hfailed : ∀ visits f, P visits (.failed f) → R visits (.failed f))
    (hcrashed : ∀ visits, P visits .crashed → R visits .crashed) :
    Watches (watching >>= next) (x >>= k) R := by
  intro host record
  obtain ⟨visits, hrun, hvisits⟩ := hfirst host record
  rw [Action.run_bind, Action.run_bind, hrun]
  generalize x.run host = ended at hvisits ⊢
  rcases ended with ⟨a | f | _, middle⟩
  · obtain ⟨later, hlater, hends⟩ := hnext visits a hvisits middle (record ++ visits)
    refine ⟨visits ++ later, ?_, hdone visits a later _ hvisits hends⟩
    rw [← List.append_assoc]
    exact hlater
  · exact ⟨visits, rfl, hfailed visits f hvisits⟩
  · exact ⟨visits, rfl, hcrashed visits hvisits⟩

/-- A note is no visit. -/
theorem watches_record (event : Event) :
    Watches (Host.record event : Action (Host (ε × List κ)) Unit) (Host.record event)
      fun visits outcome => visits = [] ∧ outcome = .done () :=
  .of_unvisited (P := fun outcome => outcome = .done ()) (fun _ _ => rfl) fun _ => rfl

namespace Step

/-- The notes of a step leave the record as it is. -/
theorem noteEnd_withRecord (name : String) (outcome : Outcome α) (host : Host ε) (record : κ) :
    noteEnd name outcome (host.withRecord record) =
      (noteEnd name outcome host).withRecord record := by
  cases outcome <;> rfl

/-- **A call whose arguments fit is one visit**, and otherwise the call of the step itself. -/
theorem run_call_watched {step : Step ε} {values : List (Option Source)}
    (hlength : values.length = step.parameters.length)
    (hfits : Signature.checkEach step.name step.parameters values = .ok ()) (position : Nat)
    (host : Host ε) (record : List Visit) :
    ∃ v : Visit, v.position = position ∧ v.signature = step.toSignature ∧ v.arguments = values ∧
      v.result = (step.call.run (values, host)).1 ∧
      (step.watched position).call.run (values, host.withRecord record) =
        let ended := step.call.run (values, host)
        (ended.1, (ended.2.1, ended.2.2.withRecord (record ++ [v]))) := by
  rw [run_call hlength hfits]
  refine ⟨⟨position, step.toSignature, values, (step.body.run
    ⟨⟨values.toArray, by simpa using hlength⟩, host.note (startEvent step.name)⟩).1⟩,
    rfl, rfl, rfl, rfl, ?_⟩
  rw [@run_call _ (step.watched position) _ hlength hfits]
  -- the body begins on the host without the record, which is the host of the step itself
  simp only [← noteEnd_withRecord]
  rfl

/-- The same for a call whose left arguments nobody wants. -/
theorem watches_invoke {step : Step ε} {arguments : List Source}
    (hlength : (arguments.map some).length = step.parameters.length)
    (hfits : Signature.checkEach step.name step.parameters (arguments.map some) = .ok ())
    (position : Nat) :
    Watches ((step.watched position).invoke arguments) (step.invoke arguments)
      fun visits outcome => ∃ v : Visit, visits = [v] ∧ v.position = position ∧
        v.signature = step.toSignature ∧ v.arguments = arguments.map some ∧ v.result = outcome := by
  intro host record
  obtain ⟨v, hposition, hsignature, harguments, hresult, hrun⟩ :=
    run_call_watched hlength hfits position host record
  refine ⟨[v], ?_, v, rfl, hposition, hsignature, harguments, hresult⟩
  simp only [Action.run, invoke] at hrun ⊢
  rw [hrun]

end Step

end ArtifactPipeline
