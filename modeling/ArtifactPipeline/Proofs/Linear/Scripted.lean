import ArtifactPipeline.Proofs.Linear.Visits
import ArtifactPipeline.Proofs.Script.Round
import ArtifactPipeline.Proofs.Stage.Run

/-!
# A pipe as a script

A pipe hands one value from step to step and converts it on the way. A script keeps all values in a
table and lends them to its steps. Where no value has to be converted, the pipe is the script that
evaluates the steps one after another, each on the value of the one before, and finishes with the
last value (`Linear.scripted`).

`Flows` says that no value has to be converted, in terms of what the steps declare.
`ends_alike` is the simulation: with the value of the pipe in the slot that comes next, the rest of
the pipe and the rest of the script end alike. It is proved by induction on the steps that are left,
and applied twice, to the steps and to the steps that are watched.

The two write different journals, since a pipe also notes a conversion that has nothing to do. So
hosts are compared but for the journal (`Host.Alike`), and the bodies of the steps are taken to
write to the journal without ever reading it (`Step.IgnoresJournal`).
-/

namespace ArtifactPipeline

variable {ε κ α : Type}

/-! ### Hosts but for the journal -/

/-- **Two hosts are alike**: they differ in their journals only. -/
def Host.Alike (h h' : Host ε) : Prop := { h with journal := [] } = { h' with journal := [] }

theorem Host.Alike.refl (h : Host ε) : h.Alike h := rfl

/-- Notes make no difference. -/
theorem Host.Alike.note {h h' : Host ε} (halike : h.Alike h') (event event' : Event) :
    (h.note event).Alike (h'.note event') := halike

theorem Host.Alike.note_left {h h' : Host ε} (halike : h.Alike h') (event : Event) :
    (h.note event).Alike h' := halike

theorem Host.Alike.noteEnd {h h' : Host ε} (halike : h.Alike h') (name : String)
    (outcome : Outcome α) : (Step.noteEnd name outcome h).Alike (Step.noteEnd name outcome h') := by
  cases outcome <;> exact halike

theorem Host.Alike.withRecord {h h' : Host ε} (halike : h.Alike h') (record : κ) :
    (h.withRecord record).Alike (h'.withRecord record) :=
  congrArg (Host.withRecord · record) halike

theorem Host.Alike.withoutRecord {h h' : Host (ε × κ)} (halike : h.Alike h') :
    h.withoutRecord.Alike h'.withoutRecord := congrArg Host.withoutRecord halike

theorem Host.Alike.outside {h h' : Host ε} (halike : h.Alike h') : h.outside = h'.outside := by
  have hsame := congrArg Host.outside halike
  exact hsame

namespace Step

/-- **A step whose body does not read the journal.** On hosts that are alike it does the same, and
leaves hosts that are alike. -/
def IgnoresJournal (step : Step ε) : Prop :=
  ∀ values (h h' : Host ε), h.Alike h' →
    (step.body.run ⟨values, h⟩).1 = (step.body.run ⟨values, h'⟩).1 ∧
      (step.body.run ⟨values, h⟩).2.values = (step.body.run ⟨values, h'⟩).2.values ∧
      (step.body.run ⟨values, h⟩).2.host.Alike (step.body.run ⟨values, h'⟩).2.host

/-- To watch a step is not to read the journal. -/
theorem IgnoresJournal.watched {step : Step ε} (h : step.IgnoresJournal) (position : Nat) :
    (step.watched position).IgnoresJournal := by
  intro values host host' halike
  obtain ⟨houtcome, hvalues, hhosts⟩ := h values _ _ halike.withoutRecord
  have hrecord : host.outside.2 = host'.outside.2 := congrArg Prod.snd halike.outside
  refine ⟨houtcome, hvalues, ?_⟩
  -- what is written down is the arguments and the outcome, and both are the same
  simp only [Action.run, Step.watched] at houtcome hhosts ⊢
  rw [houtcome, hrecord]
  exact hhosts.withRecord _

/-- **A call whose arguments fit** comes to the same on hosts that are alike. -/
theorem IgnoresJournal.call {step : Step ε} (h : step.IgnoresJournal)
    {values : List (Option Source)} (hlength : values.length = step.parameters.length)
    (hfits : Signature.checkEach step.name step.parameters values = .ok ()) {host host' : Host ε}
    (halike : host.Alike host') :
    (step.call.run (values, host)).1 = (step.call.run (values, host')).1 ∧
      (step.call.run (values, host)).2.2.Alike (step.call.run (values, host')).2.2 := by
  rw [run_call hlength hfits, run_call hlength hfits]
  obtain ⟨houtcome, -, hhosts⟩ := h ⟨values.toArray, by simpa using hlength⟩ _ _
    (halike.note (startEvent step.name) (startEvent step.name))
  dsimp only
  rw [houtcome]
  exact ⟨rfl, hhosts.noteEnd _ _⟩

end Step

/-! ### One operation of a script -/

namespace Script

/-- **The value of a single reference is lent to a step**, and the step is called with it. What it
yields gets a slot of its own. Nothing is released, since nothing is registered. -/
theorem run_eval (step : Step ε) (stage : String) {table : List Slot} {r : Ref} {value : Source}
    (hvalue : valueAt table r = some value) (host : Host ε) :
    ∃ slots, (eval step [r]).run (⟨stage, table, []⟩, host) =
      match (step.call.run ([some value], host)).1 with
      | .done (some made) => (.done slots.length, (⟨stage, slots ++ [⟨step.name, some made⟩], []⟩,
          (step.call.run ([some value], host)).2.2))
      | .done none => (.failed (.missingResult step.name (step.result.getD .untyped)),
          (⟨stage, slots, []⟩, (step.call.run ([some value], host)).2.2))
      | .failed f => (.failed f, (⟨stage, slots, []⟩, (step.call.run ([some value], host)).2.2))
      | .crashed => (.crashed, (⟨stage, slots, []⟩, (step.call.run ([some value], host)).2.2)) := by
  obtain ⟨rest, hlend⟩ : ∃ rest, lend step.name table [r] = .ok ([value], rest) :=
    lend_eq_ok_iff.mpr ⟨List.pairwise_singleton _ r, congrArg (· :: []) hvalue⟩
  have happly : (apply step [r]).run (⟨stage, table, []⟩, host) =
      ((step.call.run ([some value], host)).1,
        (⟨stage, restore rest [r] (step.call.run ([some value], host)).2.1, []⟩,
          (step.call.run ([some value], host)).2.2)) := by
    rw [Action.run, apply, hlend]
    rfl
  refine ⟨restore rest [r] (step.call.run ([some value], host)).2.1, ?_⟩
  -- the four ways in which the call can end; with nothing registered, a failure releases nothing
  rw [eval, run_releasingOnFailure, Action.run_bind, happly]
  generalize step.call.run ([some value], host) = ended
  obtain ⟨(_ | made) | f | _, left, after⟩ := ended <;> rfl

/-- Evaluate steps one after another, each on the value of the one before. -/
def evalAll : List (Step ε) → Ref → Action (Script ε × Host ε) Ref
  | [], r => return r
  | step :: steps, r => do evalAll steps (← eval step [r])

end Script

namespace Linear

/-- **A pipe as a script**: the steps are evaluated one after another, the first on the input, and
the script finishes with the last value. -/
def scripted (l : Linear ε) (name : String) (input : Source) : Action (Host ε) Source :=
  Script.runWith name input do
    let last ← Script.evalAll (l.steps.map Subtype.val) Script.input
    Script.finish last l.info.output

/-! ### No value has to be converted -/

/-- **A value of a kind flows through steps to an output** without having to be converted: the
parameters of the first step accept it, the step declares of which kind its result is, and values of
this kind flow on. -/
def Flows (output : Kind) : Kind → List (Step ε) → Prop
  | k, [] => output.accepts k = true
  | k, step :: steps => (∀ p ∈ step.parameters, p.accepts k = true) ∧
      ∃ declared, step.result = some declared ∧ declared ≠ .untyped ∧ Flows output declared steps

/-- A step that declares a kind makes values of that kind. -/
theorem kind_of_checkOutcome {signature : Signature} {declared : Kind}
    (hresult : signature.result = some declared) (htyped : declared ≠ .untyped)
    {ended : Outcome (Option Source)} {made : Source}
    (hmade : Step.checkOutcome signature ended = .done (some made)) : made.kind = declared := by
  rcases ended with (_ | value) | f | _
  · simp [Step.checkOutcome, Signature.checkResult, hresult] at hmade
  · simp only [Step.checkOutcome, Signature.checkResult, hresult] at hmade
    split at hmade
    · next haccepts =>
      obtain rfl := Option.some.inj (Outcome.done.inj hmade)
      exact ((Kind.accepts_iff.mp haccepts).resolve_left htyped).symm
    · cases hmade
  · cases hmade
  · cases hmade

/-! ### One step -/

section Step

variable {step : { step : Step ε // step.Pipes }} {parameter : Parameter}
  (hone : step.val.parameters = [parameter]) {value : Source}
  (haccepts : parameter.accepts value.kind = true)

include hone haccepts

/-- A value that the one parameter accepts passes the check of the arguments. -/
theorem checkEach_of_accepts :
    Signature.checkEach step.val.name step.val.parameters [some value] = .ok () := by
  rw [hone]
  simp [Signature.checkEach, haccepts]

/-- **A pipe hands such a value to the step as it is**, and receives what the call comes to. -/
theorem run_pass {host host' : Host ε} (halike : host.Alike host')
    (hquiet : step.val.IgnoresJournal) :
    ∃ after, after.Alike (step.val.call.run ([some value], host')).2.2 ∧
      (pass step value).run host = match (step.val.call.run ([some value], host')).1 with
        | .done (some made) => (.done made, after)
        | .done none => (.failed (.missingResult step.val.name parameter.kind), after)
        | .failed f => (.failed f, after)
        | .crashed => (.crashed, after) := by
  obtain ⟨noted, hannounce, hnoted⟩ : ∃ noted,
      (announce step.val parameter value).run host = (.done (), noted) ∧ noted.Alike host' := by
    rw [announce]
    split
    · exact ⟨_, rfl, halike.note_left _⟩
    · exact ⟨host, rfl, halike⟩
  have hconvert : (Conversion.convertAction value parameter.kind).run noted =
      (.done value, noted) := Conversion.run_convertAction_of_accepts haccepts noted
  have hinvoke : (step.val.invoke [value]).run noted =
      ((step.val.call.run ([some value], noted)).1,
        (step.val.call.run ([some value], noted)).2.2) := rfl
  obtain ⟨houtcome, hhosts⟩ :=
    hquiet.call (by rw [hone]; rfl) (checkEach_of_accepts hone haccepts) hnoted
  -- announced, not converted, and received: what is left is how the call ended
  refine ⟨(step.val.call.run ([some value], noted)).2.2, hhosts, ?_⟩
  rw [pass_eq step hone]
  simp only [Action.run_bind, hannounce, hconvert, hinvoke, houtcome]
  rcases (step.val.call.run ([some value], host')).1 with (_ | made) | f | _ <;> rfl

/-- A step of a pipe never comes to nothing. -/
theorem call_ne_none (host : Host ε) :
    (step.val.call.run ([some value], host)).1 ≠ .done none := by
  rw [Step.run_call (by rw [hone]; rfl) (checkEach_of_accepts hone haccepts)]
  exact result_ne_none (v := ⟨0, step.val.toSignature, [], _⟩) step.property.2

/-- What a step makes flows on, since its kind is checked. -/
theorem flows_of_call {output k : Kind} {steps : List (Step ε)}
    (hflows : Flows output k (step.val :: steps)) {host : Host ε} {made : Source}
    (hmade : (step.val.call.run ([some value], host)).1 = .done (some made)) :
    Flows output made.kind steps := by
  obtain ⟨-, declared, hresult, htyped, hrest⟩ := hflows
  rw [Step.run_call (by rw [hone]; rfl) (checkEach_of_accepts hone haccepts)] at hmade
  rwa [kind_of_checkOutcome hresult htyped hmade]

end Step

/-! ### The simulation -/

/-- **Two runs end alike**: with the same outcome, on hosts that are alike. -/
def EndAlike (a b : Outcome α × Host ε) : Prop := a.1 = b.1 ∧ a.2.Alike b.2

/-- A script that finishes with a value of the kind expected hands it out. -/
theorem settle_finish (stage : String) {table : List Slot} {r : Ref} {value : Source}
    (hvalue : Script.valueAt table r = some value) {output : Kind}
    (haccepts : output.accepts value.kind = true) (host : Host ε) :
    Script.settle ((Script.finish r output).run (⟨stage, table, []⟩, host)) =
      (.done value, host) := by
  have htaken : Script.takeSlot stage table r = .ok (value, Script.assign table r none) :=
    Script.takeSlot_eq_ok_iff.mpr ⟨Script.valueAt_eq_some_iff.mp hvalue, rfl⟩
  have hround : Script.releaseAll.run ((⟨stage, Script.assign table r none, []⟩ : Script ε), host) =
      (.done (), (⟨stage, Script.assign table r none, []⟩, host)) := rfl
  have hfinish : (Script.finish r output).run (⟨stage, table, []⟩, host) =
      (.done value, (⟨stage, Script.assign table r none, []⟩, host)) := by
    rw [Action.run, Script.finish]
    simp only [htaken, hround, if_pos haccepts]
  rw [hfinish, Script.settle_of_pending_nil rfl]

/-- **The rest of a pipe and the rest of its script end alike**, when the value of the one is where
the other goes on. -/
theorem ends_alike {output : Kind} (stage : String) {steps : List { step : Step ε // step.Pipes }}
    (hquiet : ∀ step ∈ steps, step.val.IgnoresJournal) {value : Source}
    (hflows : Flows output value.kind (steps.map Subtype.val)) {table : List Slot} {r : Ref}
    (hvalue : Script.valueAt table r = some value) {host host' : Host ε}
    (halike : host.Alike host') :
    EndAlike
      ((passAll steps value >>= fun last => Conversion.convertAction last output).run host)
      (Script.settle ((Script.evalAll (steps.map Subtype.val) r >>= fun last =>
        Script.finish last output).run (⟨stage, table, []⟩, host'))) := by
  -- on the steps that are left; the table grows and the hosts drift apart in their journals
  induction steps generalizing value table r host host' with
  | nil =>
    -- the pipe converts its last value and the script checks it, and both leave it alone
    have hconvert : (Conversion.convertAction value output).run host = (.done value, host) :=
      Conversion.run_convertAction_of_accepts hflows host
    change EndAlike ((Conversion.convertAction value output).run host)
      (Script.settle ((Script.finish r output).run (⟨stage, table, []⟩, host')))
    rw [hconvert, settle_finish stage hvalue hflows host']
    exact ⟨rfl, halike⟩
  | cons step steps ih =>
    obtain ⟨parameter, hone⟩ := exists_parameter step.property
    have haccepts : parameter.accepts value.kind = true :=
      hflows.1 parameter (by rw [hone]; exact List.mem_singleton_self _)
    obtain ⟨after, hafter, hpass⟩ :=
      run_pass hone haccepts halike (hquiet step List.mem_cons_self)
    obtain ⟨slots, heval⟩ := Script.run_eval step.val stage hvalue host'
    have hne := call_ne_none hone haccepts host'
    have hmade : ∀ made, (step.val.call.run ([some value], host')).1 = .done (some made) →
        Flows output made.kind (steps.map Subtype.val) :=
      fun made => flows_of_call hone haccepts hflows
    -- one step on each side, and then both go by the end of one and the same call
    rw [passAll, bind_assoc, Action.run_bind, hpass]
    rw [List.map_cons, Script.evalAll, bind_assoc, Action.run_bind, heval]
    generalize step.val.call.run ([some value], host') = ended at hafter hne hmade ⊢
    obtain ⟨(_ | made) | f | _, left, middle⟩ := ended
    · exact absurd rfl hne
    · -- the value that was made stands in the slot that was added last
      refine ih (fun s hs => hquiet s (List.mem_cons_of_mem step hs)) (hmade made rfl) ?_ hafter
      rw [Script.valueAt, List.getElem?_concat_length]
      rfl
    · exact ⟨rfl, hafter⟩
    · exact ⟨rfl, hafter⟩

/-- **A pipe and its script end alike.** -/
theorem execute_alike (l : Linear ε) (hquiet : ∀ step ∈ l.steps, step.val.IgnoresJournal)
    {input : Source} (hflows : Flows l.info.output input.kind (l.steps.map Subtype.val))
    (name : String) (host : Host ε) :
    EndAlike ((l.execute input).run host) ((l.scripted name input).run host) :=
  ends_alike name hquiet hflows rfl (.refl host)

/-! ### The bodies that run -/

theorem exists_of_mem_watchedFrom {steps : List { step : Step ε // step.Pipes }} {i : Nat}
    {watched : { step : Step (ε × List Visit) // step.Pipes }}
    (hwatched : watched ∈ watchedFrom i steps) :
    ∃ step ∈ steps, ∃ j, watched.val = step.val.watched j := by
  induction steps generalizing i with
  | nil => cases hwatched
  | cons step steps ih =>
    rcases List.mem_cons.mp hwatched with rfl | hwatched
    · exact ⟨step, List.mem_cons_self, i, rfl⟩
    · obtain ⟨found, hfound, hsame⟩ := ih hwatched
      exact ⟨found, List.mem_cons_of_mem step hfound, hsame⟩

/-- A watched step declares what it declared. -/
theorem flows_watchedFrom {output k : Kind} {steps : List { step : Step ε // step.Pipes }}
    (i : Nat) (hflows : Flows output k (steps.map Subtype.val)) :
    Flows output k ((watchedFrom i steps).map Subtype.val) := by
  induction steps generalizing i k with
  | nil => exact hflows
  | cons step steps ih =>
    obtain ⟨hfits, declared, hresult, htyped, hrest⟩ := hflows
    exact ⟨hfits, declared, hresult, htyped, ih (i + 1) hrest⟩

/-- **Where nothing has to be converted, a pipe is a script.** Take any pipe, a name, and an input
that flows through the steps to the output without having to be converted, and any host; the bodies
of the steps do not read the journal. The script that evaluates the steps one after another, each on
the value of the one before, and finishes with the last value has the same outcome as the pipe, and
the hosts afterwards differ in their journals only. Watched, the two run the same bodies in the same
order on the same arguments, which all end in the same way. -/
theorem execute_as_script (l : Linear ε) (hquiet : ∀ step ∈ l.steps, step.val.IgnoresJournal)
    {input : Source} (hflows : Flows l.info.output input.kind (l.steps.map Subtype.val))
    (name : String) (host : Host ε) (record : List Visit) :
    ∃ outcome piped scripted visits watched,
      (l.execute input).run host = (outcome, piped) ∧
      (l.scripted name input).run host = (outcome, scripted) ∧ piped.Alike scripted ∧
      (l.watched.execute input).run (host.withRecord record) =
        (outcome, piped.withRecord (record ++ visits)) ∧
      (l.watched.scripted name input).run (host.withRecord record) = (outcome, watched) ∧
      watched.outside = (scripted.outside, record ++ visits) := by
  obtain ⟨houtcome, halike⟩ := l.execute_alike hquiet hflows name host
  have hwatched : ∀ step ∈ l.watched.steps, step.val.IgnoresJournal := by
    intro step hstep
    obtain ⟨found, hfound, j, hsame⟩ := exists_of_mem_watchedFrom hstep
    rw [hsame]
    exact (hquiet found hfound).watched j
  -- the steps that are watched are steps as well, so the simulation holds of them too
  obtain ⟨hsame, hbeside⟩ :=
    l.watched.execute_alike hwatched (flows_watchedFrom 0 hflows) name (host.withRecord record)
  obtain ⟨visits, hpipe, -⟩ := watches_passAll l.info.output l.steps 0 input host record
  have hpipe : (l.watched.execute input).run (host.withRecord record) =
      (((l.execute input).run host).1,
        ((l.execute input).run host).2.withRecord (record ++ visits)) := hpipe
  rw [hpipe] at hsame hbeside
  rw [hpipe]
  generalize (l.execute input).run host = ended at houtcome halike hsame hbeside ⊢
  generalize (l.scripted name input).run host = ended' at houtcome halike ⊢
  generalize (l.watched.scripted name input).run _ = watched at hsame hbeside ⊢
  obtain ⟨outcome, piped⟩ := ended
  obtain ⟨_, scripted⟩ := ended'
  obtain ⟨_, beside⟩ := watched
  dsimp only at houtcome halike hsame hbeside
  subst houtcome hsame
  refine ⟨outcome, piped, scripted, visits, beside, rfl, rfl, halike, rfl, rfl, ?_⟩
  rw [← hbeside.outside, ← halike.outside]
  rfl

/-- A step that takes anything and describes it. -/
def describing : Step Unit where
  name := "describe"
  parameters := [⟨"value", .untyped⟩]
  result := some .string
  body := fun frame => (.done (some (.string "a value")), frame)

/-- A pipe that hands a text on and then describes it. -/
def describingInfo : StageInfo := .between "text" "description" .string .untyped

/-- A text flows to a step that takes anything. -/
theorem execute_as_script_of_describing :
    ∃ l, ofSteps describingInfo [handOn "read" .string, describing] = .ok l ∧
      ∀ host record, ∃ outcome piped scripted visits watched,
        (l.execute (.string "a")).run host = (outcome, piped) ∧
        (l.scripted "description" (.string "a")).run host = (outcome, scripted) ∧
        piped.Alike scripted ∧
        (l.watched.execute (.string "a")).run (host.withRecord record) =
          (outcome, piped.withRecord (record ++ visits)) ∧
        (l.watched.scripted "description" (.string "a")).run (host.withRecord record) =
          (outcome, watched) ∧
        watched.outside = (scripted.outside, record ++ visits) := by
  obtain ⟨l, hl⟩ : ∃ l, ofSteps describingInfo [handOn "read" .string, describing] = .ok l :=
    ⟨_, rfl⟩
  obtain ⟨hinfo, hsteps⟩ := ofSteps_eq_ok hl
  have hquiet : ∀ step ∈ l.steps, step.val.IgnoresJournal := by
    intro step hstep
    have hmem : step.val ∈ l.steps.map Subtype.val := List.mem_map_of_mem hstep
    rw [hsteps] at hmem
    rcases List.mem_cons.mp hmem with h | h
    · rw [h]
      exact fun _ _ _ halike => ⟨rfl, rfl, halike⟩
    · rw [List.mem_singleton.mp h]
      exact fun _ _ _ halike => ⟨rfl, rfl, halike⟩
  have hflows : Flows l.info.output (Source.string "a").kind (l.steps.map Subtype.val) := by
    rw [hinfo, hsteps]
    exact ⟨by decide, .string, rfl, nofun, by decide, .string, rfl, nofun, rfl⟩
  exact ⟨l, hl, execute_as_script l hquiet hflows "description"⟩

end Linear

end ArtifactPipeline
