import ArtifactPipeline.Proofs.Linear.Visits
import ArtifactPipeline.Proofs.Registry.Path
import ArtifactPipeline.Proofs.Stage.Run
import Mathlib.Data.List.Chain
import Mathlib.Data.List.Nodup
import Mathlib.Data.Option.Basic

/-!
# Passing along a path

A path hands an artifact from stage to stage, and each stage converts it first. Where the kinds that
the stages declare fit together, no conversion can be one that does not exist: a stage checks the
kind of what it hands out, so what the next one gets is of the kind that was declared.

The stages are watched (`Registry.watched`): every execution is written down, with the place of its
stage in the registry, what the stage was given and how it ended.

* `Passage` follows an artifact along a path, whatever the stages declare, and
  `watches_runStages` says that every run is one;
* `WellTyped` says that the kinds along a path fit together;
* `Orderly` is what a run along such a path comes to, and `run_orderly` says so of every run.
-/

namespace ArtifactPipeline

variable {ε : Type}

open Linear (Becomes Refuses conclude watches_convertAction)

/-! ### Conversions that there are -/

namespace Conversion

/-- **An artifact of a kind may stand where another is asked for**, or there is a hop that makes it
one that may. -/
def Compatible (k target : Kind) : Prop := target.accepts k = true ∨ hasHop k target = true

instance (k target : Kind) : Decidable (Compatible k target) :=
  inferInstanceAs (Decidable (_ ∨ _))

end Conversion

/-! ### Stages that are watched -/

/-- **An execution of a stage.** -/
structure Execution where
  /-- Where the stage stands in the registry. -/
  place : Nat
  /-- What the stage was given, after the conversion. -/
  input : Source
  /-- How the execution ended. -/
  ended : Outcome Source

namespace Stage

/-- **A stage that is watched.** It does what it did, and every execution is written down. -/
def watched (stage : Stage ε) (place : Nat) : Stage (ε × List Execution) where
  info := stage.info
  execute input := fun host =>
    let ended := (stage.execute input).run host.withoutRecord
    (ended.1, ended.2.withRecord (host.outside.2 ++ [⟨place, input, ended.1⟩]))

/-- **A run of a stage with a value**: the value does not convert, or the stage is executed, and the
execution decides. -/
def Runs (stage : Stage ε) (place : Nat) (value : Source) (executions : List Execution)
    (outcome : Outcome Source) : Prop :=
  (executions = [] ∧ ∃ cause, outcome = .failed (.conversion cause) ∧
      Refuses value stage.info.input cause) ∨
    ∃ x : Execution, executions = [x] ∧ x.place = place ∧ Becomes value stage.info.input x.input ∧
      outcome = checkOutcome stage.info x.ended

/-- An execution that is watched is written down. -/
theorem watches_execute (stage : Stage ε) (place : Nat) (input : Source) :
    Watches ((stage.watched place).execute input) (stage.execute input)
      fun executions outcome => executions = [⟨place, input, outcome⟩] :=
  fun _ _ => ⟨_, rfl, rfl⟩

/-- The check at the end of a run executes nothing. -/
theorem watches_conclude (info : StageInfo) (output : Source) :
    Watches (conclude info output : Action (Host (ε × List Execution)) Source)
      (conclude info output)
      fun executions outcome => executions = [] ∧ outcome = checkOutcome info (.done output) := by
  rw [conclude, conclude, checkOutcome]
  split
  · exact .of_unvisited (P := fun outcome => outcome = .done output) (fun _ _ => rfl) fun _ => rfl
  · exact .of_unvisited (P := fun outcome => outcome =
      .failed (.resultKind info.name info.output output.kind)) (fun _ _ => rfl) fun _ => rfl

/-- The part of a run after the conversion is one execution. -/
theorem watches_execute_conclude (stage : Stage ε) (place : Nat) (input : Source) :
    Watches ((stage.watched place).execute input >>= conclude stage.info)
      (stage.execute input >>= conclude stage.info) fun executions outcome =>
      ∃ x : Execution, executions = [x] ∧ x.place = place ∧ x.input = input ∧
        outcome = checkOutcome stage.info x.ended := by
  refine (watches_execute stage place input).bind
    (fun _ output _ => watches_conclude stage.info output) ?_ ?_ ?_
  · rintro executions output later outcome rfl ⟨rfl, rfl⟩
    exact ⟨_, rfl, rfl, rfl, rfl⟩
  · rintro executions f rfl
    exact ⟨_, rfl, rfl, rfl, rfl⟩
  · rintro executions rfl
    exact ⟨_, rfl, rfl, rfl, rfl⟩

theorem run_eq (stage : Stage ε) (value : Source) :
    stage.run value = Host.record (startEvent stage.info) >>= fun _ =>
      Conversion.convertAction value stage.info.input >>= fun input =>
        stage.execute input >>= conclude stage.info := rfl

/-- **A run of a stage that is watched.** -/
theorem watches_run (stage : Stage ε) (place : Nat) (value : Source) :
    Watches ((stage.watched place).run value) (stage.run value) (stage.Runs place value) := by
  rw [run_eq, run_eq]
  refine (watches_record _).bind (Q := fun _ => stage.Runs place value) (fun _ _ _ => ?_) ?_
    (fun _ _ h => nomatch h.2) (fun _ h => nomatch h.2)
  · refine (watches_convertAction value stage.info.input).bind
      (fun _ input _ => watches_execute_conclude stage place input) ?_ ?_ ?_
    · rintro executions input later outcome ⟨rfl, ⟨cause, h, -⟩ | ⟨made, h, hbecomes⟩⟩
        ⟨x, rfl, hplace, rfl, hended⟩
      · cases h
      · obtain rfl := Outcome.done.inj h
        exact .inr ⟨x, rfl, hplace, hbecomes, hended⟩
    · rintro executions f ⟨rfl, ⟨cause, h, hrefuses⟩ | ⟨made, h, -⟩⟩
      · exact .inl ⟨rfl, cause, h, hrefuses⟩
      · cases h
    · rintro executions ⟨-, ⟨cause, h, -⟩ | ⟨made, h, -⟩⟩ <;> cases h
  · rintro executions a later outcome ⟨rfl, -⟩ hruns
    exact hruns

end Stage

namespace Registry

/-- **A registry whose stages are watched.** -/
def watched (r : Registry ε) : Registry (ε × List Execution) :=
  ⟨r.stages.mapIdx fun place stage => stage.watched place⟩

variable {r : Registry ε} {source target : String} {places : Route} {p : List (Stage ε)}

/-- **An artifact passes along a path**, with the outcome of the whole. The places are those of the
stages. -/
inductive Passage : Route → List (Stage ε) → Source → List Execution → Outcome Source → Prop
  /-- No stage is left. -/
  | arrived {value : Source} : Passage [] [] value [] (.done value)
  /-- The artifact does not convert, and nothing is executed any more. -/
  | unconverted {i : Nat} {places : Route} {stage : Stage ε} {p : List (Stage ε)} {value : Source}
      {cause : ConversionFailure} (hrefuses : Refuses value stage.info.input cause) :
      Passage (i :: places) (stage :: p) value [] (.failed (.conversion cause))
  /-- The next execution ends the run. -/
  | ended {places : Route} {stage : Stage ε} {p : List (Stage ε)} {value : Source} {x : Execution}
      (hbecomes : Becomes value stage.info.input x.input)
      (hnot : ∀ made, Stage.checkOutcome stage.info x.ended ≠ .done made) :
      Passage (x.place :: places) (stage :: p) value [x] (Stage.checkOutcome stage.info x.ended)
  /-- The next execution makes an artifact, which is passed on. -/
  | passed {places : Route} {stage : Stage ε} {p : List (Stage ε)} {value made : Source}
      {x : Execution} {executions : List Execution} {outcome : Outcome Source}
      (hbecomes : Becomes value stage.info.input x.input)
      (hmade : Stage.checkOutcome stage.info x.ended = .done made)
      (hrest : Passage places p made executions outcome) :
      Passage (x.place :: places) (stage :: p) value (x :: executions) outcome

namespace Passage

variable {value : Source} {executions : List Execution} {outcome : Outcome Source}

/-- The stages are executed in the order of the path. -/
theorem in_order (h : Passage places p value executions outcome) :
    executions.map Execution.place <+: places := by
  induction h with
  | arrived => exact List.nil_prefix
  | unconverted _ => exact List.nil_prefix
  | ended _ _ => exact List.cons_prefix_cons.mpr ⟨rfl, List.nil_prefix⟩
  | passed _ _ _ ih => exact List.cons_prefix_cons.mpr ⟨rfl, ih⟩

/-- A run that is done has executed all of them. -/
theorem complete {output : Source} (h : Passage places p value executions (.done output)) :
    executions.map Execution.place = places := by
  generalize houtcome : (Outcome.done output : Outcome Source) = outcome at h
  induction h with
  | arrived => rfl
  | unconverted _ => cases houtcome
  | ended _ hnot => exact absurd houtcome.symm (hnot output)
  | passed _ _ _ ih => exact congrArg (_ :: ·) (ih houtcome)

/-- Each stage is given an artifact that may stand where its input is declared. -/
theorem fits (h : Passage places p value executions outcome) {j : Nat} {x : Execution}
    {stage : Stage ε} (hx : executions[j]? = some x) (hstage : p[j]? = some stage) :
    stage.info.input.accepts x.input.kind = true := by
  induction h generalizing j with
  | arrived => cases hx
  | unconverted _ => cases hx
  | ended hbecomes _ =>
    cases j with
    | zero =>
      obtain rfl := Option.some.inj hx
      obtain rfl := Option.some.inj hstage
      exact hbecomes.accepts
    | succ j => cases hx
  | passed hbecomes _ _ ih =>
    cases j with
    | zero =>
      obtain rfl := Option.some.inj hx
      obtain rfl := Option.some.inj hstage
      exact hbecomes.accepts
    | succ j => exact ih hx hstage

/-- Nothing is executed after an execution that made nothing. -/
theorem stops (h : Passage places p value executions outcome) :
    executions.Pairwise fun x _ => ∃ output, x.ended = .done output := by
  induction h with
  | arrived => exact .nil
  | unconverted _ => exact .nil
  | ended _ _ => exact List.pairwise_singleton _ _
  | passed _ hmade _ ih =>
    exact List.pairwise_cons.mpr
      ⟨fun _ _ => ⟨_, (Stage.checkOutcome_eq_done_iff.mp hmade).1⟩, ih⟩

/-- The failure of an execution is the outcome, unchanged. -/
theorem unchanged (h : Passage places p value executions outcome) :
    ∀ x ∈ executions, ∀ f, x.ended = .failed f → outcome = .failed f := by
  induction h with
  | arrived => exact fun _ hx => nomatch hx
  | unconverted _ => exact fun _ hx => nomatch hx
  | ended _ _ =>
    intro x hx f hf
    rw [← List.mem_singleton.mp hx, hf]
    rfl
  | passed _ hmade _ ih =>
    intro x hx f hf
    rcases List.mem_cons.mp hx with rfl | hx
    · rw [hf] at hmade
      cases hmade
    · exact ih x hx f hf

end Passage

/-! ### Paths whose kinds fit together -/

/-- **The kinds along a path fit together**, beginning with an artifact of a given kind: every stage
but the last declares what it makes, and can be followed by the next. -/
def WellTyped (k : Kind) (p : List (Stage ε)) : Prop :=
  (∀ stage ∈ p.head?, Conversion.Compatible k stage.info.input) ∧
    p.IsChain fun stage next => stage.info.output ≠ .untyped ∧
      Conversion.Compatible stage.info.output next.info.input

/-- **What a stage makes fits the rest of the path.** Its kind has been checked. -/
theorem WellTyped.tail {k : Kind} {stage : Stage ε} (h : WellTyped k (stage :: p))
    {made : Source} (haccepts : stage.info.output.accepts made.kind = true) :
    WellTyped made.kind p := by
  obtain ⟨hnext, hrest⟩ := List.isChain_cons.mp h.2
  refine ⟨fun next hmem => ?_, hrest⟩
  obtain ⟨hdeclared, hcompatible⟩ := hnext next hmem
  -- the stage declares a kind, so what it made is of that kind
  rcases Kind.accepts_iff.mp haccepts with huntyped | hkind
  · exact absurd huntyped hdeclared
  · rwa [← hkind]

/-- A run from one state to another is a note and a run of the path that is found. -/
theorem run_runPath (hpath : r.path source target = .ok p) (input : Source) (host : Host ε) :
    (r.runPath source target input).run host =
      (runStages p input).run (host.note (pathEvent source target p)) := by
  rw [runPath, hpath]
  rfl

end Registry

end ArtifactPipeline
