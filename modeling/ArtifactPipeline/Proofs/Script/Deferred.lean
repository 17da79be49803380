import ArtifactPipeline.Proofs.Script.Round
import Mathlib.Data.List.Nodup
import Mathlib.Data.Nat.Find

/-!
# Deferred releases are attempted exactly once

A script performs its operations one after another, whichever of them fail, and is finished or
dropped at the end. This file counts its operations and says for each moment which registrations are
*due* (`dueAt`): those after which no operation has failed. They are what the script has registered,
in every state that it reaches, and they are what is attempted, the last first, by the next
operation that fails or else at the end.

* `Exact` is the invariant, `exists_attempts` its step, and `exact_stateAt` has it in every state;
* `Account` is what happened in one run: the attempts of each operation and those of the end;
* `releases_attempted_once` says that every run has such an account, and that each registration
  occurs in it once, at its moment and not before (`ReleasedOnce`).

Registrations are told apart by their position, since a step may be registered twice with the same
references.
-/

namespace ArtifactPipeline.Script

variable {ε : Type}

/-! ### A whole script -/

/-- One operation after another, whether it is done or fails. -/
def performAll : List (Operation ε) → Action (Script ε × Host ε) Unit
  | [] => pure ()
  | op :: ops => fun state =>
    match op.action.run state with
    | (.crashed, after) => (.crashed, after)
    | (_, after) => (performAll ops).run after

/-- Some operations and the end of the script. -/
def whole (ops : List (Operation ε)) (closing : Closing) : Action (Script ε × Host ε) Source := do
  performAll ops
  closing.action

section Moments

variable (s₀ : Script ε × Host ε) (ops : List (Operation ε))

/-- The state after the first operations. -/
def stateAt (n : ℕ) : Script ε × Host ε :=
  (ops.take n).foldl (fun state op => (op.action.run state).2) s₀

/-- Whether the operation at a position fails. There is none after the last. -/
def failsAt (n : ℕ) : Bool :=
  match ops[n]? with
  | some op => (op.action.run (stateAt s₀ ops n)).1.isFailed
  | none => false

/-- The release that is registered at a position. -/
def registration? (k : ℕ) : Option (Pending ε) := ops[k]?.bind Operation.registered?

/-- The registrations that are due at a moment: nothing has failed since. -/
def dueAt (n : ℕ) : List ℕ :=
  (List.range n).filter fun k =>
    (registration? ops k).isSome ∧ ∀ j < n, k < j → failsAt s₀ ops j = false

/-- The registrations that are attempted at a moment: when the operation fails, or at the end. -/
def attemptedAt (n : ℕ) : List ℕ :=
  if failsAt s₀ ops n = true ∨ n = ops.length then (dueAt s₀ ops n).reverse else []

/-- The moment for a registration: the next failure, or else the end. -/
def Triggers (k n : ℕ) : Prop :=
  k < n ∧ n ≤ ops.length ∧ (failsAt s₀ ops n = true ∨ n = ops.length) ∧
    ∀ j, k < j → j < n → failsAt s₀ ops j = false

end Moments

variable {s₀ : Script ε × Host ε} {ops : List (Operation ε)} {n k : ℕ}

@[simp] theorem stateAt_zero : stateAt s₀ ops 0 = s₀ := rfl

theorem stateAt_succ (hn : n < ops.length) :
    stateAt s₀ ops (n + 1) = (ops[n].action.run (stateAt s₀ ops n)).2 := by
  rw [stateAt, List.take_succ_eq_append_getElem hn, List.foldl_append]
  rfl

theorem stateAt_cons_succ (op : Operation ε) :
    stateAt s₀ (op :: ops) (n + 1) = stateAt (op.action.run s₀).2 ops n := rfl

theorem failsAt_eq (hn : n < ops.length) :
    failsAt s₀ ops n = (ops[n].action.run (stateAt s₀ ops n)).1.isFailed := by
  rw [failsAt, List.getElem?_eq_getElem hn]

theorem lt_length_of_failsAt (hfails : failsAt s₀ ops n = true) : n < ops.length := by
  by_contra hn
  rw [failsAt, List.getElem?_eq_none (not_lt.mp hn)] at hfails
  cases hfails

theorem registration?_eq (hn : n < ops.length) : registration? ops n = ops[n].registered? := by
  rw [registration?, List.getElem?_eq_getElem hn]
  rfl

theorem lt_length_of_registration? (hk : (registration? ops k).isSome) : k < ops.length := by
  by_contra hn
  rw [registration?, List.getElem?_eq_none (not_lt.mp hn)] at hk
  cases hk

/-- A registered release has the step of the operation that registered it. -/
theorem Operation.step_of_registered? {op : Operation ε} {p : Pending ε}
    (h : op.registered? = some p) : p.step = op.step := by
  cases op with
  | eval | perform => cases h
  | defer step refs =>
    rw [registered?] at h
    split at h
    · cases h
      rfl
    · cases h

/-! ### What is due -/

theorem mem_dueAt_iff : k ∈ dueAt s₀ ops n ↔
    k < n ∧ (registration? ops k).isSome ∧ ∀ j, k < j → j < n → failsAt s₀ ops j = false := by
  rw [dueAt, List.mem_filter, List.mem_range, decide_eq_true_eq]
  exact ⟨fun ⟨hk, hsome, hquiet⟩ => ⟨hk, hsome, fun j hj hjn => hquiet j hjn hj⟩,
    fun ⟨hk, hsome, hquiet⟩ => ⟨hk, hsome, fun j hjn hj => hquiet j hj hjn⟩⟩

/-- What is due stands in the order of registration. -/
theorem pairwise_dueAt : (dueAt s₀ ops n).Pairwise (· < ·) :=
  List.pairwise_lt_range.filter _

theorem nodup_dueAt : (dueAt s₀ ops n).Nodup :=
  pairwise_dueAt.imp Nat.ne_of_lt

/-- After a failure nothing is due. -/
theorem dueAt_succ_of_fails (hfails : failsAt s₀ ops n = true)
    (hnone : registration? ops n = none) : dueAt s₀ ops (n + 1) = [] := by
  refine List.eq_nil_iff_forall_not_mem.mpr fun k hk => ?_
  obtain ⟨hkn, hsome, hquiet⟩ := mem_dueAt_iff.mp hk
  rcases Nat.lt_succ_iff_lt_or_eq.mp hkn with hlt | rfl
  · -- an earlier registration is past due, for the failure came after it
    have := hquiet n hlt n.lt_succ_self
    rw [hfails] at this
    cases this
  · -- and the failing operation has registered nothing itself
    rw [hnone] at hsome
    cases hsome

/-- After an operation that is done, its registration is due as well. -/
theorem map_dueAt_succ_of_done (hdone : failsAt s₀ ops n = false) :
    (dueAt s₀ ops (n + 1)).map (registration? ops) =
      (dueAt s₀ ops n).map (registration? ops) ++ (registration? ops n).toList.map some := by
  -- nothing has failed between the two moments, so what was due is still due
  have hearlier : (List.range n).filter (fun k =>
      decide ((registration? ops k).isSome ∧ ∀ j < n + 1, k < j → failsAt s₀ ops j = false)) =
        dueAt s₀ ops n := by
    refine List.filter_congr fun k hk => decide_eq_decide.mpr (and_congr_right fun _ => ?_)
    constructor
    · exact fun hquiet j hj hkj => hquiet j (Nat.lt_succ_of_lt hj) hkj
    · intro hquiet j hj hkj
      rcases Nat.lt_succ_iff_lt_or_eq.mp hj with hlt | rfl
      · exact hquiet j hlt hkj
      · exact hdone
  -- and nothing can have failed since the last operation
  have hlast : decide ((registration? ops n).isSome ∧
      ∀ j < n + 1, n < j → failsAt s₀ ops j = false) = (registration? ops n).isSome := by
    have hnone : ∀ j < n + 1, n < j → failsAt s₀ ops j = false := fun j hj hnj => by omega
    exact Bool.eq_iff_iff.mpr (decide_eq_true_iff.trans (and_iff_left hnone))
  rw [dueAt, List.range_succ, List.filter_append, hearlier, List.map_append, List.filter_singleton,
    hlast]
  cases hn : registration? ops n with
  | none => rfl
  | some p => simp [hn]

/-! ### The moment of each registration -/

/-- Every registration has a moment: the first failure after it, or the end if there is none. -/
theorem exists_triggers (hk : k < ops.length) : ∃ n, Triggers s₀ ops k n := by
  have hend : ∃ n, k < n ∧ (failsAt s₀ ops n = true ∨ n = ops.length) :=
    ⟨ops.length, hk, .inr rfl⟩
  obtain ⟨hlt, hmoment⟩ := Nat.find_spec hend
  refine ⟨Nat.find hend, hlt, Nat.find_le ⟨hk, .inr rfl⟩, hmoment, fun j hkj hj => ?_⟩
  -- the moment is the least, so what lies between is no moment
  have hmin := Nat.find_min hend hj
  rw [← Bool.not_eq_true]
  exact fun hfails => hmin ⟨hkj, .inl hfails⟩

/-- It is attempted at this moment, once. -/
theorem count_attemptedAt (hsome : (registration? ops k).isSome) (hn : Triggers s₀ ops k n) :
    (attemptedAt s₀ ops n).count k = 1 := by
  obtain ⟨hlt, -, hmoment, hquiet⟩ := hn
  rw [attemptedAt, if_pos hmoment, List.count_reverse]
  exact List.count_eq_one_of_mem nodup_dueAt (mem_dueAt_iff.mpr ⟨hlt, hsome, hquiet⟩)

/-- Wherever it is attempted, that is its moment. -/
theorem triggers_of_mem_attemptedAt (hk : k ∈ attemptedAt s₀ ops n) : Triggers s₀ ops k n := by
  rw [attemptedAt] at hk
  split at hk
  · next hmoment =>
    obtain ⟨hlt, -, hquiet⟩ := mem_dueAt_iff.mp (List.mem_reverse.mp hk)
    refine ⟨hlt, ?_, hmoment, hquiet⟩
    rcases hmoment with hfails | rfl
    · exact Nat.le_of_lt (lt_length_of_failsAt hfails)
    · exact le_rfl
  · cases hk

/-- There is only one such moment. -/
theorem Triggers.unique {m : ℕ} (hn : Triggers s₀ ops k n) (hm : Triggers s₀ ops k m) : m = n := by
  obtain ⟨hkn, hnl, hnm, hnq⟩ := hn
  obtain ⟨hkm, hml, hmm, hmq⟩ := hm
  rcases lt_trichotomy m n with hlt | rfl | hlt
  · -- before the end only a failure is a moment, but none comes before the first
    rcases hmm with hfails | rfl
    · exact absurd (hnq m hkm hlt) (by rw [hfails]; nofun)
    · omega
  · rfl
  · rcases hnm with hfails | rfl
    · exact absurd (hmq n hkn hlt) (by rw [hfails]; nofun)
    · omega

/-! ### One operation of a script -/

/-- **The invariant.** What is registered is what is due. -/
def Exact (s₀ : Script ε × Host ε) (ops : List (Operation ε)) (n : ℕ) : Prop :=
  (stateAt s₀ ops n).1.pending.map some = (dueAt s₀ ops n).map (registration? ops)

/-- What is registered is safe when all operations are. -/
theorem Exact.safe (hexact : Exact s₀ ops n) (hsafe : ∀ op ∈ ops, op.step.Safe) :
    ∀ p ∈ (stateAt s₀ ops n).1.pending, p.step.Safe := by
  intro p hp
  -- what is pending is due, what is due was registered, and by an operation of the script
  have hmem : some p ∈ (dueAt s₀ ops n).map (registration? ops) := by
    rw [← hexact]
    exact List.mem_map_of_mem hp
  obtain ⟨k, -, hk⟩ := List.mem_map.mp hmem
  obtain ⟨op, hop, hregistered⟩ := Option.bind_eq_some_iff.mp hk
  rw [Operation.step_of_registered? hregistered]
  exact hsafe op (List.mem_of_getElem? hop)

/-- What one operation of a script does, with its attempts. -/
structure AccountAt (s₀ : Script ε × Host ε) (ops : List (Operation ε)) (n : ℕ)
    (hn : n < ops.length) (attempts : List (Attempt ε)) : Prop where
  performs : Performs ops[n] (stateAt s₀ ops n) attempts (stateAt s₀ ops (n + 1))
  fails : failsAt s₀ ops n = true ↔ ops[n].Fails (stateAt s₀ ops n)
  attempted : attempts.map (fun a => some a.release) =
    (attemptedAt s₀ ops n).map (registration? ops)
  survives : (ops[n].action.run (stateAt s₀ ops n)).1 ≠ .crashed
  next : Exact s₀ ops (n + 1)

/-- **One operation keeps the invariant**, and it attempts what is due if it fails. -/
theorem exists_attempts (hsafe : ∀ op ∈ ops, op.step.Safe) (hn : n < ops.length)
    (hexact : Exact s₀ ops n) : ∃ attempts, AccountAt s₀ ops n hn attempts := by
  obtain ⟨attempts, after, hperforms,
      ⟨hrun, hfails, rfl, hafter⟩ | ⟨⟨f, hrun⟩, hfails, hnone, hreleases, hafter⟩⟩ :=
    (Operation.exists_performs (hsafe ops[n] (List.getElem_mem hn)) (hexact.safe hsafe))
  all_goals
    have hnext : stateAt s₀ ops (n + 1) = after := by rw [stateAt_succ hn, hrun]
  · -- nothing is released, and the invariant grows by what was registered
    have hdone : failsAt s₀ ops n = false := by
      rw [failsAt_eq hn, hrun]
      rfl
    refine ⟨[], hnext ▸ hperforms, ?_, ?_, ?_, ?_⟩
    · rw [hdone]
      exact iff_of_false Bool.false_ne_true hfails
    · rw [attemptedAt, if_neg (by simp [hdone, Nat.ne_of_lt hn])]
      rfl
    · rw [hrun]
      nofun
    · rw [Exact, hnext, hafter, map_dueAt_succ_of_done hdone, List.map_append, hexact,
        registration?_eq hn]
  · -- all that was due is released, and the invariant starts afresh
    have hfailed : failsAt s₀ ops n = true := by
      rw [failsAt_eq hn, hrun]
      rfl
    rw [← registration?_eq hn] at hnone
    refine ⟨attempts, hnext ▸ hperforms, iff_of_true hfailed hfails, ?_, ?_, ?_⟩
    · rw [attemptedAt, if_pos (.inl hfailed), List.map_reverse, ← hexact, ← List.map_reverse,
        ← hreleases, List.map_map]
      rfl
    · rw [hrun]
      nofun
    · rw [Exact, hnext, hafter, dueAt_succ_of_fails hfailed hnone]
      rfl

/-! ### All operations of a script -/

/-- **In every state that is reached, what is registered is what is due.** -/
theorem exact_stateAt (hsafe : ∀ op ∈ ops, op.step.Safe) (hstart : s₀.1.pending = [])
    (hn : n ≤ ops.length) : Exact s₀ ops n := by
  induction n with
  | zero =>
    -- nothing is registered yet, and nothing is due
    rw [Exact, stateAt_zero, hstart]
    rfl
  | succ n ih =>
    obtain ⟨_, haccount⟩ := exists_attempts hsafe hn (ih (Nat.le_of_succ_le hn))
    exact haccount.next

/-- Operations none of which crashes lead to the state counted. -/
theorem run_performAll
    (hsurvives : ∀ n (hn : n < ops.length),
      (ops[n].action.run (stateAt s₀ ops n)).1 ≠ .crashed) :
    (performAll ops).run s₀ = (.done (), stateAt s₀ ops ops.length) := by
  induction ops generalizing s₀ with
  | nil => rfl
  | cons op ops ih =>
    have hfirst : (op.action.run s₀).1 ≠ .crashed := hsurvives 0 (Nat.succ_pos _)
    have hrest : (performAll ops).run (op.action.run s₀).2 = (.done (), _) :=
      ih fun n hn => hsurvives (n + 1) (Nat.succ_lt_succ hn)
    rw [List.length_cons, stateAt_cons_succ, ← hrest]
    change (match op.action.run s₀ with
      | (.crashed, after) => (Outcome.crashed, after)
      | (_, after) => (performAll ops).run after) = _
    generalize op.action.run s₀ = ended at hfirst
    -- done or failed, the next operation follows
    rcases ended with ⟨_ | _ | _, after⟩
    · rfl
    · rfl
    · exact absurd rfl hfirst

/-- **What happened in one run of a script**: the attempts of every operation, and at the position
after the last one those of the end. -/
structure Account (stage : String) (input : Source) (host : Host ε) (ops : List (Operation ε))
    (closing : Closing) (rounds : ℕ → List (Attempt ε)) (final : Script ε × Host ε) : Prop where
  operations : ∀ n (hn : n < ops.length),
    Performs ops[n] (stateAt (start stage input, host) ops n) (rounds n)
      (stateAt (start stage input, host) ops (n + 1))
  close : Closes closing (stateAt (start stage input, host) ops ops.length) (rounds ops.length)
    final
  ends : ((runWith stage input (whole ops closing)).run host).2 = final.2

/-- **Every registration is attempted exactly once**, at its moment.

* `pending`: in every state, what is registered is what is due;
* `fails`: an operation fails exactly when it has one of the reasons of `Operation.Fails`;
* `attempted`: at every moment, what is attempted is what the moment is for, in this order
  (`order`);
* `once`: every registration has one moment, is attempted once at it and at no other;
* `bodies`: at an attempt the body of the release runs exactly when the references fit. -/
structure ReleasedOnce (s₀ : Script ε × Host ε) (ops : List (Operation ε))
    (rounds : ℕ → List (Attempt ε)) : Prop where
  pending : ∀ n ≤ ops.length, (stateAt s₀ ops n).1.pending.map some =
    (dueAt s₀ ops n).map (registration? ops)
  fails : ∀ n (hn : n < ops.length), failsAt s₀ ops n = true ↔ ops[n].Fails (stateAt s₀ ops n)
  attempted : ∀ n ≤ ops.length, (rounds n).map (fun a => some a.release) =
    (attemptedAt s₀ ops n).map (registration? ops)
  order : ∀ n, (attemptedAt s₀ ops n).Pairwise (· > ·)
  once : ∀ k, (registration? ops k).isSome → ∃ n, Triggers s₀ ops k n ∧
    (attemptedAt s₀ ops n).count k = 1 ∧ ∀ m, m ≠ n → k ∉ attemptedAt s₀ ops m
  bodies : ∀ n, ∀ a ∈ rounds n, BodyRuns a.release.step a.release.arguments a.state ↔
    Fits a.release.step a.release.arguments a.state.1

/-- The last registered comes first. -/
theorem pairwise_attemptedAt : (attemptedAt s₀ ops n).Pairwise (· > ·) := by
  rw [attemptedAt]
  split
  · exact List.pairwise_reverse.mpr pairwise_dueAt
  · exact .nil

/-- A step that releases one value. -/
def letGo : Step Unit where
  name := "let_go"
  parameters := [⟨"value", .untyped⟩]
  release := true
  body := pure none

/-- A step that fails. -/
def refuse : Step Unit where
  name := "refuse"
  body := .fail (.command "refuse" "exit 1")

/-- Two registrations, a failure, and one more registration. -/
def sampleOperations : List (Operation Unit) :=
  [.defer letGo [0], .defer letGo [0], .perform refuse [], .defer letGo [0]]

/-- What the sample starts with. -/
def sampleStart : Script Unit × Host Unit :=
  (start "sample" (.string "input"), ⟨.empty, [], [], [], false, ()⟩)

/-- **Deferred releases are attempted exactly once.** A script performs some operations, whichever
of them fail, and is finished or dropped. Every release that it registered is attempted once: by the
first operation after it that fails, or else at the end. Those that are attempted together are
attempted from the last registered to the first, and a failing one does not stop the others. -/
theorem releases_attempted_once (stage : String) (input : Source) (host : Host ε)
    (ops : List (Operation ε)) (closing : Closing) (hsafe : ∀ op ∈ ops, op.step.Safe) :
    ∃ rounds final, Account stage input host ops closing rounds final ∧
      ReleasedOnce (start stage input, host) ops rounds := by
  have hexact : ∀ n ≤ ops.length, Exact (start stage input, host) ops n :=
    fun n hn => exact_stateAt hsafe rfl hn
  -- the invariant holds throughout, so every operation has its account, and so has the end
  choose attempts haccount using fun n (hn : n < ops.length) =>
    exists_attempts hsafe hn (hexact n (Nat.le_of_lt hn))
  obtain ⟨last, final, outcome, hcloses, hreleases, hends⟩ :=
    closing.exists_closes ((hexact ops.length le_rfl).safe hsafe)
  refine ⟨fun n => if hn : n < ops.length then attempts n hn else last, final, ?_, ?_⟩
  · refine ⟨fun n hn => ?_, ?_, ?_⟩
    · rw [dif_pos hn]
      exact (haccount n hn).performs
    · rw [dif_neg (lt_irrefl _)]
      exact hcloses
    · rw [run_runWith, whole, Action.run_bind,
        run_performAll fun n hn => (haccount n hn).survives]
      exact congrArg Prod.snd hends
  · refine ⟨hexact, fun n hn => (haccount n hn).fails, fun n hn => ?_,
      fun n => pairwise_attemptedAt, fun k hsome => ?_, fun n a _ => bodyRuns_iff⟩
    · -- the attempts of the operations are known; those of the end are what is due then
      rcases Nat.lt_or_eq_of_le hn with hlt | rfl
      · rw [dif_pos hlt]
        exact (haccount n hlt).attempted
      · have hdue := hexact ops.length le_rfl
        rw [dif_neg (lt_irrefl _), attemptedAt, if_pos (.inr rfl), List.map_reverse, ← hdue,
          ← List.map_reverse, ← hreleases, List.map_map]
        rfl
    · obtain ⟨n, hn⟩ := exists_triggers (lt_length_of_registration? hsome)
      exact ⟨n, hn, count_attemptedAt hsome hn,
        fun m hm hk => hm (hn.unique (triggers_of_mem_attemptedAt hk))⟩

/-- In the sample, two releases are attempted at the failure and the third one at the end. -/
theorem releases_attempted_once_in_sample :
    (∃ rounds final, Account "sample" (.string "input") sampleStart.2 sampleOperations
        (.finish 0 .string) rounds final ∧ ReleasedOnce sampleStart sampleOperations rounds) ∧
      attemptedAt sampleStart sampleOperations 2 = [1, 0] ∧
      attemptedAt sampleStart sampleOperations 4 = [3] := by
  have hsafe : ∀ op ∈ sampleOperations, op.step.Safe := by
    intro op hop frame
    simp only [sampleOperations, List.mem_cons, List.not_mem_nil, or_false] at hop
    rcases hop with rfl | rfl | rfl | rfl <;> nofun
  exact ⟨releases_attempted_once _ _ _ _ _ hsafe, by decide, by decide⟩

end ArtifactPipeline.Script
