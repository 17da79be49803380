import ArtifactPipeline.Proofs.Remote.Plan
import ArtifactPipeline.Remote.FakeHost

/-!
# The workspaces of a session

A session can be used in any order: it may be asked for a workspace twice, go on after a failure, or
be released and used again. `turns` is such a life of a session, one `Turn` for every use, and this
file says which workspaces are removed in it.

* `turn_remembers` : what one use leaves in the session. It remembers one workspace, the last that
  was provisioned, and forgets it when it is released;
* `exists_release` : while a workspace is remembered, the next release begins with the last one;
* `next_release_removes_last` : in a life that ends with a release, every provisioned workspace is
  removed by the next release, unless another one was provisioned before that;
* `first_workspace_kept` : a workspace that another one has replaced is not removed.
-/

namespace ArtifactPipeline.Remote.Session

variable {ε α : Type}

/-! ### Uses and lives -/

/-- One use of a session. -/
inductive Use where
  | provision
  | runLogged (command : String) (limits : Limits)
  | capture (command : String) (limits : Limits)
  | put (localPath remotePath : String)
  | get (remotePath localPath : String)
  | release
deriving DecidableEq

/-- An action over the connection of a session. It returns no workspace, and the session stays as
it is. -/
def within (x : Session → Action (Host ε) α) : Action (Session × Host ε) (Option String) :=
  fun (s, host) =>
    let (outcome, host) := (x s).run host
    (outcome.map fun _ => none, s, host)

/-- What a use does. It may return a workspace. -/
def Use.action (b : Backend ε) : Use → Action (Session × Host ε) (Option String)
  | .provision => do return some (← Session.provision b)
  | .runLogged command limits => within fun s => Session.runLogged b s command limits
  | .capture command limits => within fun s => Session.capture b s command limits
  | .put localPath remotePath => within fun s => Session.put b s localPath remotePath
  | .get remotePath localPath => within fun s => Session.get b s remotePath localPath
  | .release => fun (s, host) =>
    let (result, state) := Session.release b s host
    (match result with
      | .ok () => .done none
      | .error cause => .failed (.transport cause), state)

/-- One use in the life of a session. -/
structure Turn (ε : Type) where
  use : Use
  before : Session × Host ε
  outcome : Outcome (Option String)
  after : Session × Host ε

/-- The turn of a use that begins in a given state. -/
def Use.turn (b : Backend ε) (use : Use) (before : Session × Host ε) : Turn ε :=
  let (outcome, after) := (use.action b).run before
  { use, before, outcome, after }

/-- **The life of a session**, which goes on after every failure. -/
def turns (b : Backend ε) : List Use → Session × Host ε → List (Turn ε)
  | [], _ => []
  | use :: uses, state => use.turn b state :: turns b uses (use.turn b state).after

namespace Turn

/-- The workspace that a turn has returned. -/
def workspace? (t : Turn ε) : Option String :=
  match t.outcome with
  | .done workspace? => workspace?
  | .failed _ | .crashed => none

/-- What was asked of the backend in a turn. -/
def requests (part : Part ε Record) (t : Turn ε) : List Request :=
  Remote.requests ((part.get t.after.2.outside).drop (part.get t.before.2.outside).length)

/-- The calls that were written down are those that the record has gained. -/
theorem requests_eq {part : Part ε Record} {t : Turn ε} {calls : Record}
    (hwrites : Writes part t.before.2 t.after.2 calls) :
    t.requests part = Remote.requests calls := by
  rw [Writes] at hwrites
  rw [requests, hwrites, List.drop_left]

end Turn

/-- The last workspace that was returned in some turns, after a given one. -/
def lastWorkspace (workspace : String) (ts : List (Turn ε)) : String :=
  (ts.filterMap Turn.workspace?).getLastD workspace

/-! ### What one use does -/

/-- What a session remembers after a use: the workspace that was returned, or else the one that it
had. A release makes it forget. -/
def Use.remembers (use : Use) (returned before : Option String) : Option String :=
  match use with
  | .release => none
  | _ => returned.or before

/-- Provisioning returns the workspace that the session then remembers, or changes nothing. -/
theorem turn_provision (b : Backend ε) (s : Session) (host : Host ε) :
    (Use.provision.turn b (s, host)).after.1 =
      { s with workspace := (Use.provision.turn b (s, host)).workspace?.or s.workspace } := by
  rw [Use.turn, Use.action, Action.run_bind, Action.run, provision]
  rcases (capture b s provisionCommand .unlimited).run host with ⟨written | f | _, after⟩
  · by_cases hnameless : Text.trimmed written = ""
    · simp [hnameless, Turn.workspace?]
    · simp [hnameless, Turn.workspace?]
  · rfl
  · rfl

/-- What is done over the connection of a session returns no workspace. -/
theorem turn_within (x : Session → Action (Host ε) α) {b : Backend ε} {use : Use}
    (haction : use.action b = within x) (state : Session × Host ε) :
    (use.turn b state).after.1 = state.1 ∧ (use.turn b state).workspace? = none := by
  rw [Use.turn, haction]
  obtain ⟨s, host⟩ := state
  refine ⟨rfl, ?_⟩
  rw [Turn.workspace?]
  simp only [Action.run, within]
  cases (x s host).1 <;> rfl

/-- **One use.** The session keeps its connection and remembers one workspace at most. -/
theorem turn_remembers (b : Backend ε) (use : Use) (state : Session × Host ε) :
    (use.turn b state).after.1 = ⟨state.1.connection,
      use.remembers (use.turn b state).workspace? state.1.workspace⟩ := by
  obtain ⟨s, host⟩ := state
  have hwithin {α : Type} (x : Session → Action (Host ε) α) (haction : use.action b = within x)
      (hremembers : ∀ before, use.remembers none before = before) :
      (use.turn b (s, host)).after.1 = ⟨s.connection,
        use.remembers (use.turn b (s, host)).workspace? s.workspace⟩ := by
    obtain ⟨hafter, hnone⟩ := turn_within x haction (s, host)
    rw [hafter, hnone, hremembers]
  cases use with
  | provision => exact turn_provision b s host
  | runLogged c limits => exact hwithin (fun s => runLogged b s c limits) rfl fun _ => rfl
  | capture c limits => exact hwithin (fun s => capture b s c limits) rfl fun _ => rfl
  | put l r => exact hwithin (fun s => put b s l r) rfl fun _ => rfl
  | get r l => exact hwithin (fun s => get b s r l) rfl fun _ => rfl
  | release => rfl

/-! ### What a life does -/

/-- **A turn and what comes after it.** The turn is that of a use, and what comes after it is the
life of the session that it has left, over the same connection. -/
theorem turns_eq_append {b : Backend ε} {uses : List Use} {state : Session × Host ε}
    {first rest : List (Turn ε)} {t : Turn ε} (hturns : turns b uses state = first ++ t :: rest) :
    ∃ earlier more, uses = earlier ++ t.use :: more ∧ rest = turns b more t.after ∧
      t = t.use.turn b t.before ∧ t.before.1.connection = state.1.connection := by
  -- the induction is on the turns before it
  induction first generalizing uses state with
  | nil =>
    cases uses with
    | nil => cases hturns
    | cons use uses =>
      obtain ⟨rfl, rfl⟩ := List.cons.inj hturns
      exact ⟨[], uses, rfl, rfl, rfl, rfl⟩
  | cons u first ih =>
    cases uses with
    | nil => cases hturns
    | cons use uses =>
      obtain ⟨earlier, more, rfl, hrest, ht, hconnection⟩ := ih (List.cons.inj hturns).2
      refine ⟨use :: earlier, more, rfl, hrest, ht, ?_⟩
      rw [hconnection, turn_remembers]

theorem lastWorkspace_cons (workspace : String) (t : Turn ε) (ts : List (Turn ε)) :
    lastWorkspace workspace (t :: ts) = lastWorkspace (t.workspace?.getD workspace) ts := by
  rw [lastWorkspace, lastWorkspace, List.filterMap_cons]
  cases t.workspace? with
  | none => rfl
  | some other => exact List.getLastD_cons

/-- No release returns a workspace, and every other turn that returns one leaves it remembered. -/
theorem remembers_of_workspace? {b : Backend ε} {use : Use} {state : Session × Host ε}
    {workspace : String} (hworkspace : (use.turn b state).workspace? = some workspace) :
    use ≠ .release ∧ (use.turn b state).after.1 = ⟨state.1.connection, some workspace⟩ := by
  have hrelease : use ≠ .release := by
    rintro rfl
    simp only [Use.turn, Turn.workspace?, Use.action, Action.run] at hworkspace
    cases hresult : (release b state.1 state.2).1 <;> simp [hresult] at hworkspace
  refine ⟨hrelease, ?_⟩
  rw [turn_remembers, hworkspace]
  cases use with
  | release => exact absurd rfl hrelease
  | _ => rfl

/-- **The next release.** While a workspace is remembered, the next release begins with the last
workspace that was provisioned. -/
theorem exists_release (b : Backend ε) (uses : List Use) {state : Session × Host ε}
    {workspace : String} (hworkspace : state.1.workspace = some workspace) :
    ∃ between r later, turns b (uses ++ [.release]) state = between ++ r :: later ∧
      (∀ t ∈ between, t.use ≠ .release) ∧ r = Use.release.turn b r.before ∧
      r.before.1 = ⟨state.1.connection, some (lastWorkspace workspace between)⟩ := by
  have hnow : state.1 = ⟨state.1.connection, some workspace⟩ := by rw [← hworkspace]
  induction uses generalizing state workspace with
  | nil => exact ⟨[], _, [], rfl, by simp, rfl, hnow⟩
  | cons use uses ih =>
    by_cases hrelease : use = .release
    · subst hrelease
      exact ⟨[], _, _, rfl, by simp, rfl, hnow⟩
    · have hremembers : (use.turn b state).after.1 = ⟨state.1.connection,
          some ((use.turn b state).workspace?.getD workspace)⟩ := by
        rw [turn_remembers, hworkspace]
        cases use with
        | release => exact absurd rfl hrelease
        | _ => cases (Use.turn b _ state).workspace? <;> rfl
      obtain ⟨between, r, later, hturns, hbetween, hr, hbefore⟩ :=
        ih (congrArg Session.workspace hremembers) (by rw [hremembers])
      refine ⟨use.turn b state :: between, r, later, ?_, ?_, hr, ?_⟩
      · rw [List.cons_append, turns, hturns, List.cons_append]
      · exact List.forall_mem_cons.mpr ⟨hrelease, hbetween⟩
      · rw [hbefore, hremembers, lastWorkspace_cons]

/-- **Every workspace is removed by the next release, unless another one has replaced it.** In a
life that ends with a release, let a turn have returned a workspace. The next release asks for the
removal of the last workspace that was returned up to then, and for the end of the connection. -/
theorem next_release_removes_last (b : Backend ε) (part : Part ε Record) (uses : List Use)
    (state : Session × Host ε) {first rest : List (Turn ε)} {t : Turn ε} {workspace : String}
    (hturns : turns (b.recorded part) (uses ++ [.release]) state = first ++ t :: rest)
    (hworkspace : t.workspace? = some workspace) :
    ∃ between r later, rest = between ++ r :: later ∧
      (∀ u ∈ between, u.use ≠ .release) ∧ r.use = .release ∧
      r.requests part =
        [.exec state.1.connection (removeCommand (lastWorkspace workspace between)) .unlimited,
          .close state.1.connection] := by
  obtain ⟨earlier, more, huses, rfl, ht, hconnection⟩ := turns_eq_append hturns
  rw [ht] at hworkspace
  obtain ⟨hother, hremembers⟩ := remembers_of_workspace? hworkspace
  rw [← ht] at hremembers
  -- the turn is not the release at the end, so that release is among what comes after it
  have hlast : (t.use :: more).getLast? = some .release := by
    simpa using (congrArg List.getLast? huses).symm
  obtain rfl | ⟨uses', last, rfl⟩ := List.eq_nil_or_concat more
  · exact absurd (Option.some.inj hlast) hother
  obtain rfl : last = .release := by
    rw [List.concat_eq_append, ← List.cons_append, List.getLast?_concat] at hlast
    exact Option.some.inj hlast
  rw [List.concat_eq_append] at hturns ⊢
  obtain ⟨between, r, later, hrest, hbetween, hr, hbefore⟩ :=
    exists_release (b.recorded part) uses' (congrArg Session.workspace hremembers)
  refine ⟨between, r, later, hrest, hbetween, by rw [hr]; rfl, ?_⟩
  obtain ⟨calls, hcalls, hwrites⟩ := release_writes b part r.before.1 r.before.2
  have hrecorded : Writes part r.before.2 r.after.2 calls := by
    rw [hr]
    exact hwrites
  rw [Turn.requests_eq hrecorded, Remote.requests, hcalls, hbefore, hremembers, hconnection]
  rfl

/-- The life of a session over a fake host on which nothing has happened yet. -/
def freshLife (uses : List Use) : List (Turn (FakeHost × Record)) :=
  turns ((FakeHost.backend .first).recorded .second) uses
    (⟨1, none⟩, { files := .empty, outside := ({}, []) })

/-- A workspace that nothing has replaced is removed. -/
theorem next_release_removes_last_of_one :
    ∃ t rest, freshLife [.provision, .release] = t :: rest ∧
      t.workspace? = some "/tmp/mock.1" ∧
      ∃ between r later, rest = between ++ r :: later ∧
        (∀ u ∈ between, u.use ≠ .release) ∧ r.use = .release ∧
        r.requests .second =
          [.exec 1 (removeCommand (lastWorkspace "/tmp/mock.1" between)) .unlimited, .close 1] :=
  have hturns : freshLife [.provision, .release] = [] ++ _ :: _ := rfl
  ⟨_, _, rfl, rfl,
    next_release_removes_last (FakeHost.backend .first) .second [.provision] _ hturns rfl⟩

/-- **A workspace that another one has replaced stays.** Of two workspaces that are provisioned one
after the other, the release asks for the removal of the second alone. -/
theorem first_workspace_kept :
    ∃ t rest, freshLife [.provision, .provision, .release] = t :: rest ∧
      t.workspace? = some "/tmp/mock.1" ∧
      ∀ u ∈ rest, ∀ request ∈ u.requests .second, request.removed? ≠ some "/tmp/mock.1" := by
  refine ⟨_, _, rfl, rfl, ?_⟩
  decide

end ArtifactPipeline.Remote.Session
