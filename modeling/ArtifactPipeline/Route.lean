/-!
# Routes

Stages lead from one state of an artifact to another, like edges of a graph between named nodes. A
*route* is a list of positions in the list of edges, such that each edge starts where the one before
it ends. `Route.find?` looks for a route breadth first: nearer states are reached before farther
ones, and of the edges that leave a state the earlier one is followed first.

The search keeps for every state the route on which it was reached first. It ends because every
state that is added uses up an edge whose end had not been reached (`Route.unseen_discover`).
-/

namespace ArtifactPipeline

/-- A way from one state to another. -/
structure Edge where
  source : String
  target : String
deriving Repr, DecidableEq

/-- Positions in a list of edges. -/
abbrev Route := List Nat

namespace Route

/-- A state that has been reached, and the route to it. -/
abbrev Reached := String × Route

/-- How many edges end in states that have not been reached. -/
def unseen (edges : List Edge) (seen : List String) : Nat :=
  edges.countP fun e => !seen.contains e.target

/-- The states that are reached for the first time from `state`, at the end of `route`. The edges
looked at start at position `i`. -/
def discover (state : String) (route : Route) : (i : Nat) → List Edge → List String → List Reached
  | _, [], _ => []
  | i, e :: es, seen =>
    if e.source = state ∧ e.target ∉ seen then
      (e.target, route ++ [i]) :: discover state route (i + 1) es (seen ++ [e.target])
    else discover state route (i + 1) es seen

theorem unseen_cons (e : Edge) (edges : List Edge) (seen : List String) :
    unseen (e :: edges) seen = unseen edges seen + if e.target ∈ seen then 0 else 1 := by
  by_cases h : e.target ∈ seen <;> simp [unseen, h]

/-- A state that is reached uses up an edge. -/
theorem unseen_append_lt {edges : List Edge} {seen : List String} {e : Edge} (mem : e ∈ edges)
    (new : e.target ∉ seen) : unseen edges (seen ++ [e.target]) < unseen edges seen := by
  have mono : ∀ es : List Edge, unseen es (seen ++ [e.target]) ≤ unseen es seen := by
    intro es
    apply List.countP_mono_left
    intro f _ h
    simp at h ⊢
    exact h.1
  induction edges with
  | nil => simp at mem
  | cons f es ih =>
    rw [unseen_cons, unseen_cons]
    rcases List.mem_cons.1 mem with rfl | mem
    · have := mono es
      rw [if_pos (by simp), if_neg new]
      omega
    · have := ih mem
      by_cases h : f.target ∈ seen
      · rw [if_pos (List.mem_append_left _ h), if_pos h]
        omega
      · rw [if_neg h]
        split <;> omega

/-- The states reached from one state use up as many edges. -/
theorem unseen_discover (edges : List Edge) (state : String) (route : Route) (i : Nat)
    (es : List Edge) (sub : ∀ e ∈ es, e ∈ edges) (seen : List String) :
    unseen edges (seen ++ (discover state route i es seen).map Prod.fst)
      + (discover state route i es seen).length ≤ unseen edges seen := by
  induction es generalizing i seen with
  | nil => simp [discover]
  | cons e es ih =>
    have sub' : ∀ e ∈ es, e ∈ edges := fun f mem => sub f (List.mem_cons_of_mem _ mem)
    rw [discover]
    split
    · next h =>
      have now := unseen_append_lt (sub e (by simp)) h.2
      have later := ih (i + 1) sub' (seen ++ [e.target])
      simp only [List.map_cons, List.length_cons]
      rw [List.append_assoc] at later
      simp only [List.singleton_append] at later
      omega
    · exact ih (i + 1) sub' seen

/-- The states that have been reached. -/
def states (reached : List Reached) : List String := reached.map Prod.fst

/-- Go on from the first state that is waiting until `goal` is that state or none is waiting. The
states that have been reached are returned with their routes. -/
def search (edges : List Edge) (goal : String) (reached waiting : List Reached) : List Reached :=
  match waiting with
  | [] => reached
  | (state, route) :: waiting =>
    if state = goal then reached
    else
      let new := discover state route 0 edges (states reached)
      search edges goal (reached ++ new) (waiting ++ new)
termination_by unseen edges (states reached) + waiting.length
decreasing_by
  have := unseen_discover edges state route 0 edges (fun _ mem => mem) (states reached)
  simp only [states, List.map_append, List.length_append, List.length_cons] at this ⊢
  omega

/-- A shortest route from one state to another, if there is any. -/
def find? (edges : List Edge) (source goal : String) : Option Route :=
  (search edges goal [(source, [])] [(source, [])]).lookup goal

/-- No step is needed to stay. -/
theorem find?_self (edges : List Edge) (state : String) : find? edges state state = some [] := by
  unfold find? search
  simp

end Route

end ArtifactPipeline
