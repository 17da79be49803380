import ArtifactPipeline.Route
import Mathlib.Data.List.Induction
import Mathlib.Data.List.Lex
import Mathlib.Data.Prod.Lex
import Mathlib.Tactic.Common

/-!
# The search finds the first of the shortest routes

`Route.target?` follows a route edge by edge, so that "`route` leads from `s` to `t`" reads `target?
edges s route = some t`. Routes are compared by `Route.rank`: a shorter route comes before a longer
one, and of two routes of one length the lexicographically smaller one comes first.

The search is breadth first, and its invariant is `Explored`. The list of reached states is cut in
two, the states that have been gone on from (`done`) and those that are still waiting, and

* every reached state carries a route that leads to it, and no state is reached twice;
* the routes stand in strictly increasing rank, so the waiting states are the farther ones;
* every route but the empty one goes on from the route of a `done` state by one edge;
* every edge that leaves a `done` state ends in a reached state, whose route has at most the rank of
  the route over that edge.

One round of the search preserves the invariant (`Explored.step`), hence the whole search does
(`explored_search`). The search stops when `goal` is the first waiting state, or when nothing waits.
In both cases the route kept for `goal` has the least rank of all that lead there
(`Explored.exists_rank_le`): a route that leaves the `done` states passes through a waiting state
(`Explored.cover`), and `goal` waits in front of it.

The main statements are `find?_eq_some_iff` and `find?_eq_none_iff`, which say what is found, and
`walksBack_of_find?`, which reads the route off the edges by which the states were first reached,
from `goal` back to the source.
-/

namespace ArtifactPipeline

namespace Route

variable {edges : List Edge} {source goal : String}

/-! ### Following a route -/

/-- Where a route from a state ends, if its edges can be followed one after another. -/
def target? (edges : List Edge) : String → Route → Option String
  | state, [] => some state
  | state, i :: route =>
    match edges[i]? with
    | some e => if e.source = state then target? edges e.target route else none
    | none => none

@[simp] theorem target?_nil (state : String) : target? edges state [] = some state := rfl

theorem target?_cons_eq_some_iff {state target : String} {i : Nat} {route : Route} :
    target? edges state (i :: route) = some target ↔
      ∃ e, edges[i]? = some e ∧ e.source = state ∧ target? edges e.target route = some target := by
  rw [target?]
  cases h : edges[i]? with
  | none => simp
  | some e => by_cases hs : e.source = state <;> simp [hs]

/-- A route may be followed in two parts. -/
theorem target?_append (state : String) (route rest : Route) :
    target? edges state (route ++ rest) =
      (target? edges state route).bind fun middle => target? edges middle rest := by
  induction route generalizing state with
  | nil => rfl
  | cons i route ih =>
    simp only [List.cons_append, target?]
    cases edges[i]? with
    | none => rfl
    | some e =>
      by_cases hs : e.source = state
      · simp only [hs, if_true, ih]
      · simp [hs]

/-- The last edge of a route starts where the rest of the route ends. -/
theorem target?_concat_eq_some_iff {state target : String} {i : Nat} {route : Route} :
    target? edges state (route ++ [i]) = some target ↔
      ∃ e, edges[i]? = some e ∧ target? edges state route = some e.source ∧ e.target = target := by
  rw [target?_append, Option.bind_eq_some_iff]
  constructor
  · rintro ⟨middle, hroute, hlast⟩
    obtain ⟨e, he, rfl, htarget⟩ := target?_cons_eq_some_iff.mp hlast
    exact ⟨e, he, hroute, Option.some.inj htarget⟩
  · rintro ⟨e, he, hroute, rfl⟩
    exact ⟨e.source, hroute, target?_cons_eq_some_iff.mpr ⟨e, he, rfl, rfl⟩⟩

/-! ### The order of routes -/

/-- **The rank of a route**: its length first, then the positions of its edges from the first on. -/
def rank (route : Route) : ℕ ×ₗ List ℕ := toLex (route.length, route)

theorem rank_lt_iff {r q : Route} :
    rank r < rank q ↔ r.length < q.length ∨ r.length = q.length ∧ r < q :=
  Prod.Lex.toLex_lt_toLex

theorem rank_le_iff {r q : Route} :
    rank r ≤ rank q ↔ r.length < q.length ∨ r.length = q.length ∧ r ≤ q :=
  Prod.Lex.toLex_le_toLex

theorem rank_injective : Function.Injective rank :=
  fun _ _ h => congrArg Prod.snd (toLex.injective h)

/-- A route of least rank is a shortest one. -/
theorem length_le_of_rank_le {r q : Route} (h : rank r ≤ rank q) : r.length ≤ q.length := by
  rcases rank_le_iff.mp h with hlt | ⟨heq, -⟩
  · exact hlt.le
  · exact heq.le

/-- Lists of one length are compared by their parts before the first difference. -/
theorem append_lt_append {r q : Route} (hlen : r.length = q.length) (h : r < q) (s t : Route) :
    r ++ s < q ++ t := by
  induction r generalizing q with
  | nil =>
    obtain rfl : q = [] := List.eq_nil_of_length_eq_zero hlen.symm
    exact absurd h (lt_irrefl _)
  | cons i r ih =>
    cases q with
    | nil => simp at hlen
    | cons j q =>
      rw [List.cons_append, List.cons_append]
      rcases List.cons_lt_cons_iff.mp h with hij | ⟨rfl, hrq⟩
      · exact List.cons_lt_cons_iff.mpr (Or.inl hij)
      · exact List.cons_lt_cons_iff.mpr (Or.inr ⟨rfl, ih (by simpa using hlen) hrq⟩)

/-- Going on by one edge, whichever it is, keeps the strict order of two routes. -/
theorem rank_concat_lt_concat {r q : Route} (h : rank r < rank q) (i j : Nat) :
    rank (r ++ [i]) < rank (q ++ [j]) := by
  rw [rank_lt_iff, List.length_append, List.length_append]
  -- shorter stays shorter, and of one length the first difference stays where it was
  rcases rank_lt_iff.mp h with hlt | ⟨heq, hrq⟩
  · exact Or.inl (Nat.add_lt_add_right hlt 1)
  · exact Or.inr ⟨by rw [heq]; rfl, append_lt_append heq hrq _ _⟩

theorem rank_concat_le_concat {r q : Route} (h : rank r ≤ rank q) (i : Nat) :
    rank (r ++ [i]) ≤ rank (q ++ [i]) := by
  rcases h.lt_or_eq with hlt | heq
  · exact (rank_concat_lt_concat hlt i i).le
  · rw [rank_injective heq]

/-- Of two edges from one place the earlier one makes the route of smaller rank. -/
theorem rank_concat_lt_of_lt (r : Route) {i j : Nat} (h : i < j) :
    rank (r ++ [i]) < rank (r ++ [j]) := by
  rw [rank_lt_iff]
  refine Or.inr ⟨by simp, List.append_left_lt ?_⟩
  exact List.cons_lt_cons_iff.mpr (Or.inl h)

/-- No part of a route from its start on has a greater rank. -/
theorem rank_le_append (r s : Route) : rank r ≤ rank (r ++ s) := by
  cases s with
  | nil => rw [List.append_nil]
  | cons i s =>
    rw [rank_le_iff, List.length_append, List.length_cons]
    exact Or.inl (by omega)

/-! ### What one round discovers -/

/-- A discovered state is the new end of an edge that leaves the state gone on from. -/
theorem exists_edge_of_mem_discover {state : String} {route : Route} {i : Nat} {es : List Edge}
    {seen : List String} {p : Reached} (hp : p ∈ discover state route i es seen) :
    ∃ j e, es[j]? = some e ∧ e.source = state ∧ e.target ∉ seen ∧
      p = (e.target, route ++ [i + j]) := by
  induction es generalizing i seen with
  | nil => simp [discover] at hp
  | cons f es ih =>
    rw [discover] at hp
    split at hp
    · next hf =>
      rcases List.mem_cons.mp hp with rfl | hp
      · exact ⟨0, f, rfl, hf.1, hf.2, rfl⟩
      · obtain ⟨j, e, he, hs, ht, rfl⟩ := ih hp
        refine ⟨j + 1, e, he, hs, fun hmem => ht (List.mem_append_left _ hmem), ?_⟩
        rw [Nat.add_assoc, Nat.add_comm 1 j]
    · obtain ⟨j, e, he, hs, ht, rfl⟩ := ih hp
      exact ⟨j + 1, e, he, hs, ht, by rw [Nat.add_assoc, Nat.add_comm 1 j]⟩

/-- No state is discovered twice. -/
theorem nodup_states_discover (state : String) (route : Route) (i : Nat) (es : List Edge)
    (seen : List String) : (states (discover state route i es seen)).Nodup := by
  induction es generalizing i seen with
  | nil => exact List.nodup_nil
  | cons e es ih =>
    rw [discover]
    split
    · -- what was discovered counts as seen from then on
      refine List.nodup_cons.mpr ⟨?_, ih _ _⟩
      intro hmem
      obtain ⟨p, hp, hpe⟩ := List.mem_map.mp hmem
      obtain ⟨j, f, -, -, hf, rfl⟩ := exists_edge_of_mem_discover hp
      exact hf (List.mem_append_right _ (List.mem_singleton.mpr hpe))
    · exact ih _ _

/-- The routes of discovered states stand in increasing rank. -/
theorem pairwise_discover (state : String) (route : Route) (i : Nat) (es : List Edge)
    (seen : List String) :
    (discover state route i es seen).Pairwise fun p q => rank p.2 < rank q.2 := by
  induction es generalizing i seen with
  | nil => exact List.Pairwise.nil
  | cons e es ih =>
    rw [discover]
    split
    · refine List.pairwise_cons.mpr ⟨?_, ih _ _⟩
      intro p hp
      obtain ⟨j, f, -, -, -, rfl⟩ := exists_edge_of_mem_discover hp
      exact rank_concat_lt_of_lt route (by omega)
    · exact ih _ _

/-- **Nothing is missed**: the end of an edge from the state was seen before or is discovered, over
this edge or an earlier one. -/
theorem seen_or_exists_mem_discover {state : String} (route : Route) (i : Nat) {es : List Edge}
    (seen : List String) {j : Nat} {e : Edge} (he : es[j]? = some e) (hs : e.source = state) :
    e.target ∈ seen ∨
      ∃ p ∈ discover state route i es seen, p.1 = e.target ∧
        rank p.2 ≤ rank (route ++ [i + j]) := by
  induction es generalizing i seen j with
  | nil => simp at he
  | cons f es ih =>
    rw [discover]
    cases j with
    | zero =>
      obtain rfl : f = e := by simpa using he
      by_cases ht : f.target ∈ seen
      · exact Or.inl ht
      · rw [if_pos ⟨hs, ht⟩]
        exact Or.inr ⟨_, List.mem_cons_self, rfl, le_refl _⟩
    | succ j =>
      have he' : es[j]? = some e := by simpa using he
      have hidx : i + 1 + j = i + (j + 1) := by omega
      by_cases hf : f.source = state ∧ f.target ∉ seen
      · rw [if_pos hf]
        rcases ih (i + 1) (seen ++ [f.target]) he' with hmem | ⟨p, hp, hpe, hrank⟩
        · rcases List.mem_append.mp hmem with hmem | hmem
          · exact Or.inl hmem
          · -- the edge ends where `f` ends, and `f` stands before it
            refine Or.inr ⟨_, List.mem_cons_self, (List.mem_singleton.mp hmem).symm, ?_⟩
            exact (rank_concat_lt_of_lt route (by omega)).le
        · exact Or.inr ⟨p, List.mem_cons_of_mem _ hp, hpe, hidx ▸ hrank⟩
      · rw [if_neg hf]
        rcases ih (i + 1) seen he' with hmem | ⟨p, hp, hpe, hrank⟩
        · exact Or.inl hmem
        · exact Or.inr ⟨p, hp, hpe, hidx ▸ hrank⟩

/-! ### The invariant of the search -/

/-- **The invariant.** The states in `done` have been gone on from, those in `waiting` have not. -/
structure Explored (edges : List Edge) (source goal : String) (done waiting : List Reached) :
    Prop where
  /-- Every reached state carries a route that leads to it. -/
  leads : ∀ p ∈ done ++ waiting, target? edges source p.2 = some p.1
  /-- No state is reached twice. -/
  nodup : (states (done ++ waiting)).Nodup
  /-- The routes stand in increasing rank. -/
  sorted : (done ++ waiting).Pairwise fun p q => rank p.2 < rank q.2
  /-- Every route but the empty one goes on from the route of a state in `done`. -/
  parent : ∀ p ∈ done ++ waiting, p.2 = [] ∨ ∃ q ∈ done, ∃ i, p.2 = q.2 ++ [i]
  /-- Every edge from a state in `done` ends in a reached state, which is not farther than that. -/
  closed : ∀ p ∈ done, ∀ i e, edges[i]? = some e → e.source = p.1 →
    ∃ q ∈ done ++ waiting, q.1 = e.target ∧ rank q.2 ≤ rank (p.2 ++ [i])
  /-- The source has been reached. -/
  start : (source, []) ∈ done ++ waiting
  /-- The search does not go on from `goal`. -/
  goal_notMem : ∀ p ∈ done, p.1 ≠ goal

theorem Explored.initial (edges : List Edge) (source goal : String) :
    Explored edges source goal [] [(source, [])] where
  leads := by simp
  nodup := by simp [states]
  sorted := by simp
  parent := by simp
  closed := by simp
  start := by simp
  goal_notMem := by simp

theorem states_append (l m : List Reached) : states (l ++ m) = states l ++ states m :=
  List.map_append

section Step

variable {done waiting : List Reached} {state : String} {route : Route}

/-- What has been reached so far stands before whatever the first waiting state leads to. -/
theorem Explored.rank_lt_concat (h : Explored edges source goal done ((state, route) :: waiting))
    {p : Reached} (hp : p ∈ done ++ (state, route) :: waiting) (i : Nat) :
    rank p.2 < rank (route ++ [i]) := by
  -- the state before on the route of `p` was gone on from earlier than the first waiting one
  rcases h.parent p hp with hnil | ⟨q, hq, j, hpq⟩
  · rw [hnil, rank_lt_iff]
    exact Or.inl (by simp)
  · rw [hpq]
    have hlt : rank q.2 < rank route :=
      (List.pairwise_append.mp h.sorted).2.2 q hq _ List.mem_cons_self
    exact rank_concat_lt_concat hlt j i

/-- **One round preserves the invariant.** -/
theorem Explored.step (h : Explored edges source goal done ((state, route) :: waiting))
    (hgoal : state ≠ goal) :
    Explored edges source goal (done ++ [(state, route)])
      (waiting ++ discover state route 0 edges (states (done ++ (state, route) :: waiting))) := by
  set reached := done ++ (state, route) :: waiting with hreached
  set new := discover state route 0 edges (states reached) with hnew
  have hlist : done ++ [(state, route)] ++ (waiting ++ new) = reached ++ new := by
    rw [hreached, List.append_assoc, List.append_assoc]
    rfl
  have hmem : (state, route) ∈ reached := List.mem_append_right _ List.mem_cons_self
  refine ⟨?_, ?_, ?_, ?_, ?_, ?_, ?_⟩
  · intro p hp
    rw [hlist] at hp
    rcases List.mem_append.mp hp with hp | hp
    · exact h.leads p hp
    · obtain ⟨j, e, he, hs, -, rfl⟩ := exists_edge_of_mem_discover hp
      rw [target?_concat_eq_some_iff]
      exact ⟨e, by rwa [Nat.zero_add], hs ▸ h.leads _ hmem, rfl⟩
  · -- a state is discovered only if it was not seen
    rw [hlist, states_append]
    refine List.nodup_append.mpr ⟨h.nodup, nodup_states_discover _ _ _ _ _, ?_⟩
    rintro s hs t ht rfl
    obtain ⟨p, hp, rfl⟩ := List.mem_map.mp ht
    obtain ⟨j, e, -, -, hseen, rfl⟩ := exists_edge_of_mem_discover hp
    exact hseen hs
  · rw [hlist]
    refine List.pairwise_append.mpr ⟨h.sorted, pairwise_discover _ _ _ _ _, ?_⟩
    intro p hp q hq
    obtain ⟨j, e, -, -, -, rfl⟩ := exists_edge_of_mem_discover hq
    exact h.rank_lt_concat hp _
  · intro p hp
    rw [hlist] at hp
    rcases List.mem_append.mp hp with hp | hp
    · exact (h.parent p hp).imp id fun ⟨q, hq, hpq⟩ => ⟨q, List.mem_append_left _ hq, hpq⟩
    · obtain ⟨j, e, -, -, -, rfl⟩ := exists_edge_of_mem_discover hp
      exact Or.inr ⟨_, List.mem_append_right _ (List.mem_singleton_self _), _, rfl⟩
  · rw [hlist]
    intro p hp i e he hs
    rcases List.mem_append.mp hp with hp | hp
    · obtain ⟨q, hq, hqe, hrank⟩ := h.closed p hp i e he hs
      exact ⟨q, List.mem_append_left _ hq, hqe, hrank⟩
    · obtain rfl := List.mem_singleton.mp hp
      rcases seen_or_exists_mem_discover route 0 (states reached) he hs with hseen | hdisc
      · -- a state that was seen before has a route of smaller rank
        obtain ⟨q, hq, hqe⟩ := List.mem_map.mp hseen
        exact ⟨q, List.mem_append_left _ hq, hqe, (h.rank_lt_concat hq i).le⟩
      · obtain ⟨q, hq, hqe, hrank⟩ := hdisc
        exact ⟨q, List.mem_append_right _ hq, hqe, by rwa [Nat.zero_add] at hrank⟩
  · rw [hlist]
    exact List.mem_append_left _ h.start
  · intro p hp
    rcases List.mem_append.mp hp with hp | hp
    · exact h.goal_notMem p hp
    · obtain rfl := List.mem_singleton.mp hp
      exact hgoal

end Step

/-- **The search ends in the invariant**, with `goal` as the first waiting state or with none. -/
theorem explored_search {done waiting : List Reached}
    (h : Explored edges source goal done waiting) :
    ∃ done' waiting', search edges goal (done ++ waiting) waiting = done' ++ waiting' ∧
      Explored edges source goal done' waiting' ∧
      ∀ p ∈ waiting'.head?, p.1 = goal := by
  -- the induction is on the waiting states of the search; `done` takes in the first one each round
  generalize hreached : done ++ waiting = reached
  fun_induction search edges goal reached waiting generalizing done with
  | case1 reached =>
    exact ⟨done, [], hreached.symm, h, by simp⟩
  | case2 reached route waiting =>
    exact ⟨done, _, hreached.symm, h, by simp⟩
  | case3 reached state route waiting hgoal new =>
    rename_i ih
    subst hreached
    exact ih (h.step hgoal) (by simp [new])

/-- **The invariant covers every route.** A route ends in a reached state that has been reached by a
route of no greater rank, or some waiting state has been. -/
theorem Explored.cover {done waiting : List Reached}
    (h : Explored edges source goal done waiting) {route : Route} {target : String}
    (hroute : target? edges source route = some target) :
    (∃ p ∈ done ++ waiting, p.1 = target ∧ rank p.2 ≤ rank route) ∨
      ∃ p ∈ waiting, rank p.2 ≤ rank route := by
  induction route using List.reverseRecOn generalizing target with
  | nil =>
    obtain rfl : source = target := Option.some.inj hroute
    exact Or.inl ⟨_, h.start, rfl, le_refl _⟩
  | append_singleton route i ih =>
    obtain ⟨e, he, hrest, rfl⟩ := target?_concat_eq_some_iff.mp hroute
    rcases ih hrest with ⟨p, hp, hpe, hrank⟩ | ⟨p, hp, hrank⟩
    · rcases List.mem_append.mp hp with hdone | hwait
      · obtain ⟨q, hq, hqe, hqrank⟩ := h.closed p hdone i e he hpe.symm
        exact Or.inl ⟨q, hq, hqe, hqrank.trans (rank_concat_le_concat hrank i)⟩
      · -- the route leaves the states gone on from at a waiting one
        exact Or.inr ⟨p, hwait, hrank.trans (rank_le_append route [i])⟩
    · exact Or.inr ⟨p, hp, hrank.trans (rank_le_append route [i])⟩

/-! ### The route that is found -/

/-- A state that is reached once is looked up with its route. -/
theorem lookup_eq_some_iff {reached : List Reached} (h : (states reached).Nodup) {state : String}
    {route : Route} : reached.lookup state = some route ↔ (state, route) ∈ reached := by
  induction reached with
  | nil => simp
  | cons p reached ih =>
    obtain ⟨s, r⟩ := p
    obtain ⟨hnot, hrest⟩ := List.nodup_cons.mp h
    rw [List.lookup_cons, List.mem_cons]
    by_cases hs : state = s
    · subst hs
      have hno : ∀ r', (state, r') ∉ reached := fun r' hr =>
        hnot (List.mem_map.mpr ⟨_, hr, rfl⟩)
      simp [hno, eq_comm]
    · have hne : (state == s) = false := by simpa using hs
      simp [hne, hs, ih hrest]

/-- **The search keeps the best route to `goal`.** Where it stops, whatever leads to `goal` has at
least the rank of the route that is kept. -/
theorem Explored.exists_rank_le {done waiting : List Reached}
    (h : Explored edges source goal done waiting) (hhead : ∀ p ∈ waiting.head?, p.1 = goal)
    {route : Route} (hroute : target? edges source route = some goal) :
    ∃ r, (goal, r) ∈ done ++ waiting ∧ rank r ≤ rank route := by
  rcases h.cover hroute with ⟨p, hp, rfl, hrank⟩ | ⟨p, hp, hrank⟩
  · exact ⟨p.2, hp, hrank⟩
  · cases waiting with
    | nil => simp at hp
    | cons first rest =>
      have hfirst : first.1 = goal := hhead first rfl
      refine ⟨first.2, hfirst ▸ List.mem_append_right _ List.mem_cons_self, ?_⟩
      -- `goal` waits in front, so no waiting route has a smaller rank
      rcases List.mem_cons.mp hp with rfl | hp
      · exact hrank
      · have hsorted := (List.pairwise_append.mp h.sorted).2.1
        exact ((List.pairwise_cons.mp hsorted).1 p hp).le.trans hrank

/-- All states that the search for a route reaches, with their routes. -/
def reachedFrom (edges : List Edge) (source goal : String) : List Reached :=
  search edges goal [(source, [])] [(source, [])]

/-- How the search ends, with the invariant at that point. -/
theorem exists_explored (edges : List Edge) (source goal : String) :
    ∃ done waiting, reachedFrom edges source goal = done ++ waiting ∧
      Explored edges source goal done waiting ∧ ∀ p ∈ waiting.head?, p.1 = goal :=
  explored_search (Explored.initial edges source goal)

/-- What is found is what the search keeps for `goal`. -/
theorem find?_eq_some_iff_mem {done waiting : List Reached}
    (hreached : reachedFrom edges source goal = done ++ waiting)
    (h : Explored edges source goal done waiting) {route : Route} :
    find? edges source goal = some route ↔ (goal, route) ∈ done ++ waiting := by
  change (reachedFrom edges source goal).lookup goal = some route ↔ _
  rw [hreached, lookup_eq_some_iff h.nodup]

/-- **The route found is the first of all routes**: it leads to `goal`, and no other one has a
smaller rank. -/
theorem find?_eq_some_iff {route : Route} :
    find? edges source goal = some route ↔
      target? edges source route = some goal ∧
        ∀ other, target? edges source other = some goal → rank route ≤ rank other := by
  obtain ⟨done, waiting, hreached, hinv, hhead⟩ := exists_explored edges source goal
  have hfind := @find?_eq_some_iff_mem edges source goal done waiting hreached hinv
  constructor
  · intro h
    refine ⟨hinv.leads _ (hfind.mp h), fun other hother => ?_⟩
    obtain ⟨r, hr, hrank⟩ := hinv.exists_rank_le hhead hother
    have heq : route = r := Option.some.inj (h.symm.trans (hfind.mpr hr))
    rwa [heq]
  · rintro ⟨hroute, hall⟩
    obtain ⟨r, hr, hrank⟩ := hinv.exists_rank_le hhead hroute
    have heq : route = r := rank_injective (le_antisymm (hall r (hinv.leads _ hr)) hrank)
    rw [heq]
    exact hfind.mpr hr

/-- **Nothing is found only where no route leads.** -/
theorem find?_eq_none_iff :
    find? edges source goal = none ↔ ∀ route, target? edges source route ≠ some goal := by
  constructor
  · intro h route hroute
    obtain ⟨done, waiting, hreached, hinv, hhead⟩ := exists_explored edges source goal
    obtain ⟨r, hr, -⟩ := hinv.exists_rank_le hhead hroute
    rw [(find?_eq_some_iff_mem hreached hinv).mpr hr] at h
    exact Option.some_ne_none r h
  · intro h
    cases hfind : find? edges source goal with
    | none => rfl
    | some route => exact absurd (find?_eq_some_iff.mp hfind).1 (h route)

/-! ### Back from the goal -/

/-- The edge over which a state was reached first; the source was reached over none. -/
def arrival? (reached : List Reached) (state : String) : Option Nat :=
  (reached.lookup state).bind List.getLast?

/-- **Walking back** from a state over the edges of first arrival, until there is none. The walk
spells a route; a derivation is a walk that ends. -/
inductive WalksBack (edges : List Edge) (reached : List Reached) : String → Route → Prop
  | stop {state : String} : arrival? reached state = none → WalksBack edges reached state []
  | back {state : String} {i : Nat} {e : Edge} {route : Route} :
      arrival? reached state = some i → edges[i]? = some e →
      WalksBack edges reached e.source route → WalksBack edges reached state (route ++ [i])

/-- Every walk back from a reached state ends, and it spells the route of that state. -/
theorem Explored.walksBack {done waiting : List Reached}
    (h : Explored edges source goal done waiting) {p : Reached} (hp : p ∈ done ++ waiting) :
    WalksBack edges (done ++ waiting) p.1 p.2 := by
  -- the walk goes from a route to a shorter one
  induction hlen : p.2.length generalizing p with
  | zero =>
    obtain ⟨state, route⟩ := p
    obtain rfl : route = [] := List.eq_nil_of_length_eq_zero hlen
    exact WalksBack.stop (by rw [arrival?, (lookup_eq_some_iff h.nodup).mpr hp]; rfl)
  | succ n ih =>
    obtain ⟨state, route⟩ := p
    rcases h.parent _ hp with hnil | ⟨q, hq, i, hqi⟩
    · simp only at hnil
      simp [hnil] at hlen
    · simp only at hqi
      subst hqi
      obtain ⟨e, he, hsource, -⟩ := target?_concat_eq_some_iff.mp (h.leads _ hp)
      have hq' := List.mem_append_left waiting hq
      have hstate : q.1 = e.source :=
        Option.some.inj ((h.leads q hq').symm.trans hsource)
      refine WalksBack.back ?_ he (hstate ▸ ih hq' (by simpa using hlen))
      rw [arrival?, (lookup_eq_some_iff h.nodup).mpr hp]
      simp

/-- **The route found is spelled by the walk back from `goal`.** -/
theorem walksBack_of_find? {route : Route} (h : find? edges source goal = some route) :
    WalksBack edges (reachedFrom edges source goal) goal route := by
  obtain ⟨done, waiting, hreached, hinv, -⟩ := exists_explored edges source goal
  have hmem := (find?_eq_some_iff_mem hreached hinv).mp h
  rw [hreached]
  exact hinv.walksBack hmem

end Route

end ArtifactPipeline
