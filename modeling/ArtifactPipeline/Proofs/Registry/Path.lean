import ArtifactPipeline.Proofs.Route.Search
import ArtifactPipeline.Registry

/-!
# Shortest chains of stages

A *chain* is a list of registered stages each of which takes what the one before it makes
(`Registry.Chain`). Chains and routes are the same thing seen twice: a route is the list of the
positions at which the stages of a chain are registered (`chain_of_target?`,
`exists_route_of_chain`). So `Registry.path` inherits from the search that it finds a shortest
chain, and finds nothing only where there is none.

That a shortest chain visits no state twice holds of any shortest chain
(`nodup_visited_of_shortest`): a chain that comes back to a state could leave out the round trip
(`Chain.exists_suffix`).

Where several chains are shortest, the order of registration decides between them
(`path_least_places`): written down by the places of their stages, the chain that is found is the
lexicographically least.
-/

namespace ArtifactPipeline

namespace Registry

variable {ε : Type} {r : Registry ε} {source target : String} {p : List (Stage ε)}

/-! ### Chains -/

/-- **A chain of registered stages** from one state to another. -/
inductive Chain (r : Registry ε) : String → List (Stage ε) → String → Prop
  | nil (state : String) : Chain r state [] state
  | cons {stage : Stage ε} {rest : List (Stage ε)} {target : String} :
      stage ∈ r.stages → Chain r stage.info.target rest target →
      Chain r stage.info.source (stage :: rest) target

/-- The states that a chain visits: the one it starts from, and the one each stage makes. -/
def visited (source : String) (p : List (Stage ε)) : List String :=
  source :: p.map fun stage => stage.info.target

/-- From every state that it visits, the rest of a chain leads on to its end. -/
theorem Chain.exists_suffix (h : r.Chain source p target) {state : String}
    (hstate : state ∈ visited source p) : ∃ q, q <:+ p ∧ r.Chain state q target := by
  induction h with
  | nil s =>
    obtain rfl : state = s := by simpa [visited] using hstate
    exact ⟨[], List.suffix_rfl, Chain.nil state⟩
  | @cons stage rest target hmem hrest ih =>
    rcases List.mem_cons.mp hstate with rfl | hstate
    · exact ⟨stage :: rest, List.suffix_rfl, Chain.cons hmem hrest⟩
    · obtain ⟨q, hq, hchain⟩ := ih hstate
      exact ⟨q, hq.trans (List.suffix_cons stage rest), hchain⟩

/-- **A shortest chain visits no state twice.** -/
theorem nodup_visited_of_shortest (h : r.Chain source p target)
    (hmin : ∀ q, r.Chain source q target → p.length ≤ q.length) : (visited source p).Nodup := by
  induction h with
  | nil s => exact List.pairwise_singleton _ s
  | @cons stage rest target hmem hrest ih =>
    refine List.nodup_cons.mpr ⟨?_, ih fun q hq => ?_⟩
    · -- coming back to the first state, the chain could have started there
      intro hback
      obtain ⟨q, hq, hchain⟩ := hrest.exists_suffix hback
      have hlong := hmin q hchain
      have hshort := hq.length_le
      simp only [List.length_cons] at hlong
      omega
    · have := hmin (stage :: q) (Chain.cons hmem hq)
      simpa using this

/-! ### Chains and routes -/

/-- The stages along a route. -/
def stagesOn (r : Registry ε) (route : Route) : List (Stage ε) :=
  route.filterMap fun i => r.stages[i]?

/-- An edge is a stage, seen as a way from the state that it takes to the state that it makes. -/
theorem edges_getElem?_eq_some_iff {i : Nat} {e : Edge} :
    r.edges[i]? = some e ↔ ∃ stage, r.stages[i]? = some stage ∧
      stage.info.source = e.source ∧ stage.info.target = e.target := by
  rw [edges, List.getElem?_map, Option.map_eq_some_iff]
  constructor
  · rintro ⟨stage, hstage, rfl⟩
    exact ⟨stage, hstage, rfl, rfl⟩
  · rintro ⟨stage, hstage, hsource, htarget⟩
    exact ⟨stage, hstage, by rw [hsource, htarget]⟩

/-- **A route is a chain.** The stages along it make one, and there is one at each position. -/
theorem chain_of_target? {route : Route} (h : Route.target? r.edges source route = some target) :
    r.Chain source (r.stagesOn route) target ∧
      (r.stagesOn route).map some = route.map fun i => r.stages[i]? := by
  induction route generalizing source with
  | nil =>
    obtain rfl : source = target := Option.some.inj h
    exact ⟨Chain.nil source, rfl⟩
  | cons i route ih =>
    obtain ⟨e, he, rfl, hrest⟩ := Route.target?_cons_eq_some_iff.mp h
    obtain ⟨stage, hstage, hsource, htarget⟩ := edges_getElem?_eq_some_iff.mp he
    have hon : r.stagesOn (i :: route) = stage :: r.stagesOn route := by
      rw [stagesOn, List.filterMap_cons, hstage]
      rfl
    obtain ⟨hchain, hmap⟩ := ih hrest
    rw [hon, ← hsource]
    refine ⟨Chain.cons (List.mem_of_getElem? hstage) (htarget ▸ hchain), ?_⟩
    rw [List.map_cons, List.map_cons, hstage, hmap]

/-- **A chain is a route**: each of its stages is registered somewhere. -/
theorem exists_route_of_chain (h : r.Chain source p target) :
    ∃ route, Route.target? r.edges source route = some target ∧ route.length = p.length := by
  induction h with
  | nil s => exact ⟨[], rfl, rfl⟩
  | @cons stage rest target hmem hrest ih =>
    obtain ⟨route, hroute, hlen⟩ := ih
    obtain ⟨i, hi⟩ := List.mem_iff_getElem?.mp hmem
    refine ⟨i :: route, Route.target?_cons_eq_some_iff.mpr ?_, by simp [hlen]⟩
    exact ⟨⟨stage.info.source, stage.info.target⟩,
      edges_getElem?_eq_some_iff.mpr ⟨stage, hi, rfl, rfl⟩, rfl, hroute⟩

/-! ### The path that is found -/

/-- A path that is found is what stands along the route found. -/
theorem path_eq_ok_iff :
    r.path source target = .ok p ↔
      ∃ route, Route.find? r.edges source target = some route ∧ r.stagesOn route = p := by
  rw [path]
  cases Route.find? r.edges source target with
  | none => simp
  | some route => simp [stagesOn]

theorem path_eq_error_iff {f : Failure} :
    r.path source target = .error f ↔
      Route.find? r.edges source target = none ∧ f = .noPath source target := by
  rw [path]
  cases Route.find? r.edges source target with
  | none => simp [eq_comm]
  | some route => simp

/-- **The path found is a shortest chain.** It visits no state twice, it is empty exactly when
nothing has to be done, and it is spelled by the walk back from `target` over the stages by which
the states were first reached. There is no other failure than that no chain leads there. -/
theorem path_shortest (r : Registry ε) (source target : String) :
    (∀ p, r.path source target = .ok p →
      r.Chain source p target ∧ (p = [] ↔ source = target) ∧ (visited source p).Nodup ∧
      (∀ q, r.Chain source q target → p.length ≤ q.length) ∧
      ∃ route, p.map some = route.map (fun i => r.stages[i]?) ∧
        Route.WalksBack r.edges (Route.reachedFrom r.edges source target) target route) ∧
    (r.path source target = .error (.noPath source target) ↔
      ¬ ∃ q, r.Chain source q target) ∧
    ∀ f, r.path source target = .error f → f = .noPath source target := by
  refine ⟨fun p hp => ?_, ⟨fun h => ?_, fun h => ?_⟩, fun f hf => (path_eq_error_iff.mp hf).2⟩
  · obtain ⟨route, hfind, rfl⟩ := path_eq_ok_iff.mp hp
    obtain ⟨hend, hleast⟩ := Route.find?_eq_some_iff.mp hfind
    obtain ⟨hchain, hmap⟩ := chain_of_target? hend
    have hlen : (r.stagesOn route).length = route.length := by
      simpa using congrArg List.length hmap
    have hmin : ∀ q, r.Chain source q target → (r.stagesOn route).length ≤ q.length := by
      intro q hq
      obtain ⟨other, hother, hqlen⟩ := exists_route_of_chain hq
      rw [hlen, ← hqlen]
      exact Route.length_le_of_rank_le (hleast other hother)
    refine ⟨hchain, ⟨fun hnil => ?_, fun hsame => ?_⟩, nodup_visited_of_shortest hchain hmin, hmin,
      route, hmap, Route.walksBack_of_find? hfind⟩
    · rw [hnil] at hchain
      cases hchain
      rfl
    · subst hsame
      exact List.eq_nil_of_length_eq_zero (Nat.le_zero.mp (hmin [] (Chain.nil source)))
  · rintro ⟨q, hq⟩
    obtain ⟨route, hroute, -⟩ := exists_route_of_chain hq
    exact Route.find?_eq_none_iff.mp (path_eq_error_iff.mp h).1 route hroute
  · rw [path_eq_error_iff]
    refine ⟨Route.find?_eq_none_iff.mpr fun route hroute => ?_, rfl⟩
    exact h ⟨_, (chain_of_target? hroute).1⟩

/-! ### Which of the shortest chains -/

/-- **The places of a chain**: where its stages stand in the registry, stage by stage. -/
def PlacedAt (r : Registry ε) (places : Route) (p : List (Stage ε)) : Prop :=
  p.map some = places.map fun i => r.stages[i]?

/-- A shortest chain of stages from one state to another. -/
def Shortest (r : Registry ε) (source : String) (p : List (Stage ε)) (target : String) : Prop :=
  r.Chain source p target ∧ ∀ q, r.Chain source q target → p.length ≤ q.length

/-- The places of a chain are a route. -/
theorem target?_of_placedAt (h : r.Chain source p target) {places : Route}
    (hplaces : r.PlacedAt places p) : Route.target? r.edges source places = some target := by
  induction h generalizing places with
  | nil s =>
    obtain rfl : places = [] := List.map_eq_nil_iff.mp hplaces.symm
    rfl
  | @cons stage rest target hmem hrest ih =>
    cases places with
    | nil => cases hplaces
    | cons i places =>
      obtain ⟨hfirst, hothers⟩ := List.cons.inj hplaces
      refine Route.target?_cons_eq_some_iff.mpr
        ⟨⟨stage.info.source, stage.info.target⟩, ?_, rfl, ih hothers⟩
      exact edges_getElem?_eq_some_iff.mpr ⟨stage, hfirst.symm, rfl, rfl⟩

/-- A chain has as many places as stages. -/
theorem PlacedAt.length_eq {places : Route} (hplaces : r.PlacedAt places p) :
    places.length = p.length := by
  simpa using (congrArg List.length hplaces).symm

/-- **The path found is the first of the shortest chains.** Where some chain leads to `target`, the
places over which the search walks back are those of the chain found, and no shortest chain has
lexicographically smaller ones. -/
theorem path_least_places (hconnected : ∃ q, r.Chain source q target) :
    ∃ p places, r.path source target = .ok p ∧ r.Shortest source p target ∧
      r.PlacedAt places p ∧
      Route.WalksBack r.edges (Route.reachedFrom r.edges source target) target places ∧
      ∀ q others, r.Shortest source q target → r.PlacedAt others q → places ≤ others := by
  obtain ⟨q, hq⟩ := hconnected
  obtain ⟨route, hroute, -⟩ := exists_route_of_chain hq
  obtain ⟨places, hfind⟩ : ∃ places, Route.find? r.edges source target = some places :=
    Option.ne_none_iff_exists'.mp fun hnone => Route.find?_eq_none_iff.mp hnone route hroute
  obtain ⟨hend, hleast⟩ := Route.find?_eq_some_iff.mp hfind
  obtain ⟨hchain, hplaces⟩ := chain_of_target? hend
  have hlen : places.length = (r.stagesOn places).length := PlacedAt.length_eq hplaces
  have hmin : ∀ q, r.Chain source q target → (r.stagesOn places).length ≤ q.length := by
    intro q hq
    obtain ⟨other, hother, hotherLen⟩ := exists_route_of_chain hq
    rw [← hlen, ← hotherLen]
    exact Route.length_le_of_rank_le (hleast other hother)
  refine ⟨r.stagesOn places, places, path_eq_ok_iff.mpr ⟨places, hfind, rfl⟩, ⟨hchain, hmin⟩,
    hplaces, Route.walksBack_of_find? hfind, ?_⟩
  intro q others hshortest hothers
  -- of two shortest chains neither is longer, so the rank is decided by the places
  have hsame : others.length ≤ places.length := by
    rw [hothers.length_eq, hlen]
    exact hshortest.2 _ hchain
  rcases Route.rank_le_iff.mp (hleast others (target?_of_placedAt hshortest.1 hothers)) with
    hlt | ⟨-, hle⟩
  · omega
  · exact hle

/-- A stage that leads from one state to another and hands its input on. -/
def passing (source target : String) : Stage Unit :=
  ⟨.between source target .path .path, fun input => pure input⟩

/-- Three ways from `a` to `d`, two of them over parallel stages. -/
def diamond : Registry Unit :=
  ⟨[passing "b" "d", passing "a" "c", passing "a" "b", passing "c" "d", passing "a" "c"]⟩

/-- In the diamond the way over the stages at the places 1 and 3 is the first. -/
theorem path_least_places_in_diamond :
    (∃ q, diamond.Chain "a" q "d") ∧
      ∃ p places, diamond.path "a" "d" = .ok p ∧ diamond.Shortest "a" p "d" ∧
        diamond.PlacedAt places p ∧
        Route.WalksBack diamond.edges (Route.reachedFrom diamond.edges "a" "d") "d" places ∧
        ∀ q others, diamond.Shortest "a" q "d" → diamond.PlacedAt others q → places ≤ others := by
  have hconnected : ∃ q, diamond.Chain "a" q "d" := by
    have hfirst : passing "a" "b" ∈ diamond.stages := by simp [diamond]
    have hsecond : passing "b" "d" ∈ diamond.stages := by simp [diamond]
    exact ⟨[passing "a" "b", passing "b" "d"], .cons hfirst (.cons hsecond (.nil "d"))⟩
  exact ⟨hconnected, path_least_places hconnected⟩

example : Route.find? diamond.edges "a" "d" = some [1, 3] := by cbv

end Registry

end ArtifactPipeline
