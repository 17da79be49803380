import ArtifactPipeline.Proofs.Registry.Path
import Mathlib.Data.List.Nodup

/-!
# Registries in which every state is made by one stage

Read from its end, a chain leaves no choice where no state is made by two stages: the last stage is
the one that makes the end, the one before it makes what the last stage takes, and so on. So of two
chains with one end the longer one ends in the shorter one (`Chain.suffix_or_suffix`), and what it
has in addition leads back to where it began. A chain that visits no state twice has nothing in
addition: there is at most one from one state to another (`Chain.eq_of_nodup`), and it is the path
that is found (`path_eq_of_chain`).
-/

namespace ArtifactPipeline

namespace Registry

variable {ε : Type} {r : Registry ε} {source middle target : String} {p q : List (Stage ε)}

/-- The states that the stages make, in order of registration. -/
def targets (r : Registry ε) : List String := r.stages.map fun stage => stage.info.target

/-! ### Parts of chains -/

theorem chain_nil_iff : r.Chain source [] target ↔ source = target := by
  constructor
  · intro h
    cases h
    rfl
  · rintro rfl
    exact .nil source

theorem chain_append_iff :
    r.Chain source (p ++ q) target ↔
      ∃ middle, r.Chain source p middle ∧ r.Chain middle q target := by
  constructor
  · intro h
    induction p generalizing source with
    | nil => exact ⟨source, .nil source, h⟩
    | cons stage rest ih =>
      cases h with
      | cons hmem hrest =>
        obtain ⟨middle, hfirst, hsecond⟩ := ih hrest
        exact ⟨middle, .cons hmem hfirst, hsecond⟩
  · rintro ⟨middle, hfirst, hsecond⟩
    induction hfirst with
    | nil state => exact hsecond
    | cons hmem hrest ih => exact .cons hmem (ih hsecond)

/-- The last stage of a chain makes its end. -/
theorem chain_append_singleton_iff {stage : Stage ε} :
    r.Chain source (p ++ [stage]) target ↔
      r.Chain source p stage.info.source ∧ stage ∈ r.stages ∧ stage.info.target = target := by
  rw [chain_append_iff]
  constructor
  · rintro ⟨middle, hfirst, hlast⟩
    cases hlast with
    | cons hmem hrest =>
      exact ⟨hfirst, hmem, chain_nil_iff.mp hrest⟩
  · rintro ⟨hfirst, hmem, rfl⟩
    exact ⟨stage.info.source, hfirst, .cons hmem (.nil stage.info.target)⟩

/-- The end of a chain is made in it, unless there is nothing to do. -/
theorem Chain.target_mem (h : r.Chain source p target) (hp : p ≠ []) :
    target ∈ p.map fun stage => stage.info.target := by
  obtain ⟨rest, last, rfl⟩ := List.eq_nil_or_concat' p |>.resolve_left hp
  obtain ⟨-, -, hlast⟩ := chain_append_singleton_iff.mp h
  exact List.mem_map.mpr ⟨last, List.mem_append_right rest (List.mem_singleton_self last), hlast⟩

/-- The stages of a chain and its end tell where it begins. -/
theorem Chain.source_eq (hp : r.Chain source p target) (hq : r.Chain middle p target) :
    source = middle := by
  cases hp with
  | nil => cases hq; rfl
  | cons => cases hq; rfl

/-! ### No choice -/

/-- A stage is known by the state that it makes. -/
theorem eq_of_target_eq (hmakers : r.targets.Nodup) {first second : Stage ε}
    (hfirst : first ∈ r.stages) (hsecond : second ∈ r.stages)
    (htarget : first.info.target = second.info.target) : first = second :=
  List.inj_on_of_nodup_map hmakers hfirst hsecond htarget

/-- **Of two chains with one end, one ends in the other.** -/
theorem Chain.suffix_or_suffix (hmakers : r.targets.Nodup) (hp : r.Chain source p target)
    (hq : r.Chain middle q target) : p <:+ q ∨ q <:+ p := by
  -- both chains are taken apart from their ends
  induction p using List.reverseRecOn generalizing target q with
  | nil => exact .inl List.nil_suffix
  | append_singleton p first ih =>
    rcases List.eq_nil_or_concat' q with rfl | ⟨q, second, rfl⟩
    · exact .inr List.nil_suffix
    · obtain ⟨hpRest, hfirst, htarget⟩ := chain_append_singleton_iff.mp hp
      obtain ⟨hqRest, hsecond, hsame⟩ := chain_append_singleton_iff.mp hq
      obtain rfl := eq_of_target_eq hmakers hfirst hsecond (htarget.trans hsame.symm)
      have hrest : ∀ {p q : List (Stage ε)}, p <:+ q → p ++ [first] <:+ q ++ [first] := by
        rintro p q ⟨before, rfl⟩
        exact ⟨before, (List.append_assoc before p [first]).symm⟩
      rcases ih hpRest hqRest with hsuffix | hsuffix
      · exact .inl (hrest hsuffix)
      · exact .inr (hrest hsuffix)

/-- A chain without a state visited twice does not begin with a round trip. -/
theorem Chain.eq_of_suffix (hp : r.Chain source p target) (hq : r.Chain source q target)
    (hnodup : (visited source q).Nodup) (hsuffix : p <:+ q) : p = q := by
  obtain ⟨trip, rfl⟩ := hsuffix
  obtain ⟨middle, htrip, hrest⟩ := chain_append_iff.mp hq
  obtain rfl : source = middle := hp.source_eq hrest
  by_cases hnil : trip = []
  · rw [hnil, List.nil_append]
  · -- the trip leads back to the state it began with, which is visited once only
    refine absurd ?_ (List.nodup_cons.mp hnodup).1
    rw [List.map_append]
    exact List.mem_append_left _ (htrip.target_mem hnil)

/-- **There is one way at most** from one state to another without a state visited twice. -/
theorem Chain.eq_of_nodup (hmakers : r.targets.Nodup) (hp : r.Chain source p target)
    (hq : r.Chain source q target) (hpNodup : (visited source p).Nodup)
    (hqNodup : (visited source q).Nodup) : p = q := by
  rcases hp.suffix_or_suffix hmakers hq with hsuffix | hsuffix
  · exact hp.eq_of_suffix hq hqNodup hsuffix
  · exact (hq.eq_of_suffix hp hpNodup hsuffix).symm

/-! ### The path that is found -/

/-- Where there is a chain, a path is found, and it is a shortest chain. -/
theorem exists_path_of_chain (h : r.Chain source q target) :
    ∃ p, r.path source target = .ok p ∧ r.Shortest source p target := by
  obtain ⟨route, hroute, -⟩ := exists_route_of_chain h
  obtain ⟨places, hfind⟩ : ∃ places, Route.find? r.edges source target = some places :=
    Option.ne_none_iff_exists'.mp fun hnone => Route.find?_eq_none_iff.mp hnone route hroute
  obtain ⟨hend, hleast⟩ := Route.find?_eq_some_iff.mp hfind
  obtain ⟨hchain, hplaces⟩ := chain_of_target? hend
  refine ⟨r.stagesOn places, path_eq_ok_iff.mpr ⟨places, hfind, rfl⟩, hchain, ?_⟩
  intro other hother
  obtain ⟨route, hroute, hlength⟩ := exists_route_of_chain hother
  rw [← PlacedAt.length_eq hplaces, ← hlength]
  exact Route.length_le_of_rank_le (hleast route hroute)

/-- **The one way is found.** -/
theorem path_eq_of_chain (hmakers : r.targets.Nodup) (h : r.Chain source p target)
    (hnodup : (visited source p).Nodup) : r.path source target = .ok p := by
  obtain ⟨q, hpath, hq, hmin⟩ := exists_path_of_chain h
  obtain rfl := h.eq_of_nodup hmakers hq hnodup (nodup_visited_of_shortest hq hmin)
  exact hpath

end Registry

end ArtifactPipeline
