import ShaclQuery.Proofs.Alternatives

/-! # Agreement of pattern and template

The template of a shape lists the triples of its WHERE pattern, each where it occurs first. The two
are written by different walks: the pattern repeats the way to a property in every alternative below
it, the template meets every property once. What makes them agree is that a repeated way was read
before, so it adds no first occurrence.
-/

namespace ShaclQuery

/-! ## 1. First occurrences -/

section Firsts

variable {α β : Type} [DecidableEq β]

theorem distinctBy_append (key : α → β) (l m : List α) :
    distinctBy key (l ++ m) =
      distinctBy key l ++ (distinctBy key m).filter fun b => key b ∉ l.map key := by
  induction l with
  | nil =>
    rw [List.nil_append, List.filter_eq_self.2 (by simp)]
    rfl
  | cons a rest ih =>
    simp only [List.cons_append, distinctBy, ih, List.filter_append, List.filter_filter]
    congr 2
    apply List.filter_congr
    intro b _
    simp only [List.map_cons, List.mem_cons, not_or, Bool.decide_and]

theorem mem_map_distinctBy {key : α → β} {l : List α} {k : β} :
    k ∈ (distinctBy key l).map key ↔ k ∈ l.map key := by
  constructor
  · intro h
    obtain ⟨a, ha, rfl⟩ := List.mem_map.1 h
    exact List.mem_map_of_mem (distinctBy_subset key l ha)
  · intro h
    obtain ⟨a, ha, rfl⟩ := List.mem_map.1 h
    obtain ⟨b, hb, hba⟩ := exists_mem_distinctBy key l ha
    exact List.mem_map.2 ⟨b, hb, hba⟩

/-- First occurrences of a joined list depend only on the first occurrences of its parts. -/
theorem distinctBy_append_congr {key : α → β} {l l' m m' : List α}
    (hl : distinctBy key l = distinctBy key l') (hm : distinctBy key m = distinctBy key m') :
    distinctBy key (l ++ m) = distinctBy key (l' ++ m') := by
  rw [distinctBy_append, distinctBy_append, hl, hm]
  congr 1
  apply List.filter_congr
  intro b _
  have hkeys : key b ∈ l.map key ↔ key b ∈ l'.map key := by
    rw [← mem_map_distinctBy, hl, mem_map_distinctBy]
  simp only [hkeys]

/-- What occurred before may be left out. -/
theorem distinctBy_append_absorb {key : α → β} {l m : List α} (r : List α)
    (h : ∀ a ∈ m, key a ∈ l.map key) :
    distinctBy key (l ++ (m ++ r)) = distinctBy key (l ++ r) := by
  rw [distinctBy_append, distinctBy_append, distinctBy_append, List.filter_append,
    List.filter_filter]
  congr 1
  have hnone : (distinctBy key m).filter (fun b => key b ∉ l.map key) = [] := by
    rw [List.filter_eq_nil_iff]
    intro b hb
    simpa using h b (distinctBy_subset key m hb)
  -- what is left of `r` is the same, since the keys of `m` are among those of `l`
  rw [hnone, List.nil_append]
  apply List.filter_congr
  intro b _
  by_cases hb : key b ∈ l.map key
  · simp [hb]
  · have hm : key b ∉ m.map key := by
      intro hmem
      obtain ⟨a, ha, hab⟩ := List.mem_map.1 hmem
      exact hb (hab ▸ h a ha)
    simp [hb, hm]

/-- A head repeated in front of every part counts once. -/
theorem distinctBy_flatMap_append (key : α → β) (head : List α) {parts : List (List α)}
    (h : parts ≠ []) :
    distinctBy key (parts.flatMap fun part => head ++ part) =
      distinctBy key (head ++ parts.flatten) := by
  -- the head in front of the second part was read with the first, and so on
  induction parts with
  | nil => exact absurd rfl h
  | cons part rest ih =>
    by_cases hrest : rest = []
    · subst hrest
      simp
    · calc
        distinctBy key ((part :: rest).flatMap fun part => head ++ part)
          = distinctBy key ((head ++ part) ++ (head ++ rest.flatten)) := by
            rw [List.flatMap_cons]
            exact distinctBy_append_congr rfl (ih hrest)
        _ = distinctBy key ((head ++ part) ++ rest.flatten) := by
            apply distinctBy_append_absorb
            intro a ha
            exact List.mem_map_of_mem (List.mem_append_left part ha)
        _ = distinctBy key (head ++ (part :: rest).flatten) := by
            rw [List.flatten_cons, List.append_assoc]

end Firsts

/-! ## 2. Triples of alternatives -/

theorem distinctBy_triples_prepend (head : List Element) {bs : List Block} (h : bs ≠ []) :
    distinctBy TriplePattern.key ((bs.map (Block.prepend head)).flatMap Block.triples) =
      distinctBy TriplePattern.key (head.filterMap Element.triple? ++ bs.flatMap Block.triples) := by
  have hparts : (bs.map (Block.prepend head)).flatMap Block.triples =
      (bs.map Block.triples).flatMap fun part => head.filterMap Element.triple? ++ part := by
    rw [List.flatMap_map, List.flatMap_map]
    exact congrArg (fun f => bs.flatMap f) (funext (Block.triples_prepend head))
  rw [hparts, distinctBy_flatMap_append _ _ (by simpa using h), List.flatMap_def]

theorem Pattern.alternatives_ofBranches_ne_nil (types : List Element) (branches : List Block) :
    (ofBranches types branches).alternatives ≠ [] := by
  cases branches with
  | nil => simp [alternatives]
  | cons b rest => simp [ofBranches, alternatives]

theorem Pattern.distinctBy_triples_ofBranches (types : List Element) (branches : List Block) :
    distinctBy TriplePattern.key (ofBranches types branches).triples =
      distinctBy TriplePattern.key
        (types.filterMap Element.triple? ++ branches.flatMap Block.triples) := by
  by_cases h : branches = []
  · subst h
    simp [triples, alternatives, Block.triples]
  · rw [ofBranches_of_ne_nil types h]
    exact distinctBy_triples_prepend types h

/-- Behind its triple, a nested pattern adds its own triples and nothing else. -/
theorem distinctBy_triples_behind (triple : TriplePattern) {inside : Pattern}
    (h : inside.alternatives ≠ []) :
    distinctBy TriplePattern.key
        ([triple] ++ ((behind triple inside).flatMap Pattern.alternatives).flatMap Block.triples) =
      distinctBy TriplePattern.key ([triple] ++ inside.triples) := by
  unfold behind
  split
  · -- an empty block is left out, and it has no triples
    rename_i hempty
    rw [hempty]
    rfl
  · rw [List.flatMap_cons, List.flatMap_nil, List.append_nil, Pattern.alternatives_prepend]
    calc
      _ = distinctBy TriplePattern.key ([triple] ++ ([triple] ++ inside.triples)) :=
        distinctBy_append_congr rfl (distinctBy_triples_prepend [.triple triple] h)
      _ = distinctBy TriplePattern.key ([triple] ++ inside.triples) :=
        distinctBy_append_absorb _ (by simp)

namespace Branches

/-- The alternatives repeat triples of the walk and add none: without repetitions both list the same
triples in the same order. -/
theorem distinctBy_triples_alternatives (b : Branches) (focus : Focus) (objectPrefix : String)
    (i : Nat) :
    distinctBy TriplePattern.key
        ((b.alternatives focus objectPrefix i).flatMap Block.triples) =
      distinctBy TriplePattern.key (b.triples focus objectPrefix i) := by
  induction b generalizing focus objectPrefix i with
  | nil => rfl
  | leaf path rest ih =>
    exact distinctBy_append_congr (l := [propertyTriple focus path _]) rfl
      (ih focus objectPrefix (i + 1))
  | cyclic path shape rest ih =>
    exact distinctBy_append_congr (l := [propertyTriple focus path _]) rfl
      (ih focus objectPrefix (i + 1))
  | nested path targets inner rest ihInner ihRest =>
    let value := focus.object i objectPrefix
    let triple := propertyTriple focus path value
    let types := typeElements targets value
    let inside := Pattern.ofBranches types (inner.alternatives value "" 0)
    -- the block with the triple alone and everything behind the triple, taken together
    have hhead : distinctBy TriplePattern.key ([triple] ++
        ((behind triple inside).flatMap Pattern.alternatives).flatMap Block.triples) =
        distinctBy TriplePattern.key ([triple] ++
          (types.filterMap Element.triple? ++ inner.triples value "" 0)) := by
      rw [distinctBy_triples_behind triple (Pattern.alternatives_ofBranches_ne_nil _ _)]
      apply distinctBy_append_congr rfl
      rw [Pattern.distinctBy_triples_ofBranches]
      exact distinctBy_append_congr rfl (ihInner value "" 0)
    have hall := distinctBy_append_congr hhead (ihRest focus objectPrefix (i + 1))
    simp only [List.append_assoc] at hall
    simp only [alternatives, triples, List.flatMap_cons, List.flatMap_append, List.append_assoc]
    exact hall

end Branches

/-! ## 3. The template -/

theorem Unfolding.distinctBy_triples_pattern (u : Unfolding) (focus : Focus)
    (objectPrefix : String) :
    distinctBy TriplePattern.key (u.pattern focus objectPrefix).triples =
      distinctBy TriplePattern.key ((typeElements u.targets focus).filterMap Element.triple? ++
        u.branches.triples focus objectPrefix 0) := by
  unfold pattern
  rw [Pattern.distinctBy_triples_ofBranches]
  exact distinctBy_append_congr rfl (u.branches.distinctBy_triples_alternatives focus objectPrefix 0)

/-- For every shape of every table, the template is the list of the triples of the WHERE pattern
with all repetitions removed, and collapsing the pattern does not change this. Neither of the two
walks fails. -/
theorem template_eq_distinct_where_triples (tbl : ShapeTable) (root : Nat) (focus : Focus)
    (objectPrefix : String) :
    ∃ p triples, ((tbl.unfold root).wherePattern focus objectPrefix).result = .ok p ∧
      ((tbl.unfold root).template focus objectPrefix : Logged UnionError _).result = .ok triples ∧
      triples = distinctBy TriplePattern.key p.triples ∧
      triples = distinctBy TriplePattern.key p.collapse.triples := by
  have hfirsts := (tbl.unfold root).distinctBy_triples_pattern focus objectPrefix
  refine ⟨_, _, Unfolding.wherePattern_result _ _ _, Unfolding.template_result _ _ _, ?_, ?_⟩
  · exact hfirsts.symm
  · rw [Pattern.triples_collapse]
    exact hfirsts.symm

end ShaclQuery
