import ShaclQuery.Proofs.FocusNodes
import ShaclQuery.Proofs.MissingPaths

/-! # Several classes at once

A shape with several target classes asks for the class of its focus by a variable of its own and a
filter on it, a shape with one class by the class itself. The two agree: without the value of that
variable, the solutions for several classes are those for each of them. Nothing below the shape
mentions the variable, whose name ends unlike the names of places and belongs to the focus alone.
Only a class of a nested shape that is itself a variable, and this one, would be mixed up with it.
-/

namespace ShaclQuery

/-! ## 1. A value for one variable -/

namespace Solution

def put (μ : Solution) (name : String) (value : Option Term) : Solution := fun other =>
  if other = name then value else μ other

theorem put_self (μ : Solution) (name : String) (value : Option Term) :
    μ.put name value name = value := if_pos rfl

theorem put_of_ne (μ : Solution) {name other : String} (h : other ≠ name) (value : Option Term) :
    μ.put name value other = μ other := if_neg h

theorem put_put_eq_self {μ : Solution} {name : String} {old : Option Term} (h : μ name = old)
    (value : Option Term) : (μ.put name value).put name old = μ := by
  funext other
  by_cases hother : other = name
  · rw [hother, put_self, h]
  · rw [put_of_ne _ hother, put_of_ne _ hother]

theorem value_put {μ : Solution} {name : String} {value : Option Term} {t : Option Term}
    (h : t ≠ some (.var name)) : (μ.put name value).value t = μ.value t := by
  rcases t with _ | x
  · rfl
  · cases x with
    | var other => exact put_of_ne μ (fun heq => h (by rw [heq])) value
    | iri text => rfl
    | blank label => rfl
    | literal l => rfl

theorem instantiate_put {μ : Solution} {name : String} {value : Option Term} {t : TriplePattern}
    (h : some (.var name) ∉ (Element.triple t).terms) :
    (μ.put name value).instantiate t = μ.instantiate t := by
  simp only [Element.terms, List.mem_cons, List.not_mem_nil, or_false, not_or] at h
  obtain ⟨hs, hp, ho⟩ := h
  simp only [instantiate, value_put (Ne.symm hs), value_put (Ne.symm hp), value_put (Ne.symm ho)]

end Solution

def Element.Holds (g : Graph) (μ : Solution) : Element → Prop
  | .triple t => ∃ u ∈ g.triples, μ.instantiate t = some u
  | .oneOf term values => ∃ c, μ.value term = some c ∧ some c ∈ values

theorem Block.solves_iff {b : Block} {g : Graph} {μ : Solution} :
    b.Solves g μ ↔ (∀ name, (μ name).isSome = true ↔ name ∈ b.variables) ∧
      ∀ e ∈ b.elements, e.Holds g μ := by
  constructor
  · intro h
    refine ⟨h.domain, fun e he => ?_⟩
    cases e with
    | triple t => exact h.triples t (Block.mem_triples.2 he)
    | oneOf term values => exact h.filters term values he
  · rintro ⟨hdomain, helements⟩
    exact ⟨hdomain, fun t ht => helements _ (Block.mem_triples.1 ht),
      fun term values hmem => helements _ hmem⟩

theorem Element.holds_put {g : Graph} {μ : Solution} {name : String} {value : Option Term}
    {e : Element} (h : some (.var name) ∉ e.terms) :
    e.Holds g (μ.put name value) ↔ e.Holds g μ := by
  cases e with
  | triple t => simp only [Holds, Solution.instantiate_put h]
  | oneOf term values =>
    have hterm : term ≠ some (.var name) := by
      rintro rfl
      exact h (List.mem_append_right _ (List.mem_singleton_self _))
    simp only [Holds, Solution.value_put hterm]

theorem Block.not_mem_variables {b : Block} {name : String} (h : some (.var name) ∉ b.terms) :
    name ∉ b.variables := by
  intro hmem
  obtain ⟨t, ht, hname⟩ := List.mem_flatMap.1 hmem
  refine h (List.mem_flatMap.2 ⟨.triple t, Block.mem_triples.1 ht, ?_⟩)
  rcases TriplePattern.mem_variables.1 hname with hvar | hvar | hvar <;>
    simp [Element.terms, hvar]

theorem Pattern.solves_collapse {p : Pattern} {g : Graph} {μ : Solution} :
    p.collapse.Solves g μ ↔ p.Solves g μ := by
  rw [Pattern.Solves, Pattern.Solves, Pattern.alternatives_collapse]

/-! ## 2. One block -/

section Block

variable {g : Graph} {b : Block} {focus : Focus} {name : String} {classes : List Term}

theorem typeElements_of_two_le (h : 2 ≤ classes.length) :
    typeElements classes focus =
      [.triple ⟨some focus.term, some rdfType, some focus.targetClass.term⟩,
        .oneOf (some focus.targetClass.term) (classes.map some)] := by
  rcases classes with _ | ⟨c, _ | ⟨d, rest⟩⟩
  · cases h
  · simp at h
  · rfl

theorem mem_variables_several (h : 2 ≤ classes.length) (hclass : focus.targetClass.term = .var name)
    (other : String) :
    other ∈ (b.prepend (typeElements classes focus)).variables ↔
      other = name ∨ focus.term = .var other ∨ other ∈ b.variables := by
  rw [typeElements_of_two_le h]
  change other ∈ (⟨some focus.term, some rdfType, some focus.targetClass.term⟩ :
    TriplePattern).variables ++ b.variables ↔ _
  rw [List.mem_append, TriplePattern.mem_variables, hclass]
  simp [rdfType, or_assoc, or_left_comm, eq_comm]

theorem mem_variables_single (text other : String) :
    other ∈ (b.prepend (typeElements [.iri text] focus)).variables ↔
      focus.term = .var other ∨ other ∈ b.variables := by
  change other ∈ (⟨some focus.term, some rdfType, some (.iri text)⟩ :
    TriplePattern).variables ++ b.variables ↔ _
  rw [List.mem_append, TriplePattern.mem_variables]
  simp [rdfType]

/-- With one of the classes as the value of the class variable, the block for several classes says
what the block for this class says without the variable. -/
theorem solves_several_iff_of_value (hclasses : 2 ≤ classes.length)
    (hclass : focus.targetClass.term = .var name) (hfocus : focus.term ≠ .var name)
    (hb : some (.var name) ∉ b.terms) {text : String} (htext : .iri text ∈ classes) {μ : Solution}
    (hvalue : μ name = some (.iri text)) :
    (b.prepend (typeElements classes focus)).Solves g μ ↔
      (b.prepend (typeElements [.iri text] focus)).Solves g (μ.put name none) := by
  have hdomain :
      (∀ other, (μ other).isSome = true ↔
        other ∈ (b.prepend (typeElements classes focus)).variables) ↔
      ∀ other, (μ.put name none other).isSome = true ↔
        other ∈ (b.prepend (typeElements [.iri text] focus)).variables := by
    -- the two blocks have the same variables but for the class variable
    refine forall_congr' fun other => ?_
    rw [mem_variables_several hclasses hclass, mem_variables_single]
    by_cases hother : other = name
    · subst hother
      simp [hvalue, Solution.put_self, hfocus, Block.not_mem_variables hb]
    · rw [Solution.put_of_ne μ hother]
      simp [hother]
  have htriple : μ.instantiate ⟨some focus.term, some rdfType, some (.var name)⟩ =
      (μ.put name none).instantiate ⟨some focus.term, some rdfType, some (.iri text)⟩ := by
    simp only [Solution.instantiate, Solution.value_put (fun h => hfocus (Option.some.inj h)),
      Solution.value_var, Solution.value_iri, hvalue, rdfType]
  have hfilter : (Element.oneOf (some (.var name)) (classes.map some)).Holds g μ :=
    ⟨_, hvalue, List.mem_map_of_mem htext⟩
  have hrest : (∀ e ∈ b.elements, e.Holds g (μ.put name none)) ↔ ∀ e ∈ b.elements, e.Holds g μ :=
    forall₂_congr fun e he => Element.holds_put fun hmem => hb (List.mem_flatMap.2 ⟨e, he, hmem⟩)
  rw [Block.solves_iff, Block.solves_iff, hdomain]
  simp only [Block.prepend, List.forall_mem_append, hrest, typeElements_of_two_le hclasses, hclass,
    List.forall_mem_cons, hfilter, true_and]
  simp [typeElements, Element.Holds, htriple]

/-- The solutions for several classes, without the value of the class variable, are the solutions
for each of the classes. -/
theorem exists_solves_several_iff (hclasses : 2 ≤ classes.length)
    (hiris : ∀ c ∈ classes, c.isIri = true) (hclass : focus.targetClass.term = .var name)
    (hfocus : focus.term ≠ .var name) (hb : some (.var name) ∉ b.terms) {μ : Solution} :
    (∃ ν, (b.prepend (typeElements classes focus)).Solves g ν ∧ ν.put name none = μ) ↔
      ∃ c ∈ classes, (b.prepend (typeElements [c] focus)).Solves g μ := by
  constructor
  · rintro ⟨ν, hν, rfl⟩
    -- the filter says which class the variable has
    have hfilter : .oneOf (some (.var name)) (classes.map some) ∈
        (b.prepend (typeElements classes focus)).elements := by
      rw [typeElements_of_two_le hclasses, hclass]
      exact List.mem_cons_of_mem _ List.mem_cons_self
    obtain ⟨c, hvalue, hc⟩ := hν.filters _ _ hfilter
    have hmem : c ∈ classes := by simpa using hc
    obtain ⟨text, rfl⟩ := Term.isIri_iff.1 (hiris c hmem)
    exact ⟨_, hmem, (solves_several_iff_of_value hclasses hclass hfocus hb hmem hvalue).1 hν⟩
  · rintro ⟨c, hc, hμ⟩
    obtain ⟨text, rfl⟩ := Term.isIri_iff.1 (hiris c hc)
    have hunbound : μ name = none := by
      have hnot : name ∉ (b.prepend (typeElements [.iri text] focus)).variables := by
        rw [mem_variables_single]
        exact not_or.2 ⟨hfocus, Block.not_mem_variables hb⟩
      simpa using mt (hμ.domain name).1 hnot
    -- the class as the value of the variable gives a solution, and leaves this one when taken away
    have hback := Solution.put_put_eq_self hunbound (some (.iri text))
    refine ⟨μ.put name (some (.iri text)), ?_, hback⟩
    rw [solves_several_iff_of_value hclasses hclass hfocus hb hc (Solution.put_self _ _ _), hback]
    exact hμ

end Block

/-! ## 3. All blocks of a shape -/

def Occurrences.IriPaths (o : Occurrences) : Prop :=
  ∀ path s, o path = some s → ∀ p ∈ s.paths, p.any Term.isIri = true

/-- No shape below the first has this class. -/
def Occurrences.NestedWithout (o : Occurrences) (c : Term) : Prop :=
  ∀ path s, path ≠ [] → o path = some s → c ∉ s.targets

/-- No place has the name of the class variable of the focus. -/
theorem Focus.term_below_ne_targetClass {f : Focus} (hf : f.Accepted) (objectPrefix : String)
    (place : List Nat) : (f.below objectPrefix place).term ≠ .var f.targetClass.name := by
  intro heq
  have hname := name_of_term_below hf heq
  exact @name_targetClass_ne f objectPrefix [] place hname

namespace Unfolding

variable {u : Unfolding} {focus : Focus} {objectPrefix : String}

def untyped (u : Unfolding) : Unfolding := ⟨[], u.branches⟩

theorem alternatives_pattern (u : Unfolding) (focus : Focus) (objectPrefix : String) :
    (u.pattern focus objectPrefix).alternatives =
      (u.untyped.pattern focus objectPrefix).alternatives.map
        (Block.prepend (typeElements u.targets focus)) := by
  unfold pattern untyped
  cases u.branches.alternatives focus objectPrefix 0 with
  | nil => simp [Pattern.alternatives, Block.prepend, typeElements]
  | cons b rest => simp [Pattern.ofBranches, Pattern.alternatives, Block.prepend, typeElements]

theorem occurrences_untyped_cons (u : Unfolding) (n : Nat) (rest : List Nat) :
    u.untyped.occurrences (n :: rest) = u.occurrences (n :: rest) := by
  rw [occurrences_cons, occurrences_cons]
  rfl

theorem iriPaths_untyped (h : u.occurrences.IriPaths) : u.untyped.occurrences.IriPaths := by
  intro path s hs
  cases path with
  | nil =>
    cases hs
    have hroot := h [] u.occurrence u.occurrences_nil
    exact hroot
  | cons n rest =>
    rw [occurrences_untyped_cons] at hs
    exact h _ s hs

/-- Behind the classes of a shape its class variable does not occur. -/
theorem classVariable_not_mem_terms (hf : focus.Accepted) (hpaths : u.occurrences.IriPaths)
    (hnested : u.occurrences.NestedWithout (.var focus.targetClass.name)) {b : Block}
    (hb : b ∈ (u.untyped.pattern focus objectPrefix).alternatives) :
    some (.var focus.targetClass.name) ∉ b.terms := by
  intro hmem
  obtain ⟨e, he, hterm⟩ := List.mem_flatMap.1 hmem
  have hplace := Focus.term_below_ne_targetClass hf objectPrefix
  rcases mem_pattern_cases hb he with ⟨place, htypes⟩ | ⟨place, hlive, rfl⟩
  · obtain ⟨s, hs, helement⟩ := Occurrences.mem_typesAt.1 htypes
    cases place with
    | nil =>
      -- the shape itself has no classes here
      cases hs
      cases helement
    | cons n rest =>
      rw [occurrences_untyped_cons] at hs
      obtain ⟨x, hx, hcases⟩ := terms_typeElements helement hterm
      cases hx
      rcases hcases with hfocus | hrdf | ⟨hclass, _⟩ | htarget
      · exact hplace _ hfocus.symm
      · cases hrdf
      · rw [Focus.term_targetClass hf, Term.var.injEq] at hclass
        have hroot : ([] : List Nat) = n :: rest :=
          @Focus.name_targetClass_injective focus objectPrefix [] (n :: rest) hclass
        cases hroot
      · exact hnested _ s (List.cons_ne_nil n rest) hs htarget
  · simp only [Element.terms, Occurrences.tripleAt, List.mem_cons, List.not_mem_nil, or_false]
      at hterm
    rcases hterm with hsubject | hpredicate | hobject
    · exact hplace _ (Option.some.inj hsubject).symm
    · obtain ⟨s, p, hs, hmem, hp⟩ := hlive.exists_path
      have hiri := iriPaths_untyped hpaths _ s hs p hmem
      rw [hp, Option.join_some] at hpredicate
      rw [← hpredicate] at hiri
      cases hiri
    · exact hplace _ (Option.some.inj hobject).symm

/-- Up to the value of its class variable, a solution for several classes is a solution for one of
them. -/
theorem exists_solves_pattern_iff (hf : focus.Accepted) (htargets : 2 ≤ u.targets.length)
    (hiris : ∀ c ∈ u.targets, c.isIri = true) (hpaths : u.occurrences.IriPaths)
    (hnested : u.occurrences.NestedWithout (.var focus.targetClass.name)) {g : Graph}
    {μ : Solution} :
    (∃ ν, (u.pattern focus objectPrefix).Solves g ν ∧ ν.put focus.targetClass.name none = μ) ↔
      ∃ c ∈ u.targets, (pattern ⟨[c], u.branches⟩ focus objectPrefix).Solves g μ := by
  have hclass : focus.targetClass.term = .var focus.targetClass.name :=
    Focus.term_targetClass hf objectPrefix []
  have hfocus : focus.term ≠ .var focus.targetClass.name :=
    Focus.term_below_ne_targetClass hf objectPrefix []
  -- for one block behind the types this is known; what remains is to go through the alternatives
  have hblock {b : Block} (hb : b ∈ (u.untyped.pattern focus objectPrefix).alternatives) :=
    @exists_solves_several_iff g b focus _ _ htargets hiris hclass hfocus
      (classVariable_not_mem_terms hf hpaths hnested hb) μ
  have hsingle (c : Term) : (pattern ⟨[c], u.branches⟩ focus objectPrefix).alternatives =
      (u.untyped.pattern focus objectPrefix).alternatives.map
        (Block.prepend (typeElements [c] focus)) := alternatives_pattern ⟨[c], u.branches⟩ _ _
  simp only [Pattern.Solves, alternatives_pattern u, hsingle, List.mem_map]
  constructor
  · rintro ⟨ν, ⟨_, ⟨b, hb, rfl⟩, hν⟩, rfl⟩
    obtain ⟨c, hc, hμ⟩ := (hblock hb).1 ⟨ν, hν, rfl⟩
    exact ⟨c, hc, _, ⟨b, hb, rfl⟩, hμ⟩
  · rintro ⟨c, hc, _, ⟨b, hb, rfl⟩, hμ⟩
    obtain ⟨ν, hν, heq⟩ := (hblock hb).2 ⟨c, hc, hμ⟩
    exact ⟨ν, ⟨_, ⟨b, hb, rfl⟩, hν⟩, heq⟩

end Unfolding

/-! ## 4. Other classes for a shape of a table -/

namespace ShapeTable

def withTargets (tbl : ShapeTable) (root : Nat) (targets : List Term) : ShapeTable :=
  tbl.modify root fun s => { s with targets := targets }

variable {tbl : ShapeTable} {root : Nat} {targets : List Term}

theorem length_withTargets : (tbl.withTargets root targets).length = tbl.length :=
  List.length_modify ..

theorem getElem?_withTargets_of_ne {i : Nat} (h : i ≠ root) :
    (tbl.withTargets root targets)[i]? = tbl[i]? :=
  List.getElem?_modify_ne _ _ (Ne.symm h)

theorem getElem?_withTargets_self :
    (tbl.withTargets root targets)[root]? =
      (tbl[root]?).map fun s => { s with targets := targets } :=
  List.getElem?_modify_eq ..

theorem key_withTargets (i : Nat) : (tbl.withTargets root targets).key i = tbl.key i := by
  unfold key
  by_cases hi : i = root
  · rw [hi, getElem?_withTargets_self, Option.bind_map]
    rfl
  · rw [getElem?_withTargets_of_ne hi]

theorem descent_withTargets {path : List ShapeKey} (hpath : tbl.key root ∈ path)
    (hbelow : ∀ j, (tbl.withTargets root targets).unfoldBelow path j = tbl.unfoldBelow path j)
    (p : PropertyShape) : (tbl.withTargets root targets).descent path p = tbl.descent path p := by
  unfold descent
  congr 2
  funext j
  by_cases hj : j = root
  · -- the shape is on the way to itself and not entered, whatever its classes are
    rw [hj, getElem?_withTargets_self, key_withTargets]
    cases tbl[root]? with
    | none => rfl
    | some s => simp [hpath]
  · rw [getElem?_withTargets_of_ne hj, key_withTargets, hbelow]

/-- Below a shape its classes do not matter. -/
theorem unfoldBelow_withTargets (above : List ShapeKey) (habove : tbl.key root ∈ above) (i : Nat) :
    (tbl.withTargets root targets).unfoldBelow above i = tbl.unfoldBelow above i := by
  -- entering a shape leaves fewer keys to enter
  induction hn : tbl.fresh above using Nat.strongRecOn generalizing above i with
  | ind n ih =>
    by_cases hi : i < tbl.length ∧ tbl.key i ∉ above
    · have hne : i ≠ root := fun heq => hi.2 (heq ▸ habove)
      have hlength : i < (tbl.withTargets root targets).length := by
        rw [length_withTargets]
        exact hi.1
      have hkey : (tbl.withTargets root targets).key i ∉ above := by
        rw [key_withTargets]
        exact hi.2
      have hget : (tbl.withTargets root targets)[i] = tbl[i] := by
        apply Option.some.inj
        rw [← List.getElem?_eq_getElem, ← List.getElem?_eq_getElem, getElem?_withTargets_of_ne hne]
      have hbelow (j : Nat) : (tbl.withTargets root targets).unfoldBelow (tbl.key i :: above) j =
          tbl.unfoldBelow (tbl.key i :: above) j :=
        ih _ (hn ▸ fresh_lt hi.1 hi.2) _ (List.mem_cons_of_mem _ habove) j rfl
      rw [unfoldBelow_eq hlength hkey, unfoldBelow_eq hi.1 hi.2, hget, key_withTargets]
      simp only [descent_withTargets (List.mem_cons_of_mem _ habove) hbelow]
    · have hi' : ¬ (i < (tbl.withTargets root targets).length ∧
          (tbl.withTargets root targets).key i ∉ above) := by
        rw [length_withTargets, key_withTargets]
        exact hi
      rw [unfoldBelow, dif_neg hi', unfoldBelow, dif_neg hi]

/-- Other classes of a shape leave everything nested in it as it is. -/
theorem unfold_withTargets (hroot : root < tbl.length) :
    (tbl.withTargets root targets).unfold root = ⟨targets, (tbl.unfold root).branches⟩ := by
  have hlength : root < (tbl.withTargets root targets).length := by
    rw [length_withTargets]
    exact hroot
  have hget : (tbl.withTargets root targets)[root] = { tbl[root] with targets := targets } := by
    apply Option.some.inj
    rw [← List.getElem?_eq_getElem, getElem?_withTargets_self, List.getElem?_eq_getElem hroot]
    rfl
  have hbelow (j : Nat) : (tbl.withTargets root targets).unfoldBelow [tbl.key root] j =
      tbl.unfoldBelow [tbl.key root] j := unfoldBelow_withTargets _ List.mem_cons_self j
  rw [unfold, unfold, unfoldBelow_eq hlength List.not_mem_nil,
    unfoldBelow_eq hroot List.not_mem_nil, hget, key_withTargets]
  simp only [descent_withTargets List.mem_cons_self hbelow]
  rfl

end ShapeTable

/-! ## 5. Several classes and each of them -/

theorem ShapeTable.iriPaths_occurrences {tbl : ShapeTable}
    (h : ∀ s ∈ tbl, ∀ q ∈ s.active, q.path.any Term.isIri = true) (root : Nat) :
    (tbl.occurrences root).IriPaths := by
  intro path o ho p hp
  obtain ⟨s, hs, rfl⟩ := exists_mem_of_occurrences ho
  obtain ⟨q, hq, rfl⟩ := List.mem_map.1 hp
  exact h s hs q hq

/-- The solutions for a shape with several classes, without the value of its class variable, are the
solutions for the shape with one of these classes in their place. The classes of nested shapes may
be any terms but this variable. -/
theorem several_classes_solve_as_each (tbl : ShapeTable) (root : Nat) (s : NodeShape)
    (hs : tbl[root]? = some s) (hseveral : 2 ≤ s.targets.length)
    (htargets : ∀ c ∈ s.targets, c.isIri = true) (hpaths : (tbl.occurrences root).IriPaths)
    (name : String) (focus : Focus) (hfocus : Focus.resolve (some name) none = .ok focus)
    (objectPrefix : String)
    (hnested : (tbl.occurrences root).NestedWithout (.var focus.targetClass.name)) :
    ∃ c : Compiled, ((tbl.unfold root).compile (some name) none objectPrefix).result = .ok c ∧
      ((tbl.unfold root).compileWhere (some name) objectPrefix).result = .ok c.wherePattern ∧
      ∀ (g : DataGraph) (μ : Solution),
        (∃ ν, c.wherePattern.Solves g.toGraph ν ∧ ν.put focus.targetClass.name none = μ) ↔
        ∃ cls ∈ s.targets, ∃ q, (((tbl.withTargets root [cls]).unfold root).compileWhere
          (some name) objectPrefix).result = .ok q ∧ q.Solves g.toGraph μ := by
  obtain ⟨hroot, _⟩ := List.getElem?_eq_some_iff.1 hs
  have hf := Focus.accepted_of_resolve hfocus
  have htypes : (tbl.unfold root).targets = s.targets :=
    congrArg Occurrence.targets (ShapeTable.occurrence_unfold hs)
  rw [← ShapeTable.occurrences_unfold hroot] at hpaths hnested
  rw [← htypes] at hseveral htargets ⊢
  refine ⟨_, Unfolding.compile_result _ hfocus objectPrefix,
    Unfolding.compileWhere_result _ hfocus objectPrefix, fun g μ => ?_⟩
  simp only [Unfolding.query, Pattern.solves_collapse]
  rw [Unfolding.exists_solves_pattern_iff hf hseveral htargets hpaths hnested]
  refine exists_congr fun cls => and_congr_right fun _ => ?_
  -- with one class in place of several the root unfolds to the same branches
  rw [ShapeTable.unfold_withTargets hroot, Unfolding.compileWhere_result _ hfocus objectPrefix]
  constructor
  · intro hsolves
    exact ⟨_, rfl, Pattern.solves_collapse.2 hsolves⟩
  · rintro ⟨q, hq, hsolves⟩
    cases hq
    exact Pattern.solves_collapse.1 hsolves

theorem several_classes_solve_personShapes :
    personShapes[0]? = some personShape ∧ 2 ≤ personShape.targets.length ∧
    (∀ c ∈ personShape.targets, c.isIri = true) ∧ (personShapes.occurrences 0).IriPaths ∧
    Focus.resolve (some "$person") none = .ok ⟨.var "person", "person"⟩ ∧
    (personShapes.occurrences 0).NestedWithout (.var "person_targetClass") ∧
    ∃ c : Compiled, ((personShapes.unfold 0).compile (some "$person") none "p").result = .ok c ∧
      ((personShapes.unfold 0).compileWhere (some "$person") "p").result = .ok c.wherePattern ∧
      ∀ (g : DataGraph) (μ : Solution),
        (∃ ν, c.wherePattern.Solves g.toGraph ν ∧ ν.put "person_targetClass" none = μ) ↔
        ∃ cls ∈ personShape.targets, ∃ q,
          (((personShapes.withTargets 0 [cls]).unfold 0).compileWhere (some "$person") "p").result =
            .ok q ∧ q.Solves g.toGraph μ := by
  have hseveral : 2 ≤ personShape.targets.length := by decide
  have htargets : ∀ c ∈ personShape.targets, c.isIri = true := by decide
  have hpaths : (personShapes.occurrences 0).IriPaths :=
    ShapeTable.iriPaths_occurrences (by decide) 0
  have hfocus : Focus.resolve (some "$person") none = .ok ⟨.var "person", "person"⟩ := by decide
  have hnested : (personShapes.occurrences 0).NestedWithout (.var "person_targetClass") := by
    intro path o _ ho
    obtain ⟨s, hs, rfl⟩ := ShapeTable.exists_mem_of_occurrences ho
    have hall : ∀ s ∈ personShapes, .var "person_targetClass" ∉ s.targets := by decide
    exact hall s hs
  exact ⟨rfl, hseveral, htargets, hpaths, hfocus, hnested, several_classes_solve_as_each
    personShapes 0 personShape rfl hseveral htargets hpaths "$person" _ hfocus "p" hnested⟩

def groupShape : NodeShape where
  id := none
  targets := [exampleTerm "Team", exampleTerm "Club"]
  properties := [⟨some (exampleTerm "member"), false, some 1⟩]

/-- Groups with members, the class of a member being the variable that groups get for theirs. -/
def groupShapes : ShapeTable := [groupShape, ⟨none, [.var "x_targetClass"], []⟩]

def groupData : DataGraph where
  triples := [⟨exampleTerm "group", rdfType, exampleTerm "Team"⟩,
    ⟨exampleTerm "group", exampleTerm "member", exampleTerm "ada"⟩,
    ⟨exampleTerm "ada", rdfType, exampleTerm "Person"⟩]
  isData := by decide

def teamBlock : Block :=
  ⟨[.triple ⟨some (.var "x"), some rdfType, some (exampleTerm "Team")⟩,
    .triple ⟨some (.var "x"), some (exampleTerm "member"), some (.var "x_0")⟩,
    .triple ⟨some (.var "x_0"), some rdfType, some (.var "x_targetClass")⟩]⟩

/-- The class of the member is found when teams are asked for alone; with clubs beside them the
variable is taken, and it has no value once that of the group is left out. -/
theorem groupShapes_class_captured :
    groupShapes[0]? = some groupShape ∧ 2 ≤ groupShape.targets.length ∧
    (∀ c ∈ groupShape.targets, c.isIri = true) ∧ (groupShapes.occurrences 0).IriPaths ∧
    Focus.resolve (some "x") none = .ok ⟨.var "x", "x"⟩ ∧
    ∃ p, ((groupShapes.unfold 0).compileWhere (some "x") "").result = .ok p ∧
      ∃ μ : Solution,
        (∃ cls ∈ groupShape.targets, ∃ q,
          (((groupShapes.withTargets 0 [cls]).unfold 0).compileWhere (some "x") "").result = .ok q ∧
            q.Solves groupData.toGraph μ) ∧
        ¬ ∃ ν, p.Solves groupData.toGraph ν ∧ ν.put "x_targetClass" none = μ := by
  have hfocus : Focus.resolve (some "x") none = .ok ⟨.var "x", "x"⟩ := by decide
  let μ : Solution := fun name =>
    if name = "x" then some (exampleTerm "group")
    else if name = "x_0" then some (exampleTerm "ada")
    else if name = "x_targetClass" then some (exampleTerm "Person") else none
  refine ⟨rfl, by decide, by decide, ShapeTable.iriPaths_occurrences (by decide) 0, hfocus, _,
    Unfolding.compileWhere_result _ hfocus "", μ, ⟨exampleTerm "Team", List.mem_cons_self, _,
      Unfolding.compileWhere_result _ hfocus "", teamBlock, by decide +kernel, ?_⟩, ?_⟩
  · refine ⟨fun name => ?_, fun t ht => ?_, fun term values hfilter => ?_⟩
    · have hvariables : teamBlock.variables = ["x", "x", "x_0", "x_0", "x_targetClass"] := by decide
      rw [hvariables]
      by_cases hx : name = "x" <;> by_cases hx0 : name = "x_0" <;>
        by_cases hclass : name = "x_targetClass" <;> simp [μ, hx, hx0, hclass]
    · -- the three triples of the data, one after the other
      have hmem := Block.mem_triples.1 ht
      simp only [teamBlock, List.mem_cons, List.not_mem_nil, or_false, Element.triple.injEq] at hmem
      rcases hmem with rfl | rfl | rfl
      · exact ⟨_, List.mem_cons_self, rfl⟩
      · exact ⟨_, List.mem_cons_of_mem _ List.mem_cons_self, rfl⟩
      · exact ⟨_, List.mem_cons_of_mem _ (List.mem_cons_of_mem _ List.mem_cons_self), rfl⟩
    · simp [teamBlock] at hfilter
  · -- the solution above has a value for the class variable, which is taken away here
    rintro ⟨ν, _, hput⟩
    have hnone := Solution.put_self ν "x_targetClass" none
    rw [hput] at hnone
    cases hnone

end ShaclQuery
