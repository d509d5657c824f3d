import ShaclQuery.Proofs.Construct

/-! # Soundness of CONSTRUCT queries

A query is sound when it constructs triples of the data only. This holds exactly when no shape below
the root has a single target class. When some shape has one, the block that ends at the property
leading to it is turned into data: its variables become blank nodes, and the variables of classes
one of their classes. The block has a solution there, which says nothing about the class of the last
place.
-/

namespace ShaclQuery

/-! ## 1. Data made from a block -/

def Term.ground (v : String → Term) : Term → Term
  | .var name => v name
  | t => t

namespace Block

def assignment (b : Block) (v : String → Term) : Solution := fun name =>
  if name ∈ b.variables then some (v name) else none

def frozen (b : Block) (v : String → Term) : Graph :=
  ⟨b.triples.filterMap (b.assignment v).instantiate⟩

/-- With these values the triples of a block are data and its filters hold. -/
structure Freezes (b : Block) (v : String → Term) : Prop where
  triples : ∀ t ∈ b.triples, ∃ s p o, t = ⟨some s, some p, some o⟩ ∧
    (⟨s.ground v, p.ground v, o.ground v⟩ : Triple).isData = true
  filters : ∀ term values, .oneOf term values ∈ b.elements →
    ∃ name, term = some (.var name) ∧ name ∈ b.variables ∧ some (v name) ∈ values

variable {b : Block} {v : String → Term}

theorem value_assignment {t : TriplePattern} (ht : t ∈ b.triples) {x : Term}
    (hx : t.subject = some x ∨ t.predicate = some x ∨ t.object = some x) :
    (b.assignment v).value (some x) = some (x.ground v) := by
  cases x with
  | var name =>
    have hname : name ∈ b.variables :=
      List.mem_flatMap.2 ⟨t, ht, TriplePattern.mem_variables.2 hx⟩
    show b.assignment v name = some (v name)
    unfold assignment
    rw [if_pos hname]
  | iri text => rfl
  | blank label => rfl
  | literal l => rfl

theorem instantiate_assignment {s p o : Term} (ht : ⟨some s, some p, some o⟩ ∈ b.triples) :
    (b.assignment v).instantiate ⟨some s, some p, some o⟩ =
      some ⟨s.ground v, p.ground v, o.ground v⟩ := by
  rw [Solution.instantiate_eq_some_iff]
  exact ⟨value_assignment ht (Or.inl rfl), value_assignment ht (Or.inr (Or.inl rfl)),
    value_assignment ht (Or.inr (Or.inr rfl))⟩

/-- Values under which the triples of a block lie in a graph and its filters hold are a solution. -/
theorem solves_assignment {g : Graph}
    (htriples : ∀ t ∈ b.triples, ∃ s p o, t = ⟨some s, some p, some o⟩ ∧
      ⟨s.ground v, p.ground v, o.ground v⟩ ∈ g.triples)
    (hfilters : ∀ term values, .oneOf term values ∈ b.elements →
      ∃ name, term = some (.var name) ∧ name ∈ b.variables ∧ some (v name) ∈ values) :
    b.Solves g (b.assignment v) where
  domain name := by
    unfold assignment
    by_cases hname : name ∈ b.variables
    · simp [hname]
    · simp [hname]
  triples t ht := by
    obtain ⟨s, p, o, rfl, hmem⟩ := htriples t ht
    exact ⟨_, hmem, instantiate_assignment ht⟩
  filters term values hfilter := by
    obtain ⟨name, rfl, hname, hvalue⟩ := hfilters term values hfilter
    refine ⟨v name, ?_, hvalue⟩
    rw [Solution.value_var, assignment, if_pos hname]

namespace Freezes

variable (h : b.Freezes v)

include h

theorem mem_frozen {u : Triple} (hu : u ∈ (b.frozen v).triples) :
    ∃ s p o, ⟨some s, some p, some o⟩ ∈ b.triples ∧
      u = ⟨s.ground v, p.ground v, o.ground v⟩ ∧ u.isData = true := by
  obtain ⟨t, ht, hinst⟩ := List.mem_filterMap.1 hu
  obtain ⟨s, p, o, rfl, hdata⟩ := h.triples t ht
  rw [instantiate_assignment ht, Option.some.injEq] at hinst
  exact ⟨s, p, o, ht, hinst.symm, hinst ▸ hdata⟩

/-- A block has a solution on the data made from it. -/
theorem solves : b.Solves (b.frozen v) (b.assignment v) := by
  refine solves_assignment (fun t ht => ?_) h.filters
  obtain ⟨s, p, o, rfl, _⟩ := h.triples t ht
  exact ⟨s, p, o, rfl, List.mem_filterMap.2 ⟨_, ht, instantiate_assignment ht⟩⟩

end Freezes

end Block

/-! ## 2. Freezing the block of a place -/

namespace Occurrences

variable {o : Occurrences} {focus : Focus} {objectPrefix : String} {v : String → Term}

/-- Values for the variables of a shape: places are blank nodes, and the class of a place is one of
the target classes there. -/
structure Values (o : Occurrences) (focus : Focus) (objectPrefix : String) (v : String → Term) :
    Prop where
  place : ∀ place, v (focus.below objectPrefix place).name =
    .blank (focus.below objectPrefix place).name
  targetClass : ∀ place s, o place = some s → 2 ≤ s.targets.length →
    v (focus.below objectPrefix place).targetClass.name ∈ s.targets

/-- Every name has one use at most, so that a value can be chosen for each. -/
theorem exists_values (o : Occurrences) (focus : Focus) (objectPrefix : String) :
    ∃ v, o.Values focus objectPrefix v := by
  have hvalue (name : String) : ∃ t : Term,
      (∀ place, name = (focus.below objectPrefix place).name → t = .blank name) ∧
      ∀ place s, o place = some s → 2 ≤ s.targets.length →
        name = (focus.below objectPrefix place).targetClass.name → t ∈ s.targets := by
    by_cases hclass : ∃ place s, o place = some s ∧ 2 ≤ s.targets.length ∧
        name = (focus.below objectPrefix place).targetClass.name
    · obtain ⟨place, s, hs, hlength, rfl⟩ := hclass
      obtain ⟨c, hc⟩ := List.exists_mem_of_length_pos (show 0 < s.targets.length by omega)
      refine ⟨c, ?_, ?_⟩
      · intro other hother
        exact absurd hother (Focus.name_targetClass_ne place other)
      · -- the name of a class belongs to one place
        intro other s' hs' _ hother
        rw [← Focus.name_targetClass_injective hother, hs] at hs'
        exact Option.some.inj hs' ▸ hc
    · refine ⟨.blank name, fun _ _ => rfl, ?_⟩
      intro place s hs hlength hname
      exact absurd ⟨place, s, hs, hlength, hname⟩ hclass
  -- one value for every name, whichever of the two kinds the name is of
  choose v hv using hvalue
  exact ⟨v, fun place => (hv _).1 place rfl,
    fun place s hs hlength => (hv _).2 place s hs hlength rfl⟩

namespace Values

variable (hv : o.Values focus objectPrefix v) (hf : focus.Accepted)

include hv hf

theorem ground_below (place : List Nat) :
    (focus.below objectPrefix place).term.ground v = .blank (focus.below objectPrefix place).name ∨
      ∃ text, (focus.below objectPrefix place).term.ground v = .iri text := by
  by_cases hplace : place = []
  · subst hplace
    rcases hf.term with hvar | ⟨text, htext⟩
    · left
      show focus.term.ground v = _
      rw [hvar]
      exact hv.place []
    · right
      refine ⟨text, ?_⟩
      show focus.term.ground v = _
      rw [htext]
      rfl
  · left
    rw [Focus.term_below hf objectPrefix hplace]
    exact hv.place place

theorem isData_below (place : List Nat) {p x : Term} (hp : p.isIri = true)
    (hx : x.isVariable = false) :
    (⟨(focus.below objectPrefix place).term.ground v, p, x⟩ : Triple).isData = true := by
  unfold Triple.isData
  rcases hv.ground_below hf place with hblank | ⟨text, htext⟩
  · simp [hblank, hp, hx, Term.isBlank]
  · have hiri : (Term.iri text).isIri = true := rfl
    simp [htext, hiri, hp, hx]

theorem isData_types (ho : o.IrisOnly) {place : List Nat} {t : TriplePattern}
    (ht : .triple t ∈ o.typesAt focus objectPrefix place) :
    ∃ s p x, t = ⟨some s, some p, some x⟩ ∧
      (⟨s.ground v, p.ground v, x.ground v⟩ : Triple).isData = true := by
  obtain ⟨s, hs, helement⟩ := mem_typesAt.1 ht
  rcases triple_mem_typeElements.1 helement with ⟨c, hc, rfl⟩ | ⟨hlength, rfl⟩
  · obtain ⟨text, rfl⟩ := ho.exists_iri_of_single hs hc
    exact ⟨_, _, _, rfl, hv.isData_below hf place rfl rfl⟩
  · have hclass := hv.targetClass place s hs hlength
    obtain ⟨text, htext⟩ := Term.isIri_iff.1 ((ho place s hs).1 _ hclass)
    refine ⟨_, _, _, rfl, hv.isData_below hf place rfl ?_⟩
    rw [Focus.term_targetClass hf, Term.ground, htext]
    rfl

/-- The filter on a class holds, and the triple in front of it binds its variable. -/
theorem oneOf_types {place : List Nat} {term : Option Term} {values : List (Option Term)}
    (h : .oneOf term values ∈ o.typesAt focus objectPrefix place) :
    ∃ name, term = some (.var name) ∧ some (v name) ∈ values ∧
      ∃ t, .triple t ∈ o.typesAt focus objectPrefix place ∧ name ∈ t.variables := by
  obtain ⟨s, hs, helement⟩ := mem_typesAt.1 h
  obtain ⟨hlength, rfl, rfl⟩ := oneOf_mem_typeElements.1 helement
  have hterm := Focus.term_targetClass hf objectPrefix place
  have hclass := hv.targetClass place s hs hlength
  refine ⟨_, congrArg some hterm, List.mem_map.2 ⟨_, hclass, rfl⟩, _, mem_typesAt.2 ⟨s, hs,
    triple_mem_typeElements.2 (Or.inr ⟨hlength, rfl⟩)⟩, ?_⟩
  exact TriplePattern.mem_variables.2 (Or.inr (Or.inr (congrArg some hterm)))

end Values

/-- The triples of a block have the places before the end of its path as subjects. -/
theorem subject_of_mem_blockAt {path : List Nat} {t : TriplePattern}
    (ht : t ∈ (o.blockAt focus objectPrefix path).triples) :
    ∃ front n rest, path = front ++ n :: rest ∧
      t.subject = some (focus.below objectPrefix front).term := by
  obtain ⟨front, n, rest, hpath, htypes | htriple⟩ := mem_blockAt.1 (Block.mem_triples.1 ht)
  · obtain ⟨s, _, helement⟩ := mem_typesAt.1 htypes
    rcases triple_mem_typeElements.1 helement with ⟨c, _, rfl⟩ | ⟨_, rfl⟩
    · exact ⟨front, n, rest, hpath, rfl⟩
    · exact ⟨front, n, rest, hpath, rfl⟩
  · obtain rfl := Element.triple.inj htriple
    refine ⟨front, n, rest, hpath, ?_⟩
    show some (focus.below objectPrefix (front ++ [n]).dropLast).term = _
    rw [List.dropLast_concat]

/-- The data made from a block say nothing about the value of its last place. -/
theorem subject_ne_of_mem_frozen (hv : o.Values focus objectPrefix v) (hf : focus.Accepted)
    {path : List Nat} (hfreezes : (o.blockAt focus objectPrefix path).Freezes v) {u : Triple}
    (hu : u ∈ ((o.blockAt focus objectPrefix path).frozen v).triples) :
    u.subject ≠ .blank (focus.below objectPrefix path).name := by
  obtain ⟨s, p, x, ht, rfl, _⟩ := hfreezes.mem_frozen hu
  obtain ⟨front, n, rest, hpath, hsubject⟩ := subject_of_mem_blockAt ht
  obtain rfl : s = (focus.below objectPrefix front).term := Option.some.inj hsubject
  show (focus.below objectPrefix front).term.ground v ≠ _
  rcases hv.ground_below hf front with hblank | ⟨text, htext⟩
  · rw [hblank]
    intro heq
    -- different places have different names, and this one is before the end
    have hsame : front = path := Focus.name_below_injective (Term.blank.inj heq)
    have hlength := congrArg List.length hpath
    rw [← hsame] at hlength
    simp at hlength
  · rw [htext]
    intro heq
    cases heq

end Occurrences

namespace Unfolding

variable {u : Unfolding} {focus : Focus} {objectPrefix : String} {v : String → Term}

theorem exists_occurrence_append {front rest : List Nat} {s : Occurrence}
    (hs : u.occurrences (front ++ rest) = some s) : ∃ s', u.occurrences front = some s' := by
  induction front generalizing u with
  | nil => exact ⟨_, occurrences_nil u⟩
  | cons n front ih =>
    rw [List.cons_append, occurrences_cons] at hs
    obtain ⟨w, hw, hs⟩ := Option.bind_eq_some_iff.1 hs
    rw [occurrences_cons, hw]
    exact ih hs

theorem live_of_occurrence_append {front rest : List Nat} {n : Nat} {s : Occurrence}
    (hs : u.occurrences (front ++ n :: rest) = some s) : u.occurrences.Live (front ++ [n]) := by
  have hway : front ++ n :: rest = (front ++ [n]) ++ rest := by simp
  obtain ⟨s', hs'⟩ := exists_occurrence_append (hway ▸ hs)
  exact live_of_occurrence hs' (by simp)

/-- The block of a place where a shape stands can be made into data. -/
theorem freezes_blockAt (ho : u.occurrences.IrisOnly) (hf : focus.Accepted)
    (hv : u.occurrences.Values focus objectPrefix v) {path : List Nat} {s : Occurrence}
    (hs : u.occurrences path = some s) :
    (u.occurrences.blockAt focus objectPrefix path).Freezes v where
  triples t ht := by
    obtain ⟨front, n, rest, hpath, htypes | htriple⟩ :=
      Occurrences.mem_blockAt.1 (Block.mem_triples.1 ht)
    · exact hv.isData_types hf ho htypes
    · obtain rfl := Element.triple.inj htriple
      subst hpath
      -- the place is on the way to a shape, so a property leads to it
      obtain ⟨text, htext⟩ := Occurrences.exists_iri_of_live ho (live_of_occurrence_append hs)
      refine ⟨(focus.below objectPrefix front).term, .iri text,
        (focus.below objectPrefix (front ++ [n])).term, ?_, hv.isData_below hf front rfl ?_⟩
      · rw [Occurrences.tripleAt, htext, List.dropLast_concat]
      · rw [Focus.term_below hf objectPrefix (by simp), Term.ground, hv.place]
        rfl
  filters term values hfilter := by
    obtain ⟨front, n, rest, hpath, htypes | htriple⟩ := Occurrences.mem_blockAt.1 hfilter
    · obtain ⟨name, hterm, hvalue, t, ht, hname⟩ := hv.oneOf_types hf htypes
      have hblock : .triple t ∈ (u.occurrences.blockAt focus objectPrefix path).elements :=
        Occurrences.mem_blockAt.2 ⟨front, n, rest, hpath, Or.inl ht⟩
      exact ⟨name, hterm, List.mem_flatMap.2 ⟨t, Block.mem_triples.2 hblock, hname⟩, hvalue⟩
    · cases htriple

/-- A shape below the root with a single target class makes the query construct a triple that is not
in the data. -/
theorem exists_constructs_not_mem (ho : u.occurrences.IrisOnly) (hf : focus.Accepted)
    {path : List Nat} (hpath : path ≠ []) {s : Occurrence} (hs : u.occurrences path = some s)
    {c : Term} (hc : s.targets = [c]) :
    ∃ (g : DataGraph) (t : Triple),
      (u.query focus objectPrefix).Constructs g.toGraph t ∧ t ∉ g.triples := by
  -- the data is the block of the path itself, with a blank node of its own for every place
  obtain ⟨v, hv⟩ := u.occurrences.exists_values focus objectPrefix
  have hfreezes := freezes_blockAt ho hf hv hs
  have hdata : ∀ t ∈ ((u.occurrences.blockAt focus objectPrefix path).frozen v).triples,
      t.isData = true := fun t ht => by
    obtain ⟨_, _, _, _, _, hdata⟩ := hfreezes.mem_frozen ht
    exact hdata
  have hblock : u.occurrences.blockAt focus objectPrefix path ∈
      (u.query focus objectPrefix).wherePattern.alternatives := by
    rw [alternatives_query, mem_alternatives_pattern]
    exact Or.inl ⟨path, live_of_occurrence hs hpath, Occurrences.mem_alternativesAt.2 (Or.inl rfl)⟩
  have hlast : (u.occurrences.blockAt focus objectPrefix path).elements.getLast? =
      some (.triple (u.occurrences.tripleAt focus objectPrefix path)) :=
    Occurrences.getLast?_blockAt hpath
  have hvalue := Block.value_assignment (v := v)
    (Block.mem_triples.2 (List.mem_of_getLast? hlast)) (Or.inr (Or.inr rfl))
  rw [Focus.term_below hf objectPrefix hpath, Term.ground, hv.place,
    ← Focus.term_below hf objectPrefix hpath] at hvalue
  refine ⟨⟨_, hdata⟩, ⟨.blank (focus.below objectPrefix path).name, rdfType, c⟩, ?_, ?_⟩
  · exact constructs_of_presumesClass ho hf ⟨path, s, c, _, hpath, hs, hc,
      ⟨_, hblock, hlast, _, hfreezes.solves, hvalue⟩, rfl, rfl⟩
  · intro hmem
    exact Occurrences.subject_ne_of_mem_frozen hv hf hfreezes hmem rfl

end Unfolding

/-! ## 3. When queries are sound -/

/-- A CONSTRUCT query over IRIs gives back triples of the data only, on all data, exactly when no
shape below the root has a single target class. -/
theorem construct_sound_iff_no_single_class (tbl : ShapeTable) (root : Nat)
    (hroot : root < tbl.length) (ho : (tbl.occurrences root).IrisOnly)
    (subjectVariable : Option String) (focusNode : Option Term) (focus : Focus)
    (hfocus : Focus.resolve subjectVariable focusNode = .ok focus) (objectPrefix : String) :
    ∃ c : Compiled,
      ((tbl.unfold root).compile subjectVariable focusNode objectPrefix).result = .ok c ∧
      ((∀ (g : DataGraph) (t : Triple), c.Constructs g.toGraph t → t ∈ g.triples) ↔
        ∀ path s, path ≠ [] → tbl.occurrences root path = some s → s.targets.length ≠ 1) := by
  have hf := Focus.accepted_of_resolve hfocus
  rw [← ShapeTable.occurrences_unfold hroot] at ho ⊢
  refine ⟨_, Unfolding.compile_result _ hfocus objectPrefix, ?_, ?_⟩
  · intro hsound path s hpath hs hlength
    obtain ⟨c, hc⟩ := List.length_eq_one_iff.1 hlength
    obtain ⟨g, t, hconstructs, hnot⟩ := Unfolding.exists_constructs_not_mem ho hf hpath hs hc
    exact hnot (hsound g t hconstructs)
  · intro hseveral g t hconstructs
    rcases Unfolding.matches_or_presumesClass ho hf hconstructs with hmatches | hclass
    · obtain ⟨b, _, μ, hμ, p, hp, hinst⟩ := hmatches
      exact hμ.mem_of_instantiate hp hinst
    · obtain ⟨path, s, cls, x, hpath, hs, hcls, _⟩ := hclass
      exact absurd (by rw [hcls]; rfl) (hseveral path s hpath hs)

theorem construct_sound_iff_personShapes :
    0 < personShapes.length ∧ (personShapes.occurrences 0).IrisOnly ∧
    Focus.resolve none (some (exampleTerm "ada")) = .ok ⟨exampleTerm "ada", "resource"⟩ ∧
    ∃ c : Compiled,
      ((personShapes.unfold 0).compile none (some (exampleTerm "ada")) "").result = .ok c ∧
      ((∀ (g : DataGraph) (t : Triple), c.Constructs g.toGraph t → t ∈ g.triples) ↔
        ∀ path s, path ≠ [] → personShapes.occurrences 0 path = some s → s.targets.length ≠ 1) := by
  have hroot : 0 < personShapes.length := by decide
  have ho : (personShapes.occurrences 0).IrisOnly :=
    ShapeTable.irisOnly_occurrences (by decide) 0
  have hfocus : Focus.resolve none (some (exampleTerm "ada")) =
      .ok ⟨exampleTerm "ada", "resource"⟩ := by decide
  exact ⟨hroot, ho, hfocus,
    construct_sound_iff_no_single_class personShapes 0 hroot ho _ _ _ hfocus ""⟩

def memberShapes : ShapeTable :=
  [⟨none, [], [⟨some (exampleTerm "member"), false, some 1⟩]⟩, ⟨none, [exampleTerm "Person"], []⟩]

def memberTriple : TriplePattern :=
  ⟨some (.var "x"), some (exampleTerm "member"), some (.var "x_0")⟩

def memberClassTriple : TriplePattern :=
  ⟨some (.var "x_0"), some rdfType, some (exampleTerm "Person")⟩

def memberData : DataGraph where
  triples := [⟨exampleTerm "group", exampleTerm "member", exampleTerm "ada"⟩]
  isData := by decide

/-- The member of the group becomes a person, though the data do not say so. -/
theorem memberShapes_construct_not_sound :
    0 < memberShapes.length ∧ (memberShapes.occurrences 0).IrisOnly ∧
    Focus.resolve (some "x") none = .ok ⟨.var "x", "x"⟩ ∧
    ∃ c : Compiled, ((memberShapes.unfold 0).compile (some "x") none "").result = .ok c ∧
      c.Constructs memberData.toGraph ⟨exampleTerm "ada", rdfType, exampleTerm "Person"⟩ ∧
      (⟨exampleTerm "ada", rdfType, exampleTerm "Person"⟩ : Triple) ∉ memberData.triples := by
  refine ⟨by decide, ShapeTable.irisOnly_occurrences (by decide) 0, by decide,
    ⟨⟨.var "x", "x"⟩, .union [⟨[.triple memberTriple]⟩,
      ⟨[.triple memberTriple, .triple memberClassTriple]⟩], [memberTriple, memberClassTriple]⟩,
    by decide +kernel, ?_, by decide⟩
  let μ : Solution := fun name =>
    if name = "x" then some (exampleTerm "group")
    else if name = "x_0" then some (exampleTerm "ada") else none
  -- the first alternative asks only for the member
  have hμ : (⟨[.triple memberTriple]⟩ : Block).Solves memberData.toGraph μ := by
    refine ⟨fun name => ?_, fun t ht => ?_, fun term values hfilter => ?_⟩
    · have hvariables : (⟨[.triple memberTriple]⟩ : Block).variables = ["x", "x_0"] := by decide
      rw [hvariables]
      by_cases hx : name = "x" <;> by_cases hx0 : name = "x_0" <;> simp [μ, hx, hx0]
    · obtain rfl : t = memberTriple := List.mem_singleton.1 ht
      exact ⟨_, List.mem_singleton.2 rfl, rfl⟩
    · cases List.mem_singleton.1 hfilter
  exact ⟨by decide, μ, ⟨_, List.mem_cons_self, hμ⟩, memberClassTriple, by decide, rfl⟩

end ShaclQuery
