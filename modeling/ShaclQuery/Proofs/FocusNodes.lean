import ShaclQuery.Proofs.Soundness

/-! # Which focus nodes a shape matches

A term is a value of the focus in some solution exactly when it has one of the target classes of the
shape and a value for one of its properties. Every alternative begins with the types of the shape and
the triple of one of its properties, so no nested shape lets a further term in; and the alternative
that ends with that triple asks for nothing else, so no nested shape keeps a term out.
-/

namespace ShaclQuery

namespace Graph

/-- The term has one of the classes; without classes there is nothing to have. -/
def HasClass (g : Graph) (classes : List Term) (x : Term) : Prop :=
  classes = [] ∨ ∃ c ∈ classes, ⟨x, rdfType, c⟩ ∈ g.triples

/-- The term has a value for one of the paths; without paths there is nothing to have. -/
def HasValue (g : Graph) (paths : List (Option Term)) (x : Term) : Prop :=
  paths = [] ∨ ∃ p y, some p ∈ paths ∧ ⟨x, p, y⟩ ∈ g.triples

end Graph

/-! ## 1. What a solution says about the focus -/

section Solved

variable {g : Graph} {b : Block} {μ : Solution} {focus : Focus} {x : Term}

/-- A solution with the types of a shape in its block gives the focus one of the classes. -/
theorem hasClass_of_solves {targets : List Term} (hiris : ∀ c ∈ targets, c.isIri = true)
    (hμ : b.Solves g μ) (htypes : ∀ e ∈ typeElements targets focus, e ∈ b.elements)
    (hx : μ.value (some focus.term) = some x) : g.HasClass targets x := by
  rcases targets with _ | ⟨c, _ | ⟨d, rest⟩⟩
  · exact Or.inl rfl
  · right
    obtain ⟨text, rfl⟩ := Term.isIri_iff.1 (hiris c List.mem_cons_self)
    obtain ⟨u, hu, hinst⟩ := hμ.triples _ (Block.mem_triples.2 (htypes _ List.mem_cons_self))
    obtain ⟨hsubject, hpredicate, hobject⟩ := Solution.instantiate_eq_some_iff.1 hinst
    have htriple : u = ⟨x, rdfType, .iri text⟩ := by
      cases u
      simp_all [rdfType]
    exact ⟨.iri text, List.mem_cons_self, htriple ▸ hu⟩
  · -- the value of the class variable is one of the classes, by the filter
    right
    obtain ⟨u, hu, hinst⟩ := hμ.triples _ (Block.mem_triples.2 (htypes _ List.mem_cons_self))
    obtain ⟨cls, hcls, hmem⟩ := hμ.filters _ _ (htypes _ (List.mem_cons_of_mem _ List.mem_cons_self))
    obtain ⟨hsubject, hpredicate, hobject⟩ := Solution.instantiate_eq_some_iff.1 hinst
    have htriple : u = ⟨x, rdfType, cls⟩ := by
      cases u
      simp_all [rdfType]
    refine ⟨cls, ?_, htriple ▸ hu⟩
    simpa using hmem

theorem exists_value_of_solves {text : String} {value : Focus} (hμ : b.Solves g μ)
    (htriple : propertyTriple focus (some (.iri text)) value ∈ b.triples)
    (hx : μ.value (some focus.term) = some x) : ∃ y, ⟨x, .iri text, y⟩ ∈ g.triples := by
  obtain ⟨u, hu, hinst⟩ := hμ.triples _ htriple
  obtain ⟨hsubject, hpredicate, _⟩ := Solution.instantiate_eq_some_iff.1 hinst
  refine ⟨u.object, ?_⟩
  have heq : u = ⟨x, .iri text, u.object⟩ := by
    cases u
    simp_all [propertyTriple]
  exact heq ▸ hu

end Solved

/-! ## 2. A solution for a focus -/

def focusValues (focus : Focus) (x cls y : Term) : String → Term := fun name =>
  if name = focus.name then x else if name = focus.targetClass.name then cls else y

section Values

variable {g : Graph} {focus : Focus} {x cls y : Term}

theorem ground_focus (hvar : focus.term = .var focus.name) :
    focus.term.ground (focusValues focus x cls y) = x := by
  rw [hvar, Term.ground, focusValues, if_pos rfl]

theorem focusValues_targetClass (focus : Focus) (x cls y : Term) :
    focusValues focus x cls y focus.targetClass.name = cls := by
  have hne : focus.targetClass.name ≠ focus.name :=
    @Focus.name_targetClass_ne focus "" [] []
  rw [focusValues, if_neg hne, if_pos rfl]

theorem ground_object (hf : focus.Accepted) (n : Nat) (objectPrefix : String) :
    (focus.object n objectPrefix).term.ground (focusValues focus x cls y) = y := by
  have hroot : (focus.below objectPrefix [n]).name ≠ focus.name := by
    intro h
    change (focus.below objectPrefix [n]).name = (focus.below objectPrefix []).name at h
    cases Focus.name_below_injective h
  have hclass : (focus.below objectPrefix [n]).name ≠ focus.targetClass.name :=
    (@Focus.name_targetClass_ne focus objectPrefix [] [n]).symm
  rw [Focus.object_eq, Focus.term_below hf objectPrefix (List.cons_ne_nil n []), Term.ground,
    focusValues, if_neg hroot, if_neg hclass]

theorem class_of_two_le {targets : List Term}
    (hclass : targets = [] ∨ (cls ∈ targets ∧ ⟨x, rdfType, cls⟩ ∈ g.triples))
    (h : 2 ≤ targets.length) : cls ∈ targets ∧ ⟨x, rdfType, cls⟩ ∈ g.triples := by
  apply hclass.resolve_left
  intro hnil
  rw [hnil] at h
  cases h

theorem ground_types_mem (hf : focus.Accepted) (hvar : focus.term = .var focus.name)
    {targets : List Term} (hiris : ∀ c ∈ targets, c.isIri = true)
    (hclass : targets = [] ∨ (cls ∈ targets ∧ ⟨x, rdfType, cls⟩ ∈ g.triples)) {t : TriplePattern}
    (ht : .triple t ∈ typeElements targets focus) :
    ∃ s p o, t = ⟨some s, some p, some o⟩ ∧ ⟨s.ground (focusValues focus x cls y),
      p.ground (focusValues focus x cls y), o.ground (focusValues focus x cls y)⟩ ∈ g.triples := by
  rcases triple_mem_typeElements.1 ht with ⟨c, hc, rfl⟩ | ⟨hlength, rfl⟩
  · -- the only class is the one that the term has
    subst hc
    obtain ⟨text, rfl⟩ := Term.isIri_iff.1 (hiris c List.mem_cons_self)
    obtain ⟨hcls, hmem⟩ := hclass.resolve_left (List.cons_ne_nil _ _)
    rw [List.mem_singleton.1 hcls] at hmem
    refine ⟨_, _, _, rfl, ?_⟩
    rw [ground_focus hvar]
    exact hmem
  · have hterm : focus.targetClass.term.ground (focusValues focus x cls y) = cls := by
      rw [show focus.targetClass.term = .var _ from Focus.term_targetClass hf "" []]
      exact focusValues_targetClass focus x cls y
    refine ⟨_, _, _, rfl, ?_⟩
    rw [ground_focus hvar, hterm]
    exact (class_of_two_le hclass hlength).2

/-- Types and further triples have a solution with these values when the class and the triples are
in the graph. -/
theorem exists_solves_types_append (hf : focus.Accepted) (hvar : focus.term = .var focus.name)
    {targets : List Term} (hiris : ∀ c ∈ targets, c.isIri = true)
    (hclass : targets = [] ∨ (cls ∈ targets ∧ ⟨x, rdfType, cls⟩ ∈ g.triples))
    (more : List TriplePattern)
    (hmore : ∀ t ∈ more, ∃ s p o, t = ⟨some s, some p, some o⟩ ∧
      ⟨s.ground (focusValues focus x cls y), p.ground (focusValues focus x cls y),
        o.ground (focusValues focus x cls y)⟩ ∈ g.triples)
    (hfocus : ∃ t, .triple t ∈ typeElements targets focus ++ more.map .triple ∧
      t.subject = some focus.term) :
    ∃ μ, Block.Solves ⟨typeElements targets focus ++ more.map .triple⟩ g μ ∧
      μ.value (some focus.term) = some x := by
  refine ⟨_, Block.solves_assignment (v := focusValues focus x cls y) ?_ ?_, ?_⟩
  · intro t ht
    rcases List.mem_append.1 (Block.mem_triples.1 ht) with htypes | hrest
    · exact ground_types_mem hf hvar hiris hclass htypes
    · obtain ⟨t', ht', heq⟩ := List.mem_map.1 hrest
      exact hmore t (Element.triple.inj heq ▸ ht')
  · intro term values hfilter
    rcases List.mem_append.1 hfilter with htypes | hrest
    · obtain ⟨hlength, rfl, rfl⟩ := oneOf_mem_typeElements.1 htypes
      have hterm : some focus.targetClass.term = some (.var focus.targetClass.name) :=
        congrArg some (Focus.term_targetClass hf "" [])
      refine ⟨_, hterm, ?_, ?_⟩
      · -- the triple in front of the filter has the class variable
        have htriple : .triple ⟨some focus.term, some rdfType, some focus.targetClass.term⟩ ∈
            typeElements targets focus := triple_mem_typeElements.2 (Or.inr ⟨hlength, rfl⟩)
        refine List.mem_flatMap.2 ⟨_, Block.mem_triples.2 (List.mem_append_left _ htriple), ?_⟩
        exact TriplePattern.mem_variables.2 (Or.inr (Or.inr hterm))
      · rw [focusValues_targetClass]
        exact List.mem_map_of_mem (class_of_two_le hclass hlength).1
    · obtain ⟨t', _, heq⟩ := List.mem_map.1 hrest
      cases heq
  · obtain ⟨t, ht, hsubject⟩ := hfocus
    rw [Block.value_assignment (Block.mem_triples.2 ht) (Or.inl hsubject), ground_focus hvar]

end Values

/-! ## 3. The focus nodes of a shape -/

namespace Unfolding

variable {u : Unfolding} {focus : Focus} {objectPrefix : String} {g : Graph} {x : Term}

theorem exists_getElem?_of_live {n : Nat} {rest : List Nat} (h : u.occurrences.Live (n :: rest)) :
    ∃ p, u.branches.toList[n]? = some p := by
  rcases mem_paths.1 ((mem_paths_iff_live u (n :: rest)).2 h) with
    ⟨m, p, hp, heq⟩ | ⟨m, v, tail, hv, _, heq⟩
  · cases heq
    exact ⟨p, hp⟩
  · cases heq
    obtain ⟨p, hp, _⟩ := child?_eq_some_iff.1 hv
    exact ⟨p, hp⟩

/-- Every alternative has the types of the root and a property of it in front. -/
theorem hasClass_and_hasValue_of_solves (htargets : ∀ c ∈ u.targets, c.isIri = true)
    (hpaths : ∀ p ∈ u.occurrence.paths, p.any Term.isIri = true) {μ : Solution}
    (hμ : (u.pattern focus objectPrefix).Solves g μ) (hx : μ.value (some focus.term) = some x) :
    g.HasClass u.targets x ∧ g.HasValue u.occurrence.paths x := by
  obtain ⟨b, hb, hμ⟩ := hμ
  -- an alternative starts with a property of the root, or has the types of the root alone
  rcases mem_alternatives_pattern.1 hb with ⟨path, hlive, hpath⟩ | ⟨hnil, rfl⟩
  · cases path with
    | nil => exact absurd ((mem_paths_iff_live u []).2 hlive) u.nil_not_mem_paths
    | cons n rest =>
      constructor
      · apply hasClass_of_solves htargets hμ _ hx
        intro e he
        exact Occurrences.types_mem_alternative hpath List.nil_prefix (List.cons_ne_nil n rest).symm
          he
      · right
        obtain ⟨p, hp⟩ := exists_getElem?_of_live hlive
        have hmem : p.1 ∈ u.occurrence.paths := List.mem_map_of_mem (List.mem_of_getElem? hp)
        obtain ⟨t, ht, hiri⟩ := (Option.any_eq_true _ _).1 (hpaths p.1 hmem)
        obtain ⟨text, rfl⟩ := Term.isIri_iff.1 hiri
        have hprefix : [n] <+: n :: rest := ⟨rest, rfl⟩
        have htriple := Occurrences.triple_mem_alternative hpath hprefix (List.cons_ne_nil n [])
        rw [tripleAt_singleton focus objectPrefix hp, ht] at htriple
        obtain ⟨y, hy⟩ := exists_value_of_solves hμ (Block.mem_triples.2 htriple) hx
        exact ⟨.iri text, y, ht ▸ hmem, hy⟩
  · constructor
    · exact hasClass_of_solves htargets hμ (fun e he => he) hx
    · left
      rw [occurrence, hnil]
      rfl

/-- The block of the one property at hand is solved by the term, its class and a value, whatever is
nested below. -/
theorem exists_solves_of_hasClass_of_hasValue (hf : focus.Accepted)
    (hvar : focus.term = .var focus.name) (htargets : ∀ c ∈ u.targets, c.isIri = true)
    (hpaths : ∀ p ∈ u.occurrence.paths, p.any Term.isIri = true)
    (hsome : u.targets ≠ [] ∨ u.occurrence.paths ≠ []) (hclass : g.HasClass u.targets x)
    (hvalue : g.HasValue u.occurrence.paths x) :
    ∃ μ, (u.pattern focus objectPrefix).Solves g μ ∧ μ.value (some focus.term) = some x := by
  -- without classes any term will do as the value of the class variable
  obtain ⟨cls, hcls⟩ : ∃ cls, u.targets = [] ∨ (cls ∈ u.targets ∧ ⟨x, rdfType, cls⟩ ∈ g.triples) := by
    rcases hclass with hnil | ⟨c, hc, hmem⟩
    · exact ⟨x, Or.inl hnil⟩
    · exact ⟨c, Or.inr ⟨hc, hmem⟩⟩
  rcases hvalue with hnil | ⟨p, y, hp, hmem⟩
  · have hbranches : u.branches = .nil := by
      rw [← Branches.toList_eq_nil_iff]
      exact List.map_eq_nil_iff.1 hnil
    -- there is a class, so there is a triple with the focus
    have hfocus : ∃ t, .triple t ∈ typeElements u.targets focus ∧ t.subject = some focus.term := by
      rcases htypes : u.targets with _ | ⟨c, _ | ⟨d, rest⟩⟩
      · exact absurd hnil (hsome.resolve_left (fun h => h htypes))
      · exact ⟨_, List.mem_cons_self, rfl⟩
      · exact ⟨_, List.mem_cons_self, rfl⟩
    obtain ⟨μ, hμ, hx⟩ := exists_solves_types_append (y := x) hf hvar htargets hcls []
      (fun t ht => absurd ht List.not_mem_nil) (by simpa using hfocus)
    rw [List.map_nil, List.append_nil] at hμ
    exact ⟨μ, ⟨_, mem_alternatives_pattern.2 (Or.inr ⟨hbranches, rfl⟩), hμ⟩, hx⟩
  · obtain ⟨q, hq, hpath⟩ := List.mem_map.1 hp
    obtain ⟨n, hn⟩ := List.mem_iff_getElem?.1 hq
    have hiri := hpaths (some p) hp
    obtain ⟨text, rfl⟩ := Term.isIri_iff.1 (show p.isIri = true from hiri)
    -- the alternative that ends with the property asks for the classes and this value only
    have hblock : u.occurrences.blockAt focus objectPrefix [n] =
        ⟨typeElements u.targets focus ++
          [propertyTriple focus (some (.iri text)) (focus.object n objectPrefix)].map .triple⟩ := by
      rw [blockAt_singleton focus objectPrefix hn, hpath]
      rfl
    have hlive : u.occurrences.Live [n] := by
      rw [← mem_paths_iff_live, mem_paths]
      exact Or.inl ⟨n, q, hn, rfl⟩
    obtain ⟨μ, hμ, hx⟩ := exists_solves_types_append (y := y) hf hvar htargets hcls
      [propertyTriple focus (some (.iri text)) (focus.object n objectPrefix)] (by
        intro t ht
        rw [List.mem_singleton.1 ht]
        refine ⟨_, _, _, rfl, ?_⟩
        rw [ground_focus hvar, ground_object hf]
        exact hmem) ⟨_, List.mem_append_right _ List.mem_cons_self, rfl⟩
    rw [← hblock] at hμ
    exact ⟨μ, ⟨_, mem_alternatives_pattern.2 (Or.inl ⟨[n], hlive,
      Occurrences.mem_alternativesAt.2 (Or.inl rfl)⟩), hμ⟩, hx⟩

end Unfolding

/-- The focus of a variable name is the variable of its own name. -/
theorem Focus.term_of_resolve_name {name : String} {f : Focus}
    (h : resolve (some name) none = .ok f) : f.term = .var f.name := by
  cases resolve_eq_ok_iff.1 h with
  | name _ => rfl

theorem ShapeTable.occurrence_unfold {tbl : ShapeTable} {root : Nat} {s : NodeShape}
    (hs : tbl[root]? = some s) : (tbl.unfold root).occurrence = s.occurrence := by
  obtain ⟨hroot, rfl⟩ := List.getElem?_eq_some_iff.1 hs
  have hnil := congrFun (occurrences_unfold hroot) []
  rw [Unfolding.occurrences_nil, occurrences, descend?, Option.bind_some, hs] at hnil
  exact Option.some.inj hnil

/-- A term is a value of the focus variable in some solution of the compiled pattern exactly when it
has one of the target classes, if there are any, and a value for one of the active properties, if
there are any. Only the terms of the shape itself need to be IRIs; the shapes nested in it may be of
any kind. -/
theorem focus_value_iff_hasClass_and_hasValue (tbl : ShapeTable) (root : Nat) (s : NodeShape)
    (hs : tbl[root]? = some s) (htargets : ∀ c ∈ s.targets, c.isIri = true)
    (hpaths : ∀ q ∈ s.active, q.path.any Term.isIri = true)
    (hsome : s.targets ≠ [] ∨ s.active ≠ []) (name : String) (focus : Focus)
    (hfocus : Focus.resolve (some name) none = .ok focus) (objectPrefix : String) :
    ∃ c : Compiled, ((tbl.unfold root).compile (some name) none objectPrefix).result = .ok c ∧
      ((tbl.unfold root).compileWhere (some name) objectPrefix).result = .ok c.wherePattern ∧
      ∀ (g : DataGraph) (x : Term),
        (∃ μ, c.wherePattern.Solves g.toGraph μ ∧ μ.value (some focus.term) = some x) ↔
          g.HasClass s.targets x ∧ g.HasValue (s.active.map (·.path)) x := by
  have hf := Focus.accepted_of_resolve hfocus
  have hvar := Focus.term_of_resolve_name hfocus
  have hoccurrence := ShapeTable.occurrence_unfold hs
  have htargets' : (tbl.unfold root).targets = s.targets := congrArg Occurrence.targets hoccurrence
  have hpaths' : (tbl.unfold root).occurrence.paths = s.active.map (·.path) :=
    congrArg Occurrence.paths hoccurrence
  have hiris : ∀ p ∈ s.active.map (·.path), p.any Term.isIri = true := by
    intro p hp
    obtain ⟨q, hq, rfl⟩ := List.mem_map.1 hp
    exact hpaths q hq
  rw [← htargets'] at htargets hsome ⊢
  rw [← hpaths'] at hiris ⊢
  refine ⟨_, Unfolding.compile_result _ hfocus objectPrefix,
    Unfolding.compileWhere_result _ hfocus objectPrefix, fun g x => ?_⟩
  -- collapsing a union keeps its alternatives, and with them its solutions
  have hsolves (μ : Solution) :
      ((tbl.unfold root).query focus objectPrefix).wherePattern.Solves g.toGraph μ ↔
        ((tbl.unfold root).pattern focus objectPrefix).Solves g.toGraph μ := by
    unfold Pattern.Solves
    rw [Unfolding.alternatives_query]
  simp only [hsolves]
  constructor
  · rintro ⟨μ, hμ, hx⟩
    exact Unfolding.hasClass_and_hasValue_of_solves htargets hiris hμ hx
  · rintro ⟨hclass, hvalue⟩
    apply Unfolding.exists_solves_of_hasClass_of_hasValue hf hvar htargets hiris _ hclass hvalue
    rw [hpaths']
    simpa using hsome

theorem focus_value_iff_personShapes :
    personShapes[0]? = some personShape ∧ (∀ c ∈ personShape.targets, c.isIri = true) ∧
    (∀ q ∈ personShape.active, q.path.any Term.isIri = true) ∧ personShape.targets ≠ [] ∧
    Focus.resolve (some "$person") none = .ok ⟨.var "person", "person"⟩ ∧
    ∃ c : Compiled, ((personShapes.unfold 0).compile (some "$person") none "p").result = .ok c ∧
      ((personShapes.unfold 0).compileWhere (some "$person") "p").result = .ok c.wherePattern ∧
      ∀ (g : DataGraph) (x : Term),
        (∃ μ, c.wherePattern.Solves g.toGraph μ ∧ μ.value (some (.var "person")) = some x) ↔
          g.HasClass personShape.targets x ∧ g.HasValue (personShape.active.map (·.path)) x := by
  have htargets : ∀ c ∈ personShape.targets, c.isIri = true := by decide
  have hpaths : ∀ q ∈ personShape.active, q.path.any Term.isIri = true := by decide
  have hsome : personShape.targets ≠ [] := by decide
  have hfocus : Focus.resolve (some "$person") none = .ok ⟨.var "person", "person"⟩ := by decide
  exact ⟨rfl, htargets, hpaths, hsome, hfocus, focus_value_iff_hasClass_and_hasValue personShapes 0
    personShape rfl htargets hpaths (Or.inl hsome) "$person" _ hfocus "p"⟩

end ShaclQuery
