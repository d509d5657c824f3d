import ShaclQuery.Proofs.Agreement
import ShaclQuery.Proofs.Bindings

/-! # What a CONSTRUCT query gives

A CONSTRUCT query gives back the triples that its WHERE pattern matched, and one kind of triple more.
A nested shape with a single target class puts a triple with that class into the template, and the
alternative that ends at the property leading to the shape binds all of its variables without asking
for the class.
-/

namespace ShaclQuery

/-! ## 1. The compiled query -/

theorem mem_distinctBy_iff {α β : Type} [DecidableEq β] {key : α → β} {l : List α}
    (hkey : ∀ a ∈ l, ∀ b ∈ l, key a = key b → a = b) {a : α} : a ∈ distinctBy key l ↔ a ∈ l := by
  constructor
  · exact distinctBy_subset key l
  · intro ha
    obtain ⟨b, hb, hba⟩ := exists_mem_distinctBy key l ha
    rw [← hkey b (distinctBy_subset key l hb) a ha hba]
    exact hb

namespace Unfolding

def query (u : Unfolding) (focus : Focus) (objectPrefix : String) : Compiled :=
  ⟨focus, (u.pattern focus objectPrefix).collapse,
    distinctBy TriplePattern.key (u.pattern focus objectPrefix).triples⟩

theorem compile_result (u : Unfolding) {subjectVariable : Option String} {focusNode : Option Term}
    {focus : Focus} (hfocus : Focus.resolve subjectVariable focusNode = .ok focus)
    (objectPrefix : String) :
    (u.compile subjectVariable focusNode objectPrefix).result = .ok (u.query focus objectPrefix) := by
  unfold compile query
  rw [Logged.result_andThen (a := focus) (by rw [hfocus]; rfl),
    Logged.result_andThen (a := u.pattern focus objectPrefix)
      (by rw [Logged.result_mapError, wherePattern_result]; rfl),
    Logged.result_andThen (template_result u focus objectPrefix), distinctBy_triples_pattern]
  rfl

theorem compileWhere_result (u : Unfolding) {subjectVariable : Option String} {focus : Focus}
    (hfocus : Focus.resolve subjectVariable none = .ok focus) (objectPrefix : String) :
    (u.compileWhere subjectVariable objectPrefix).result =
      .ok (u.pattern focus objectPrefix).collapse := by
  unfold compileWhere
  rw [Logged.result_andThen (a := focus) (by rw [hfocus]; rfl),
    Logged.result_andThen (a := u.pattern focus objectPrefix)
      (by rw [Logged.result_mapError, wherePattern_result]; rfl)]
  rfl

/-- The alternatives of a shape belong to its live paths; a shape without properties has one. -/
theorem mem_alternatives_pattern {u : Unfolding} {focus : Focus} {objectPrefix : String}
    {b : Block} :
    b ∈ (u.pattern focus objectPrefix).alternatives ↔
      (∃ path, u.occurrences.Live path ∧ b ∈ u.occurrences.alternativesAt focus objectPrefix path) ∨
      (u.branches = .nil ∧ b = ⟨typeElements u.targets focus⟩) := by
  unfold pattern
  by_cases hnil : u.branches = .nil
  · have hlive (path : List Nat) : ¬u.occurrences.Live path := by
      rw [← mem_paths_iff_live, hnil]
      exact List.not_mem_nil
    simp [hnil, hlive, Branches.alternatives, Pattern.alternatives]
  · have halts : u.branches.alternatives focus objectPrefix 0 ≠ [] := fun h =>
      hnil ((Branches.alternatives_eq_nil_iff _ _ _ _).1 h)
    rw [Pattern.ofBranches_of_ne_nil _ halts]
    show b ∈ (u.branches.alternatives focus objectPrefix 0).map _ ↔ _
    rw [alternatives_eq_flatMap_paths, List.mem_flatMap]
    simp only [mem_paths_iff_live, hnil, false_and, or_false]

theorem stands_of_mem_triples {u : Unfolding} {focus : Focus} {objectPrefix : String}
    {t : TriplePattern} (h : t ∈ (u.pattern focus objectPrefix).triples) :
    u.occurrences.Stands focus objectPrefix t := by
  obtain ⟨b, hb, ht⟩ := List.mem_flatMap.1 h
  rw [Block.mem_triples] at ht
  rcases mem_alternatives_pattern.1 hb with ⟨path, _, hpath⟩ | ⟨_, rfl⟩
  · rcases Occurrences.mem_alternative_cases hpath ht with
      ⟨place, _, htypes, _⟩ | ⟨place, _, hplace, htriple⟩
    · exact Or.inl ⟨place, htypes⟩
    · exact Or.inr ⟨place, hplace, Element.triple.inj htriple⟩
  · exact Or.inl ⟨[], ht⟩

/-- Only an active property leads to a shape. -/
theorem live_of_occurrence {u : Unfolding} {path : List Nat} {s : Occurrence}
    (hs : u.occurrences path = some s) (hpath : path ≠ []) : u.occurrences.Live path := by
  induction path generalizing u with
  | nil => exact absurd rfl hpath
  | cons n rest ih =>
    rw [occurrences_cons] at hs
    obtain ⟨v, hv, hs⟩ := Option.bind_eq_some_iff.1 hs
    unfold Occurrences.Live
    cases rest with
    | nil =>
      obtain ⟨p, hp, _⟩ := child?_eq_some_iff.1 hv
      rw [pathAt?_singleton, hp]
      rfl
    | cons m rest =>
      rw [pathAt?_cons_cons, hv]
      exact ih hs (List.cons_ne_nil m rest)

/-- The types of every place reach some alternative, also those of a shape without properties. -/
theorem types_mem_pattern {u : Unfolding} {focus : Focus} {objectPrefix : String}
    {path : List Nat} {t : TriplePattern}
    (ht : .triple t ∈ u.occurrences.typesAt focus objectPrefix path) :
    t ∈ (u.pattern focus objectPrefix).triples := by
  obtain ⟨s, hs, htype⟩ := Occurrences.mem_typesAt.1 ht
  have halternative : ∃ b ∈ (u.pattern focus objectPrefix).alternatives,
      .triple t ∈ b.elements := by
    -- they stand behind the property that leads to the shape when the shape has no properties, and
    -- in the alternative of its first property otherwise
    cases hpaths : s.paths with
    | nil =>
      by_cases hpath : path = []
      · -- nothing leads to the shape itself, and its types are all there is
        subst hpath
        cases hs
        have hnil : u.branches = .nil :=
          (Branches.toList_eq_nil_iff _).1 (List.map_eq_nil_iff.1 hpaths)
        exact ⟨_, mem_alternatives_pattern.2 (Or.inr ⟨hnil, rfl⟩), htype⟩
      · have htargets : s.targets ≠ [] := by
          intro hnone
          rw [hnone] at htype
          cases htype
        have honly : (u.occurrences path).any Occurrence.isClassOnly = true := by
          simp [hs, Occurrence.isClassOnly, hpaths, htargets]
        refine ⟨_, mem_alternatives_pattern.2 (Or.inl ⟨path, live_of_occurrence hs hpath,
          Occurrences.mem_alternativesAt.2 (Or.inr ⟨honly, rfl⟩)⟩), ?_⟩
        exact List.mem_append_right _ ht
    | cons p rest =>
      have hlive : u.occurrences.Live (path ++ [0]) := by
        simp [Occurrences.Live, Occurrences.pathAt?, hs, hpaths]
      refine ⟨_, mem_alternatives_pattern.2 (Or.inl ⟨path ++ [0], hlive,
        Occurrences.mem_alternativesAt.2 (Or.inl rfl)⟩), ?_⟩
      exact Occurrences.mem_blockAt.2 ⟨path, 0, [], rfl, Or.inl ht⟩
  obtain ⟨b, hb, htb⟩ := halternative
  exact List.mem_flatMap.2 ⟨b, hb, Block.mem_triples.2 htb⟩

/-- The triple that a live path ends with stands in the block of the path. -/
theorem triple_mem_pattern {u : Unfolding} {focus : Focus} {objectPrefix : String}
    {path : List Nat} (h : u.occurrences.Live path) :
    u.occurrences.tripleAt focus objectPrefix path ∈ (u.pattern focus objectPrefix).triples := by
  have hne : path ≠ [] := by
    rintro rfl
    cases h
  refine List.mem_flatMap.2 ⟨u.occurrences.blockAt focus objectPrefix path, ?_, ?_⟩
  · exact mem_alternatives_pattern.2
      (Or.inl ⟨path, h, Occurrences.mem_alternativesAt.2 (Or.inl rfl)⟩)
  · exact Block.mem_triples.2 (List.mem_of_getLast? (Occurrences.getLast?_blockAt hne))

end Unfolding

theorem Focus.key_term_below {f : Focus} (hf : f.Accepted) (objectPrefix : String)
    (path : List Nat) :
    (f.below objectPrefix path).term.key = (f.below objectPrefix path).term := by
  cases path with
  | nil =>
    show f.term.key = f.term
    rcases hf.term with hvar | ⟨iri, hiri⟩
    · rw [hvar]
      rfl
    · rw [hiri]
      rfl
  | cons n rest =>
    rw [term_below hf objectPrefix (List.cons_ne_nil n rest)]
    rfl

/-- Triples without literals are told apart by their terms. -/
theorem Occurrences.key_eq_self {o : Occurrences} {focus : Focus} {objectPrefix : String}
    (ho : o.IrisOnly) (hf : focus.Accepted) {t : TriplePattern}
    (ht : o.Stands focus objectPrefix t) : t.key = t := by
  rcases ht with ⟨place, htypes⟩ | ⟨place, _, rfl⟩
  · obtain ⟨s, hs, helement⟩ := mem_typesAt.1 htypes
    rcases triple_mem_typeElements.1 helement with ⟨c, hc, rfl⟩ | ⟨_, rfl⟩
    · obtain ⟨text, htext⟩ := ho.exists_iri_of_single hs hc
      simp [TriplePattern.key, Focus.key_term_below hf, rdfType, htext]
    · simp [TriplePattern.key, Focus.key_term_below hf, rdfType, Focus.term_targetClass hf]
  · have hpredicate : (o.pathAt? place).join.map Term.key = (o.pathAt? place).join := by
      rcases join_pathAt? ho place with hnone | ⟨text, htext⟩
      · rw [hnone]
        rfl
      · rw [htext]
        rfl
    simp [TriplePattern.key, tripleAt, Focus.key_term_below hf, hpredicate]

namespace Unfolding

variable {u : Unfolding} {focus : Focus} {objectPrefix : String}

theorem alternatives_query :
    (u.query focus objectPrefix).wherePattern.alternatives =
      (u.pattern focus objectPrefix).alternatives :=
  Pattern.alternatives_collapse _

theorem mem_template_query (ho : u.occurrences.IrisOnly) (hf : focus.Accepted)
    {t : TriplePattern} :
    t ∈ (u.query focus objectPrefix).template ↔ t ∈ (u.pattern focus objectPrefix).triples := by
  apply mem_distinctBy_iff
  intro a ha b hb hkey
  rw [Occurrences.key_eq_self ho hf (stands_of_mem_triples ha),
    Occurrences.key_eq_self ho hf (stands_of_mem_triples hb)] at hkey
  exact hkey

end Unfolding

/-! ## 2. Matched triples and presumed classes -/

namespace Compiled

/-- A solution of an alternative sends one of the triples of the alternative to this triple. -/
def Matches (c : Compiled) (g : Graph) (t : Triple) : Prop :=
  ∃ b ∈ c.wherePattern.alternatives, ∃ μ, b.Solves g μ ∧ ∃ p ∈ b.triples, μ.instantiate p = some t

/-- The triple gives to a value the only target class of the shape at a place below the root, though
the value comes from the alternative that ends with the property leading there. -/
def PresumesClass (c : Compiled) (o : Occurrences) (objectPrefix : String) (g : Graph)
    (t : Triple) : Prop :=
  ∃ path s cls x, path ≠ [] ∧ o path = some s ∧ s.targets = [cls] ∧
    (∃ b ∈ c.wherePattern.alternatives,
      b.elements.getLast? = some (.triple (o.tripleAt c.focus objectPrefix path)) ∧
      ∃ μ, b.Solves g μ ∧ μ.value (some (c.focus.below objectPrefix path).term) = some x) ∧
    x.isLiteral = false ∧ t = ⟨x, rdfType, cls⟩

end Compiled

theorem Triple.isLiteral_subject {t : Triple} (h : t.isData = true) :
    t.subject.isLiteral = false := by
  unfold isData at h
  cases hsubject : t.subject <;> simp [hsubject, Term.isLiteral, Term.isIri, Term.isBlank] at h ⊢

namespace Unfolding

variable {u : Unfolding} {focus : Focus} {objectPrefix : String}

/-- A constructed triple that no alternative matches as a whole gives a class to a value. -/
theorem matches_or_presumesClass (ho : u.occurrences.IrisOnly) (hf : focus.Accepted) {g : Graph}
    {t : Triple} (h : (u.query focus objectPrefix).Constructs g t) :
    (u.query focus objectPrefix).Matches g t ∨
      (u.query focus objectPrefix).PresumesClass u.occurrences objectPrefix g t := by
  obtain ⟨hdata, μ, ⟨b, hb, hμ⟩, p, hp, hinst⟩ := h
  have hpattern := (mem_template_query ho hf).1 hp
  have hbranch := hb
  rw [alternatives_query] at hbranch
  rcases mem_alternatives_pattern.1 hbranch with ⟨path, hlive, hpath⟩ | ⟨hnil, hblock⟩
  · have hne : path ≠ [] := by
      rintro rfl
      exact u.nil_not_mem_paths ((mem_paths_iff_live u []).2 hlive)
    -- all variables of the triple have values: the alternative has it, or ends where it starts
    rcases Occurrences.mem_triples_or_last_class ho hf hpath hne (stands_of_mem_triples hpattern)
      (fun name hname => hμ.mem_variables hinst hname) with hown | ⟨hlast, s, cls, hs, hcls, rfl⟩
    · exact Or.inl ⟨b, hb, μ, hμ, p, hown, hinst⟩
    · refine Or.inr ⟨path, s, cls, t.subject, hne, hs, hcls, ⟨b, hb, ?_, μ, hμ, ?_⟩,
        Triple.isLiteral_subject hdata, ?_⟩
      · rw [hlast]
        exact Occurrences.getLast?_blockAt hne
      · exact (Solution.instantiate_eq_some_iff.1 hinst).1
      · obtain ⟨text, htext⟩ := ho.exists_iri_of_single hs hcls
        obtain ⟨_, hpredicate, hobject⟩ := Solution.instantiate_eq_some_iff.1 hinst
        rw [htext] at hobject ⊢
        cases t
        simp_all [rdfType]
  · -- a shape without properties has a single alternative, which holds the whole template
    obtain ⟨other, hother, hpother⟩ := List.mem_flatMap.1 hpattern
    have hsame : other = b := by
      rcases mem_alternatives_pattern.1 hother with ⟨path, hlive, _⟩ | ⟨_, hblock'⟩
      · rw [← mem_paths_iff_live, hnil] at hlive
        cases hlive
      · rw [hblock, hblock']
    exact Or.inl ⟨b, hb, μ, hμ, p, hsame ▸ hpother, hinst⟩

theorem constructs_of_matches (ho : u.occurrences.IrisOnly) (hf : focus.Accepted) {g : DataGraph}
    {t : Triple} (h : (u.query focus objectPrefix).Matches g.toGraph t) :
    (u.query focus objectPrefix).Constructs g.toGraph t := by
  obtain ⟨b, hb, μ, hμ, p, hp, hinst⟩ := h
  have hbranch := hb
  rw [alternatives_query] at hbranch
  refine ⟨g.isData t (hμ.mem_of_instantiate hp hinst), μ, ⟨b, hb, hμ⟩, p, ?_, hinst⟩
  exact (mem_template_query ho hf).2 (List.mem_flatMap.2 ⟨b, hbranch, hp⟩)

/-- The template has the class triple in any case, so a solution without it constructs it all the
same. -/
theorem constructs_of_presumesClass (ho : u.occurrences.IrisOnly) (hf : focus.Accepted)
    {g : DataGraph} {t : Triple}
    (h : (u.query focus objectPrefix).PresumesClass u.occurrences objectPrefix g.toGraph t) :
    (u.query focus objectPrefix).Constructs g.toGraph t := by
  obtain ⟨path, s, cls, x, hpath, hs, hcls, ⟨b, hb, hlast, μ, hμ, hx⟩, hliteral, rfl⟩ := h
  obtain ⟨text, htext⟩ := ho.exists_iri_of_single hs hcls
  -- the value is the object of a triple of data, so it is no variable
  have hown : u.occurrences.tripleAt focus objectPrefix path ∈ b.triples :=
    Block.mem_triples.2 (List.mem_of_getLast? hlast)
  obtain ⟨v, hv, hinst⟩ := hμ.triples _ hown
  have hobject : x = v.object :=
    Option.some.inj (hx.symm.trans (Solution.instantiate_eq_some_iff.1 hinst).2.2)
  have hvariable : x.isVariable = false := by
    have hdata := g.isData v hv
    unfold Triple.isData at hdata
    rw [hobject]
    simp_all
  refine ⟨?_, μ, ⟨b, hb, hμ⟩, ⟨some (focus.below objectPrefix path).term, some rdfType, some cls⟩,
    ?_, ?_⟩
  · rw [htext]
    cases x <;> simp_all [Triple.isData, rdfType, Term.isIri, Term.isBlank, Term.isVariable,
      Term.isLiteral]
  · apply (mem_template_query ho hf).2
    apply types_mem_pattern
    exact Occurrences.mem_typesAt.2 ⟨s, hs, triple_mem_typeElements.2 (Or.inl ⟨cls, hcls, rfl⟩)⟩
  · rw [Solution.instantiate_eq_some_iff, htext]
    exact ⟨hx, rfl, rfl⟩

end Unfolding

/-- A table with IRIs as target classes and as active paths has no other terms at its places. -/
theorem ShapeTable.irisOnly_occurrences {tbl : ShapeTable}
    (h : ∀ s ∈ tbl, (∀ c ∈ s.targets, c.isIri = true) ∧
      ∀ p ∈ s.active, p.path.any Term.isIri = true) (root : Nat) :
    (tbl.occurrences root).IrisOnly := by
  intro path o ho
  obtain ⟨i, _, hi⟩ := Option.bind_eq_some_iff.1 ho
  obtain ⟨s, hs, rfl⟩ := Option.map_eq_some_iff.1 hi
  obtain ⟨htargets, hactive⟩ := h s (List.mem_of_getElem? hs)
  refine ⟨htargets, fun p hp => ?_⟩
  obtain ⟨q, hq, rfl⟩ := List.mem_map.1 hp
  exact hactive q hq

/-- A CONSTRUCT query over IRIs gives the triples that the alternatives matched, and the only target
class of a shape below the root to every value of the property that leads there. -/
theorem constructs_iff_matches_or_presumesClass (tbl : ShapeTable) (root : Nat)
    (hroot : root < tbl.length) (ho : (tbl.occurrences root).IrisOnly)
    (subjectVariable : Option String) (focusNode : Option Term) (focus : Focus)
    (hfocus : Focus.resolve subjectVariable focusNode = .ok focus) (objectPrefix : String) :
    ∃ c : Compiled,
      ((tbl.unfold root).compile subjectVariable focusNode objectPrefix).result = .ok c ∧
      c.focus = focus ∧
      ∀ (g : DataGraph) (t : Triple), c.Constructs g.toGraph t ↔
        c.Matches g.toGraph t ∨
          c.PresumesClass (tbl.occurrences root) objectPrefix g.toGraph t := by
  have hf := Focus.accepted_of_resolve hfocus
  rw [← ShapeTable.occurrences_unfold hroot] at ho ⊢
  refine ⟨_, Unfolding.compile_result _ hfocus objectPrefix, rfl, fun g t => ⟨?_, ?_⟩⟩
  · exact Unfolding.matches_or_presumesClass ho hf
  · rintro (hmatches | hclass)
    · exact Unfolding.constructs_of_matches ho hf hmatches
    · exact Unfolding.constructs_of_presumesClass ho hf hclass

theorem constructs_iff_personShapes :
    0 < personShapes.length ∧ (personShapes.occurrences 0).IrisOnly ∧
    Focus.resolve (some "?x") none = .ok ⟨.var "x", "x"⟩ ∧
    ∃ c : Compiled, ((personShapes.unfold 0).compile (some "?x") none "").result = .ok c ∧
      c.focus = ⟨.var "x", "x"⟩ ∧
      ∀ (g : DataGraph) (t : Triple), c.Constructs g.toGraph t ↔
        c.Matches g.toGraph t ∨ c.PresumesClass (personShapes.occurrences 0) "" g.toGraph t := by
  have hroot : 0 < personShapes.length := by decide
  have ho : (personShapes.occurrences 0).IrisOnly :=
    ShapeTable.irisOnly_occurrences (by decide) 0
  have hfocus : Focus.resolve (some "?x") none = .ok ⟨.var "x", "x"⟩ := by decide
  exact ⟨hroot, ho, hfocus,
    constructs_iff_matches_or_presumesClass personShapes 0 hroot ho _ _ _ hfocus ""⟩

end ShaclQuery
