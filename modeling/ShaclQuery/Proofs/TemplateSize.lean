import Mathlib.Data.List.Nodup
import ShaclQuery.Proofs.Distinctness
import ShaclQuery.Proofs.MissingPaths
import ShaclQuery.Proofs.Positions

/-! # The size of a template

The template is collected with a check for repetitions. As long as no target class is a query variable,
the check never finds one: the triple of a property has the variable of its position as object, and no
other triple has; the triples for classes differ in their subjects. So the template has a triple for
every property that a walk through the shape meets and one for every shape with target classes, however
often a nested shape is shared and whatever the paths are, `rdf:type` among them.
-/

namespace ShaclQuery

structure Enumerates {α : Type} (l : List α) (P : α → Prop) : Prop where
  nodup : l.Nodup
  mem_iff : ∀ a, a ∈ l ↔ P a

theorem countP_eq_one {α : Type} [DecidableEq α] {l : List α} {a : α} (hl : l.Nodup) (ha : a ∈ l)
    {p : α → Bool} (hp : ∀ b ∈ l, p b = true ↔ b = a) : l.countP p = 1 := by
  have hcount : l.countP p = l.count a := by
    apply List.countP_congr
    intro b hb
    rw [hp b hb, beq_iff_eq]
  rw [hcount, List.count_eq_one_of_mem hl ha]

theorem Term.key_eq_var_iff {t : Term} {name : String} : t.key = .var name ↔ t = .var name := by
  cases t with
  | var other => rw [key_var]
  | iri text => simp
  | blank label => simp
  | literal l => simp [key]

/-! ## 1. What contributes a triple -/

namespace Occurrences

def HasClasses (o : Occurrences) (place : List Nat) : Prop :=
  ∃ s, o place = some s ∧ s.targets ≠ []

def classTripleAt (o : Occurrences) (focus : Focus) (objectPrefix : String) (place : List Nat) :
    TriplePattern :=
  let f := focus.below objectPrefix place
  match (o place).map Occurrence.targets with
  | some [c] => ⟨some f.term, some rdfType, some c⟩
  | _ => ⟨some f.term, some rdfType, some f.targetClass.term⟩

/-- The triples of properties and classes, each with the position that it is for. -/
inductive Contributes (o : Occurrences) (focus : Focus) (objectPrefix : String) :
    Position → TriplePattern → Prop
  | property {first : Nat} {rest : List Nat} : o.Live (first :: rest) →
    Contributes o focus objectPrefix (.object first rest)
      (o.tripleAt focus objectPrefix (first :: rest))
  | classes {place : List Nat} : o.HasClasses place →
    Contributes o focus objectPrefix (.targetClass place) (o.classTripleAt focus objectPrefix place)

/-- The positions whose variables are generated: objects, and the classes of shapes with several. -/
def Generates (o : Occurrences) : Position → Prop
  | .object first rest => o.Live (first :: rest)
  | .targetClass place => ∃ s, o place = some s ∧ 2 ≤ s.targets.length

def ClassesConstant (o : Occurrences) : Prop :=
  ∀ place s, o place = some s → ∀ c ∈ s.targets, c.isVariable = false

variable {o : Occurrences} {focus : Focus} {objectPrefix : String}

theorem triple_mem_typesAt_iff {place : List Nat} {t : TriplePattern} :
    .triple t ∈ o.typesAt focus objectPrefix place ↔
      o.HasClasses place ∧ t = o.classTripleAt focus objectPrefix place := by
  rw [mem_typesAt]
  unfold HasClasses classTripleAt
  cases o place with
  | none => simp
  | some s =>
    obtain ⟨targets, paths⟩ := s
    rcases targets with _ | ⟨c, _ | ⟨d, rest⟩⟩ <;> simp [typeElements]

theorem subject_classTripleAt (o : Occurrences) (focus : Focus) (objectPrefix : String)
    (place : List Nat) : (o.classTripleAt focus objectPrefix place).subject =
      some (focus.below objectPrefix place).term := by
  unfold classTripleAt
  split
  · rfl
  · rfl

theorem object_classTripleAt_of_several {place : List Nat} {s : Occurrence}
    (hs : o place = some s) (hseveral : 2 ≤ s.targets.length) :
    (o.classTripleAt focus objectPrefix place).object =
      some (focus.variableOf objectPrefix (.targetClass place)).term := by
  rw [Focus.variableOf_targetClass]
  unfold classTripleAt
  rw [hs]
  obtain ⟨targets, paths⟩ := s
  rcases targets with _ | ⟨c, _ | ⟨d, rest⟩⟩
  · simp at hseveral
  · simp at hseveral
  · rfl

theorem Live.contributes {path : List Nat} (h : o.Live path) (focus : Focus)
    (objectPrefix : String) : ∃ first rest, path = first :: rest ∧
      o.Contributes focus objectPrefix (.object first rest) (o.tripleAt focus objectPrefix path) := by
  cases path with
  | nil => cases h
  | cons first rest => exact ⟨first, rest, rfl, .property h⟩

/-! ## 2. Objects and subjects tell triples apart -/

namespace Contributes

variable {p q : Position} {t t' : TriplePattern}

/-- The object is the variable of the position, or the only class of a shape. -/
theorem object_cases (h : o.Contributes focus objectPrefix p t) :
    t.object = some (focus.variableOf objectPrefix p).term ∨
    ∃ place s c, o place = some s ∧ c ∈ s.targets ∧ t.object = some c := by
  cases h with
  | property hlive =>
    left
    rw [Focus.variableOf_object]
    rfl
  | @classes place hclasses =>
    obtain ⟨s, hs, htargets⟩ := hclasses
    by_cases hseveral : 2 ≤ s.targets.length
    · exact Or.inl (object_classTripleAt_of_several hs hseveral)
    · right
      obtain ⟨c, hc⟩ : ∃ c, s.targets = [c] := by
        apply List.length_eq_one_iff.1
        have hpos := List.length_pos_iff.2 htargets
        omega
      refine ⟨place, s, c, hs, by simp [hc], ?_⟩
      simp [classTripleAt, hs, hc]

theorem position_eq_of_object (ho : o.ClassesConstant) (hf : focus.Accepted)
    (h : o.Contributes focus objectPrefix p t)
    (hobject : t.object = some (focus.variableOf objectPrefix q).term) : p = q := by
  rw [Focus.term_variableOf hf] at hobject
  rcases h.object_cases with hvariable | ⟨place, s, c, hs, hc, hclass⟩
  · rw [hvariable, Focus.term_variableOf hf, Option.some.injEq, Term.var.injEq] at hobject
    exact Focus.name_variableOf_injective focus objectPrefix hobject
  · -- the class would be a variable
    have hconstant := ho place s hs c hc
    rw [hclass, Option.some.injEq] at hobject
    rw [hobject] at hconstant
    cases hconstant

/-- A generated variable is the object of the triple that it is generated for. -/
theorem exists_of_generates (focus : Focus) (objectPrefix : String) (hp : o.Generates p) :
    ∃ t, o.Contributes focus objectPrefix p t ∧
      t.object = some (focus.variableOf objectPrefix p).term := by
  cases p with
  | object first rest =>
    refine ⟨_, .property hp, ?_⟩
    rw [Focus.variableOf_object]
    rfl
  | targetClass place =>
    obtain ⟨s, hs, hseveral⟩ := hp
    have htargets : s.targets ≠ [] := by
      intro hnil
      rw [hnil] at hseveral
      cases hseveral
    exact ⟨_, .classes ⟨s, hs, htargets⟩, object_classTripleAt_of_several hs hseveral⟩

theorem triple_eq (h : o.Contributes focus objectPrefix p t)
    (h' : o.Contributes focus objectPrefix p t') : t = t' := by
  cases h with
  | property _ => cases h'; rfl
  | classes _ => cases h'; rfl

/-- Triples for different positions are different. -/
theorem position_eq_of_key_eq (ho : o.ClassesConstant) (hf : focus.Accepted)
    (h : o.Contributes focus objectPrefix p t) (h' : o.Contributes focus objectPrefix q t')
    (hkey : t.key = t'.key) : p = q := by
  -- the key of a variable is the key of nothing else, so an object that is one is shared
  have hshared {u u' : TriplePattern} {first : Nat} {rest : List Nat} (hkey : u.key = u'.key)
      (hobject : u.object = some (focus.variableOf objectPrefix (.object first rest)).term) :
      u'.object = some (focus.variableOf objectPrefix (.object first rest)).term := by
    have hobjects : u.object.map Term.key = u'.object.map Term.key :=
      congrArg TriplePattern.object hkey
    rw [hobject, Focus.term_variableOf hf, Option.map_some, Term.key_var] at hobjects
    obtain ⟨x, hx, hvar⟩ := Option.map_eq_some_iff.1 hobjects.symm
    rw [hx, Term.key_eq_var_iff.1 hvar, Focus.term_variableOf hf]
  cases h with
  | property hlive =>
    have hobject := hshared hkey (by rw [Focus.variableOf_object]; rfl)
    exact (h'.position_eq_of_object ho hf hobject).symm
  | @classes place hclasses =>
    cases h' with
    | property hlive =>
      have hobject := hshared hkey.symm (by rw [Focus.variableOf_object]; rfl)
      exact (classes hclasses).position_eq_of_object ho hf hobject
    | @classes place' _ =>
      -- two shapes with classes stand at different places
      have hsubjects := congrArg TriplePattern.subject hkey
      simp only [TriplePattern.key, subject_classTripleAt, Option.map_some,
        Focus.key_term_below hf, Option.some.injEq] at hsubjects
      rw [Focus.term_below_injective hf hsubjects]

end Contributes

end Occurrences

/-! ## 3. The template -/

namespace Unfolding

variable {u : Unfolding} {focus : Focus} {objectPrefix : String}

/-- The triples of the pattern are the contributions of the positions. -/
theorem mem_triples_pattern_iff {t : TriplePattern} :
    t ∈ (u.pattern focus objectPrefix).triples ↔
      ∃ p, u.occurrences.Contributes focus objectPrefix p t := by
  constructor
  · intro h
    obtain ⟨b, hb, ht⟩ := List.mem_flatMap.1 h
    rcases mem_pattern_cases hb (Block.mem_triples.1 ht) with ⟨place, htypes⟩ | ⟨path, hlive, heq⟩
    · obtain ⟨hclasses, rfl⟩ := Occurrences.triple_mem_typesAt_iff.1 htypes
      exact ⟨_, .classes hclasses⟩
    · obtain ⟨first, rest, _, hp⟩ := hlive.contributes focus objectPrefix
      cases heq
      exact ⟨_, hp⟩
  · rintro ⟨p, hp⟩
    cases hp with
    | property hlive => exact triple_mem_pattern hlive
    | classes hclasses =>
      exact types_mem_pattern (Occurrences.triple_mem_typesAt_iff.2 ⟨hclasses, rfl⟩)

theorem mem_template_iff_contributes (ho : u.occurrences.ClassesConstant) (hf : focus.Accepted)
    {t : TriplePattern} : t ∈ (u.query focus objectPrefix).template ↔
      ∃ p, u.occurrences.Contributes focus objectPrefix p t := by
  rw [← mem_triples_pattern_iff]
  apply mem_distinctBy_iff
  intro a ha b hb hkey
  obtain ⟨p, hp⟩ := mem_triples_pattern_iff.1 ha
  obtain ⟨q, hq⟩ := mem_triples_pattern_iff.1 hb
  cases hp.position_eq_of_key_eq ho hf hq hkey
  exact hp.triple_eq hq

theorem nodup_keys_template (u : Unfolding) (focus : Focus) (objectPrefix : String) :
    ((u.query focus objectPrefix).template.map TriplePattern.key).Nodup :=
  nodup_map_distinctBy TriplePattern.key _

/-- The walk through a shape meets every live path once. -/
theorem enumerates_paths (u : Unfolding) : Enumerates (u.branches.paths 0) u.occurrences.Live := by
  refine ⟨?_, u.mem_paths_iff_live⟩
  apply (u.branches.paths_pairwise_lex 0).imp
  rintro path _ hlt rfl
  exact List.lt_irrefl path hlt

/-- Shapes with classes stand at the root and at the ends of live paths. -/
theorem exists_enumerates_hasClasses (u : Unfolding) :
    ∃ places, Enumerates places u.occurrences.HasClasses := by
  have hpaths := u.enumerates_paths
  refine ⟨([] :: u.branches.paths 0).filter fun place =>
    (u.occurrences place).any fun s => s.targets ≠ [], ?_, ?_⟩
  · exact (List.nodup_cons.2 ⟨u.nil_not_mem_paths, hpaths.nodup⟩).filter _
  · intro place
    rw [List.mem_filter, List.mem_cons, hpaths.mem_iff, Option.any_eq_true]
    constructor
    · rintro ⟨_, s, hs, htargets⟩
      exact ⟨s, hs, by simpa using htargets⟩
    · rintro ⟨s, hs, htargets⟩
      refine ⟨?_, s, hs, by simpa using htargets⟩
      by_cases hroot : place = []
      · exact Or.inl hroot
      · exact Or.inr (live_of_occurrence hs hroot)

/-- The template has one triple for each live path and one for each place with classes. -/
theorem template_perm (ho : u.occurrences.ClassesConstant) (hf : focus.Accepted)
    (objectPrefix : String) {paths places : List (List Nat)} (hpaths : Enumerates paths u.occurrences.Live)
    (hplaces : Enumerates places u.occurrences.HasClasses) :
    (u.query focus objectPrefix).template.Perm
      (paths.map (u.occurrences.tripleAt focus objectPrefix) ++
        places.map (u.occurrences.classTripleAt focus objectPrefix)) := by
  have hproperty {path : List Nat} (hpath : path ∈ paths) :=
    ((hpaths.mem_iff path).1 hpath).contributes focus objectPrefix
  have hclasses {place : List Nat} (hplace : place ∈ places) :
      u.occurrences.Contributes focus objectPrefix (.targetClass place) _ :=
    .classes ((hplaces.mem_iff place).1 hplace)
  -- a triple tells the position that it is for
  have hnodup : (paths.map (u.occurrences.tripleAt focus objectPrefix) ++
      places.map (u.occurrences.classTripleAt focus objectPrefix)).Nodup := by
    rw [List.nodup_append]
    refine ⟨hpaths.nodup.map_on ?_, hplaces.nodup.map_on ?_, ?_⟩
    · intro path hpath path' hpath' heq
      obtain ⟨first, rest, rfl, hp⟩ := hproperty hpath
      obtain ⟨first', rest', rfl, hp'⟩ := hproperty hpath'
      cases hp.position_eq_of_key_eq ho hf hp' (congrArg TriplePattern.key heq)
      rfl
    · intro place hplace place' hplace' heq
      cases (hclasses hplace).position_eq_of_key_eq ho hf (hclasses hplace')
        (congrArg TriplePattern.key heq)
      rfl
    · intro t ht t' ht' heq
      obtain ⟨path, hpath, rfl⟩ := List.mem_map.1 ht
      obtain ⟨place, hplace, rfl⟩ := List.mem_map.1 ht'
      obtain ⟨first, rest, _, hp⟩ := hproperty hpath
      cases hp.position_eq_of_key_eq ho hf (hclasses hplace) (congrArg TriplePattern.key heq)
  have htemplate : (u.query focus objectPrefix).template.Nodup :=
    (u.nodup_keys_template focus objectPrefix).of_map _
  -- neither list has repetitions, so that it is enough to compare members
  rw [List.perm_ext_iff_of_nodup htemplate hnodup]
  intro t
  rw [mem_template_iff_contributes ho hf, List.mem_append, List.mem_map, List.mem_map]
  constructor
  · rintro ⟨p, hp⟩
    cases hp with
    | property hlive => exact Or.inl ⟨_, (hpaths.mem_iff _).2 hlive, rfl⟩
    | classes hclasses => exact Or.inr ⟨_, (hplaces.mem_iff _).2 hclasses, rfl⟩
  · rintro (⟨path, hpath, rfl⟩ | ⟨place, hplace, rfl⟩)
    · obtain ⟨first, rest, _, hp⟩ := hproperty hpath
      exact ⟨_, hp⟩
    · exact ⟨_, hclasses hplace⟩

/-- Constant classes cannot coincide with a generated variable, so it is the object of one triple. -/
theorem countP_object_template (ho : u.occurrences.ClassesConstant) (hf : focus.Accepted)
    {p : Position} (hp : u.occurrences.Generates p) :
    (u.query focus objectPrefix).template.countP
      (fun t => t.object = some (focus.variableOf objectPrefix p).term) = 1 := by
  obtain ⟨t, ht, hobject⟩ := Occurrences.Contributes.exists_of_generates focus objectPrefix hp
  apply countP_eq_one ((u.nodup_keys_template focus objectPrefix).of_map _)
    ((mem_template_iff_contributes ho hf).2 ⟨p, ht⟩)
  intro t' ht'
  rw [decide_eq_true_iff]
  constructor
  · intro hobject'
    obtain ⟨q, hq⟩ := (mem_template_iff_contributes ho hf).1 ht'
    cases hq.position_eq_of_object ho hf hobject'
    exact hq.triple_eq ht
  · rintro rfl
    exact hobject

end Unfolding

/-- Let no target class of a table be a query variable. For every shape of the table, every accepted
focus and every object prefix, the template has as many triples as a walk through the shape meets active
properties and shapes with target classes: one for each of them, and no two are the same. Each variable
that is generated is the object of one triple of the template. -/
theorem template_length_eq_occurrences (tbl : ShapeTable) (root : Nat) (hroot : root < tbl.length)
    (htargets : ∀ s ∈ tbl, ∀ c ∈ s.targets, c.isVariable = false) (subjectVariable : Option String)
    (focusNode : Option Term) (focus : Focus)
    (hfocus : Focus.resolve subjectVariable focusNode = .ok focus) (objectPrefix : String) :
    ∃ (c : Compiled) (properties shapes : List (List Nat)),
      ((tbl.unfold root).compile subjectVariable focusNode objectPrefix).result = .ok c ∧
      Enumerates properties (tbl.occurrences root).Live ∧
      Enumerates shapes (tbl.occurrences root).HasClasses ∧
      c.template.length = properties.length + shapes.length ∧
      c.template.Perm (properties.map ((tbl.occurrences root).tripleAt focus objectPrefix) ++
        shapes.map ((tbl.occurrences root).classTripleAt focus objectPrefix)) ∧
      (c.template.map TriplePattern.key).Nodup ∧
      ∀ p, (tbl.occurrences root).Generates p →
        c.template.countP (fun t => t.object = some (focus.variableOf objectPrefix p).term) = 1 := by
  have hf := Focus.accepted_of_resolve hfocus
  have ho : (tbl.occurrences root).ClassesConstant := by
    intro place s hs
    obtain ⟨shape, hshape, rfl⟩ := ShapeTable.exists_mem_of_occurrences hs
    exact htargets shape hshape
  rw [← ShapeTable.occurrences_unfold hroot] at ho ⊢
  have hpaths := (tbl.unfold root).enumerates_paths
  obtain ⟨places, hplaces⟩ := (tbl.unfold root).exists_enumerates_hasClasses
  have hperm := Unfolding.template_perm ho hf objectPrefix hpaths hplaces
  refine ⟨_, _, _, Unfolding.compile_result _ hfocus objectPrefix, hpaths, hplaces, ?_, hperm,
    Unfolding.nodup_keys_template _ _ _, fun p hp => Unfolding.countP_object_template ho hf hp⟩
  rw [hperm.length_eq, List.length_append, List.length_map, List.length_map]

/-- Teams with two classes, whose members are known by `rdf:type` twice and share a shape that leads back
to itself. One property leads back to the team, and one is switched off. -/
def teamShapes : ShapeTable :=
  [⟨none, [exampleTerm "Team", exampleTerm "Club"],
      [⟨some rdfType, false, some 1⟩, ⟨some rdfType, false, some 1⟩, ⟨none, false, some 0⟩,
        ⟨some (exampleTerm "part"), true, some 0⟩]⟩,
    ⟨none, [exampleTerm "Person"], [⟨some (exampleTerm "knows"), false, some 1⟩]⟩]

theorem template_length_teamShapes :
    0 < teamShapes.length ∧ (∀ s ∈ teamShapes, ∀ c ∈ s.targets, c.isVariable = false) ∧
    Focus.resolve (some "x") none = .ok ⟨.var "x", "x"⟩ ∧
    (teamShapes.occurrences 0).Generates (.object 1 [0]) ∧
    ∃ (c : Compiled) (properties shapes : List (List Nat)),
      ((teamShapes.unfold 0).compile (some "x") none "targetClass").result = .ok c ∧
      Enumerates properties (teamShapes.occurrences 0).Live ∧
      Enumerates shapes (teamShapes.occurrences 0).HasClasses ∧
      c.template.length = properties.length + shapes.length ∧
      c.template.countP (fun t => t.object =
        some ((⟨.var "x", "x"⟩ : Focus).variableOf "targetClass" (.object 1 [0])).term) = 1 := by
  have hroot : 0 < teamShapes.length := by decide
  have htargets : ∀ s ∈ teamShapes, ∀ c ∈ s.targets, c.isVariable = false := by decide
  have hfocus : Focus.resolve (some "x") none = .ok ⟨.var "x", "x"⟩ := by decide
  have hgenerates : (teamShapes.occurrences 0).Generates (.object 1 [0]) := by
    show ((teamShapes.occurrences 0).pathAt? [1, 0]).isSome = true
    decide +kernel
  obtain ⟨c, properties, shapes, hc, hproperties, hshapes, hlength, _, _, hobject⟩ :=
    template_length_eq_occurrences teamShapes 0 hroot htargets (some "x") none _ hfocus "targetClass"
  exact ⟨hroot, htargets, hfocus, hgenerates, c, properties, shapes, hc, hproperties, hshapes, hlength,
    hobject _ hgenerates⟩

-- five properties and three shapes with classes
example : ((teamShapes.unfold 0).compile (some "x") none "targetClass").result.map
    (·.template.length) = .ok 8 := by
  decide +kernel

-- a class that is itself the variable of a position swallows the triple of the property there
example : ((ShapeTable.unfold [⟨none, [.var "x_0"], [⟨some rdfType, false, none⟩]⟩] 0).compile
    (some "x") none "").result.map (·.template) =
      .ok [⟨some (.var "x"), some rdfType, some (.var "x_0")⟩] := by
  decide +kernel

end ShaclQuery
