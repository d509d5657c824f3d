import ShaclQuery.Proofs.Evaluation
import ShaclQuery.Proofs.LivePaths

/-! # What alternatives bind

An alternative gives values to the variables of the places along its path, and to the class variables
of the shapes whose types stand in it. Names of places and classes differ, so a triple whose variables
an alternative binds is one of its own triples, with a single exception: the triple that says of the
last place of the path which class it has.
-/

namespace ShaclQuery

theorem Block.mem_triples {b : Block} {t : TriplePattern} :
    t ∈ b.triples ↔ .triple t ∈ b.elements := by
  unfold triples
  rw [List.mem_filterMap]
  constructor
  · rintro ⟨e, he, heq⟩
    cases e with
    | triple u => cases heq; exact he
    | oneOf term values => cases heq
  · intro h
    exact ⟨.triple t, h, rfl⟩

/-! ## 1. Elements of alternatives -/

theorem triple_mem_typeElements {targets : List Term} {focus : Focus} {t : TriplePattern} :
    .triple t ∈ typeElements targets focus ↔
      (∃ c, targets = [c] ∧ t = ⟨some focus.term, some rdfType, some c⟩) ∨
      (2 ≤ targets.length ∧ t = ⟨some focus.term, some rdfType, some focus.targetClass.term⟩) := by
  rcases targets with _ | ⟨c, _ | ⟨d, rest⟩⟩ <;> simp [typeElements]

theorem oneOf_mem_typeElements {targets : List Term} {focus : Focus} {term : Option Term}
    {values : List (Option Term)} :
    .oneOf term values ∈ typeElements targets focus ↔
      2 ≤ targets.length ∧ term = some focus.targetClass.term ∧ values = targets.map some := by
  rcases targets with _ | ⟨c, _ | ⟨d, rest⟩⟩ <;> simp [typeElements]

namespace Occurrences

variable {o : Occurrences} {focus : Focus} {objectPrefix : String} {path : List Nat}

theorem mem_typesAt {e : Element} : e ∈ o.typesAt focus objectPrefix path ↔
    ∃ s, o path = some s ∧ e ∈ typeElements s.targets (focus.below objectPrefix path) := by
  unfold typesAt
  cases o path with
  | none => simp
  | some s => simp

/-- A block holds the types met before the end of its path and the triples met up to there. -/
theorem mem_blockAt {e : Element} : e ∈ (o.blockAt focus objectPrefix path).elements ↔
    ∃ front n rest, path = front ++ n :: rest ∧ (e ∈ o.typesAt focus objectPrefix front ∨
      e = .triple (o.tripleAt focus objectPrefix (front ++ [n]))) := by
  unfold blockAt
  rw [List.mem_flatMap]
  constructor
  · rintro ⟨j, hj, he⟩
    rw [List.mem_range] at hj
    have hsplit : path = path.take j ++ path[j] :: path.drop (j + 1) := by
      rw [List.getElem_cons_drop, List.take_append_drop]
    refine ⟨path.take j, path[j], path.drop (j + 1), hsplit, ?_⟩
    rw [← List.take_succ_eq_append_getElem hj]
    simpa using he
  · rintro ⟨front, n, rest, rfl, he⟩
    refine ⟨front.length, by simp, ?_⟩
    have hfront : (front ++ n :: rest).take front.length = front := List.take_left
    have hnext : (front ++ n :: rest).take (front.length + 1) = front ++ [n] := by
      rw [List.take_append, List.take_of_length_le (by omega)]
      simp
    rw [hfront, hnext]
    simpa using he

theorem getLast?_blockAt (hpath : path ≠ []) :
    (o.blockAt focus objectPrefix path).elements.getLast? =
      some (.triple (o.tripleAt focus objectPrefix path)) := by
  obtain ⟨k, hk⟩ : ∃ k, path.length = k + 1 :=
    Nat.exists_eq_succ_of_ne_zero (fun h => hpath (List.length_eq_zero_iff.1 h))
  unfold blockAt
  rw [hk, List.range_succ, List.flatMap_append, List.flatMap_singleton, ← List.append_assoc,
    List.getLast?_concat, ← hk, List.take_length]

theorem mem_alternativesAt {b : Block} : b ∈ o.alternativesAt focus objectPrefix path ↔
    b = o.blockAt focus objectPrefix path ∨ ((o path).any Occurrence.isClassOnly = true ∧
      b = ⟨(o.blockAt focus objectPrefix path).elements ++
        o.typesAt focus objectPrefix path⟩) := by
  unfold alternativesAt
  by_cases honly : (o path).any Occurrence.isClassOnly = true
  · simp [honly]
  · simp [honly]

variable {b : Block} (hb : b ∈ o.alternativesAt focus objectPrefix path)

include hb

theorem mem_of_mem_blockAt {e : Element} (he : e ∈ (o.blockAt focus objectPrefix path).elements) :
    e ∈ b.elements := by
  obtain rfl | ⟨_, rfl⟩ := mem_alternativesAt.1 hb
  · exact he
  · exact List.mem_append_left _ he

/-- The types of every place before the end of the path stand in its alternatives. -/
theorem types_mem_alternative {place : List Nat} (hplace : place <+: path) (hne : place ≠ path)
    {e : Element} (he : e ∈ o.typesAt focus objectPrefix place) : e ∈ b.elements := by
  obtain ⟨tail, htail⟩ := hplace
  cases tail with
  | nil => exact absurd (by simpa using htail) hne
  | cons n rest =>
    exact mem_of_mem_blockAt hb (mem_blockAt.2 ⟨place, n, rest, htail.symm, Or.inl he⟩)

theorem triple_mem_alternative {place : List Nat} (hplace : place <+: path) (hne : place ≠ []) :
    .triple (o.tripleAt focus objectPrefix place) ∈ b.elements := by
  obtain ⟨tail, rfl⟩ := hplace
  obtain ⟨front, n, rfl⟩ := (List.eq_nil_or_concat' place).resolve_left hne
  refine mem_of_mem_blockAt hb (mem_blockAt.2 ⟨front, n, tail, ?_, Or.inr rfl⟩)
  simp

/-- An element of the alternative of a path comes from a place on the way: from its types, of which
the alternative then has all, or from the property that leads to it. -/
theorem mem_alternative_cases {e : Element} (he : e ∈ b.elements) :
    (∃ place, place <+: path ∧ e ∈ o.typesAt focus objectPrefix place ∧
      ∀ e' ∈ o.typesAt focus objectPrefix place, e' ∈ b.elements) ∨
    ∃ place, place <+: path ∧ place ≠ [] ∧ e = .triple (o.tripleAt focus objectPrefix place) := by
  have hblock (h : e ∈ (o.blockAt focus objectPrefix path).elements) :
      (∃ place, place <+: path ∧ e ∈ o.typesAt focus objectPrefix place ∧
        ∀ e' ∈ o.typesAt focus objectPrefix place, e' ∈ b.elements) ∨
      ∃ place, place <+: path ∧ place ≠ [] ∧
        e = .triple (o.tripleAt focus objectPrefix place) := by
    obtain ⟨front, n, rest, hpath, htypes | htriple⟩ := mem_blockAt.1 h
    · refine Or.inl ⟨front, ⟨n :: rest, hpath.symm⟩, htypes, fun e' he' => ?_⟩
      exact mem_of_mem_blockAt hb (mem_blockAt.2 ⟨front, n, rest, hpath, Or.inl he'⟩)
    · exact Or.inr ⟨front ++ [n], ⟨rest, by simp [hpath]⟩, by simp, htriple⟩
  obtain rfl | ⟨_, rfl⟩ := mem_alternativesAt.1 hb
  · exact hblock he
  · rcases List.mem_append.1 he with he | he
    · exact hblock he
    · exact Or.inl ⟨path, List.prefix_refl path, he, fun e' he' => List.mem_append_right _ he'⟩

end Occurrences

/-! ## 2. Variables of alternatives -/

/-- All target classes and all paths of the shapes that index paths lead to are IRIs. -/
def Occurrences.IrisOnly (o : Occurrences) : Prop := ∀ path s, o path = some s →
  (∀ c ∈ s.targets, c.isIri = true) ∧ ∀ p ∈ s.paths, p.any Term.isIri = true

theorem Term.isIri_iff {t : Term} : t.isIri = true ↔ ∃ text, t = .iri text := by
  cases t <;> simp [isIri]

theorem Occurrences.IrisOnly.exists_iri_of_single {o : Occurrences} (ho : o.IrisOnly)
    {path : List Nat} {s : Occurrence} (hs : o path = some s) {c : Term} (hc : s.targets = [c]) :
    ∃ text, c = .iri text := by
  have hmem : c ∈ s.targets := by rw [hc]; exact List.mem_singleton_self c
  exact Term.isIri_iff.1 ((ho path s hs).1 c hmem)

namespace Occurrences

variable {o : Occurrences} {focus : Focus} {objectPrefix : String} {path : List Nat}

/-- The path of the property that a live path ends with is an IRI. -/
theorem exists_iri_of_live (ho : o.IrisOnly) (h : o.Live path) :
    ∃ text, (o.pathAt? path).join = some (.iri text) := by
  obtain ⟨p, hpath⟩ := Option.isSome_iff_exists.1 h
  obtain ⟨n, _, hn⟩ := Option.bind_eq_some_iff.1 hpath
  obtain ⟨s, hs, hp⟩ := Option.bind_eq_some_iff.1 hn
  obtain ⟨t, rfl, ht⟩ := (Option.any_eq_true _ _).1 ((ho _ s hs).2 p (List.mem_of_getElem? hp))
  obtain ⟨text, rfl⟩ := Term.isIri_iff.1 ht
  rw [hpath]
  exact ⟨text, rfl⟩

theorem join_pathAt? (ho : o.IrisOnly) (path : List Nat) :
    (o.pathAt? path).join = none ∨ ∃ text, (o.pathAt? path).join = some (.iri text) := by
  by_cases hlive : o.Live path
  · exact Or.inr (exists_iri_of_live ho hlive)
  · have hnone : o.pathAt? path = none := by
      cases hpath : o.pathAt? path with
      | none => rfl
      | some p => exact absurd (by rw [Live, hpath]; rfl) hlive
    rw [hnone]
    exact Or.inl rfl

theorem mem_variables_tripleAt (ho : o.IrisOnly) {name : String}
    (h : name ∈ (o.tripleAt focus objectPrefix path).variables) :
    (focus.below objectPrefix path.dropLast).term = .var name ∨
      (focus.below objectPrefix path).term = .var name := by
  rcases TriplePattern.mem_variables.1 h with hsubject | hpredicate | hobject
  · exact Or.inl (Option.some.inj hsubject)
  · change (o.pathAt? path).join = some (.var name) at hpredicate
    rcases join_pathAt? ho path with hnone | ⟨text, htext⟩
    · rw [hnone] at hpredicate
      cases hpredicate
    · rw [htext] at hpredicate
      cases hpredicate
  · exact Or.inr (Option.some.inj hobject)

/-- The types of a place have no variables but that of the place and that of its class. -/
theorem mem_variables_typesAt (ho : o.IrisOnly) {t : TriplePattern}
    (ht : .triple t ∈ o.typesAt focus objectPrefix path) {name : String} (h : name ∈ t.variables) :
    (focus.below objectPrefix path).term = .var name ∨
      (focus.below objectPrefix path).targetClass.term = .var name := by
  obtain ⟨s, hs, htypes⟩ := mem_typesAt.1 ht
  rcases triple_mem_typeElements.1 htypes with ⟨c, hc, rfl⟩ | ⟨_, rfl⟩
  · rcases TriplePattern.mem_variables.1 h with hsubject | hpredicate | hobject
    · exact Or.inl (Option.some.inj hsubject)
    · cases hpredicate
    · obtain ⟨text, htext⟩ := ho.exists_iri_of_single hs hc
      rw [htext] at hobject
      cases hobject
  · rcases TriplePattern.mem_variables.1 h with hsubject | hpredicate | hobject
    · exact Or.inl (Option.some.inj hsubject)
    · cases hpredicate
    · exact Or.inr (Option.some.inj hobject)

variable {b : Block} (hb : b ∈ o.alternativesAt focus objectPrefix path)

include hb

/-- The variables of an alternative are those of the places along its path and the class variables
of the shapes whose types it holds. -/
theorem mem_variables_alternative (ho : o.IrisOnly) {name : String} (h : name ∈ b.variables) :
    (∃ place, place <+: path ∧ (focus.below objectPrefix place).term = .var name) ∨
    ∃ place, (focus.below objectPrefix place).targetClass.term = .var name ∧
      ∀ e ∈ o.typesAt focus objectPrefix place, e ∈ b.elements := by
  obtain ⟨t, ht, hname⟩ := List.mem_flatMap.1 h
  rcases mem_alternative_cases hb (Block.mem_triples.1 ht) with
    ⟨place, hplace, htypes, hall⟩ | ⟨place, hplace, _, htriple⟩
  · rcases mem_variables_typesAt ho htypes hname with hterm | hclass
    · exact Or.inl ⟨place, hplace, hterm⟩
    · exact Or.inr ⟨place, hclass, hall⟩
  · obtain rfl : t = o.tripleAt focus objectPrefix place := Element.triple.inj htriple
    rcases mem_variables_tripleAt ho hname with hsubject | hobject
    · exact Or.inl ⟨place.dropLast, (List.dropLast_prefix place).trans hplace, hsubject⟩
    · exact Or.inl ⟨place, hplace, hobject⟩

theorem prefix_of_mem_variables (ho : o.IrisOnly) (hf : focus.Accepted) {place : List Nat}
    (h : (focus.below objectPrefix place).name ∈ b.variables) : place <+: path := by
  rcases mem_variables_alternative hb ho h with ⟨other, hother, hterm⟩ | ⟨other, hclass, _⟩
  · have hname := Focus.name_of_term_below hf hterm
    exact Focus.name_below_injective hname ▸ hother
  · -- the name of a class is not the name of a place
    rw [Focus.term_targetClass hf, Term.var.injEq] at hclass
    exact absurd hclass (Focus.name_targetClass_ne other place)

theorem types_of_mem_variables (ho : o.IrisOnly) (hf : focus.Accepted) {place : List Nat}
    (h : (focus.below objectPrefix place).targetClass.name ∈ b.variables) {e : Element}
    (he : e ∈ o.typesAt focus objectPrefix place) : e ∈ b.elements := by
  rcases mem_variables_alternative hb ho h with ⟨other, _, hterm⟩ | ⟨other, hclass, hall⟩
  · have hname := Focus.name_of_term_below hf hterm
    exact absurd hname (Focus.name_targetClass_ne place other)
  · rw [Focus.term_targetClass hf, Term.var.injEq] at hclass
    rw [Focus.name_targetClass_injective hclass] at hall
    exact hall e he

end Occurrences

/-! ## 3. Triples that an alternative binds -/

namespace Occurrences

variable {o : Occurrences} {focus : Focus} {objectPrefix : String} {path : List Nat}

/-- A triple stands at some place below the shape, as a triple of types or as one of a property. -/
def Stands (o : Occurrences) (focus : Focus) (objectPrefix : String) (t : TriplePattern) : Prop :=
  (∃ place, .triple t ∈ o.typesAt focus objectPrefix place) ∨
  ∃ place, place ≠ [] ∧ t = o.tripleAt focus objectPrefix place

/-- A triple of the shape that an alternative binds is one of its own triples, or it gives the only
target class of the place that the alternative ends at. -/
theorem mem_triples_or_last_class (ho : o.IrisOnly) (hf : focus.Accepted) {b : Block}
    (hb : b ∈ o.alternativesAt focus objectPrefix path) (hpath : path ≠ []) {t : TriplePattern}
    (ht : o.Stands focus objectPrefix t) (hbound : ∀ name ∈ t.variables, name ∈ b.variables) :
    t ∈ b.triples ∨ (b = o.blockAt focus objectPrefix path ∧ ∃ s c, o path = some s ∧
      s.targets = [c] ∧ t = ⟨some (focus.below objectPrefix path).term, some rdfType, some c⟩) := by
  rcases ht with ⟨place, htypes⟩ | ⟨place, hplace, rfl⟩
  · obtain ⟨s, hs, helement⟩ := mem_typesAt.1 htypes
    rcases triple_mem_typeElements.1 helement with ⟨c, hc, rfl⟩ | ⟨_, rfl⟩
    · -- one class: only the subject has to be bound, so the place may be the last of the path
      by_cases hroot : place = []
      · subst hroot
        exact Or.inl (Block.mem_triples.2
          (types_mem_alternative hb List.nil_prefix hpath.symm htypes))
      · have hname : (focus.below objectPrefix place).name ∈ b.variables := by
          apply hbound
          exact TriplePattern.mem_variables.2
            (Or.inl (congrArg some (Focus.term_below hf objectPrefix hroot)))
        have hthrough : place <+: path := prefix_of_mem_variables hb ho hf hname
        by_cases hlast : place = path
        · subst hlast
          rcases mem_alternativesAt.1 hb with hblock | ⟨_, hblock⟩
          · exact Or.inr ⟨hblock, s, c, hs, hc, rfl⟩
          · refine Or.inl (Block.mem_triples.2 ?_)
            rw [hblock]
            exact List.mem_append_right _ htypes
        · exact Or.inl (Block.mem_triples.2 (types_mem_alternative hb hthrough hlast htypes))
    · -- several classes: the class variable is bound where the types stand, and nowhere else
      have hname : (focus.below objectPrefix place).targetClass.name ∈ b.variables := by
        apply hbound
        exact TriplePattern.mem_variables.2
          (Or.inr (Or.inr (congrArg some (Focus.term_targetClass hf objectPrefix place))))
      exact Or.inl (Block.mem_triples.2 (types_of_mem_variables hb ho hf hname htypes))
  · have hname : (focus.below objectPrefix place).name ∈ b.variables := by
      apply hbound
      exact TriplePattern.mem_variables.2
        (Or.inr (Or.inr (congrArg some (Focus.term_below hf objectPrefix hplace))))
    have hthrough : place <+: path := prefix_of_mem_variables hb ho hf hname
    exact Or.inl (Block.mem_triples.2 (triple_mem_alternative hb hthrough hplace))

end Occurrences

end ShaclQuery
