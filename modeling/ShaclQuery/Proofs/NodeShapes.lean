import ShaclQuery.Proofs.DocumentOrder
import ShaclQuery.Shape.Selection

/-! # The node shapes of a graph

The node shapes are found in three passes over the graph, which fill one list, and a last one that
leaves the nested nodes out unless nothing would remain. What comes out can be said of each node by
itself: whether it is a candidate, and whether it is nested. Both depend on the triples of the graph and
not on their order. So does the choice of a shape when none is named, but for the order in which several
are reported.
-/

namespace ShaclQuery

open Vocabulary

theorem Term.bareText_key (t : Term) : t.key.bareText = t.bareText := by
  cases t <;> rfl

/-- Choosing by a test that does not look beyond keys. -/
theorem mem_map_key_filter {q : Term → Bool} (hq : ∀ a b : Term, a.key = b.key → q a = q b)
    {l : List Term} {n : Term} :
    n.key ∈ (l.filter q).map Term.key ↔ n.key ∈ l.map Term.key ∧ q n = true := by
  simp only [List.mem_map, List.mem_filter]
  constructor
  · rintro ⟨a, ⟨ha, hqa⟩, hkey⟩
    exact ⟨⟨a, ha, hkey⟩, hq a n hkey ▸ hqa⟩
  · rintro ⟨⟨a, ha, hkey⟩, hqn⟩
    exact ⟨a, ⟨ha, (hq a n hkey).trans hqn⟩, hkey⟩

namespace Graph

variable {g : Graph}

/-! ## 1. Look-ups without a subject -/

theorem contains_eq_of_key_eq (g : Graph) {s s' p p' o o' : Term} (hs : s.key = s'.key)
    (hp : p.key = p'.key) (ho : o.key = o'.key) : g.contains ⟨s, p, o⟩ = g.contains ⟨s', p', o'⟩ := by
  unfold contains Triple.key
  rw [hs, hp, ho]

theorem contains_of_mem {t : Triple} (ht : t ∈ g.triples) : g.contains t = true :=
  List.any_eq_true.2 ⟨t, ht, beq_self_eq_true _⟩

theorem exists_of_contains {s p o : Term} (h : g.contains ⟨s, p, o⟩ = true) :
    ∃ t ∈ g.triples, t.subject.key = s.key ∧ t.predicate.key = p.key ∧ t.object.key = o.key := by
  obtain ⟨t, ht, hkey⟩ := List.any_eq_true.1 h
  have heq : t.key = Triple.key ⟨s, p, o⟩ := eq_of_beq hkey
  exact ⟨t, ht, congrArg Triple.subject heq, congrArg Triple.predicate heq,
    congrArg Triple.object heq⟩

theorem mem_subjects_iff {p o n : Term} :
    n.key ∈ (g.subjects p o).map Term.key ↔ g.contains ⟨n, p, o⟩ = true := by
  simp only [subjects, List.mem_map, List.mem_filterMap]
  constructor
  · rintro ⟨s, ⟨t, ht, hif⟩, hkey⟩
    split at hif
    · rename_i hsame
      rw [Bool.and_eq_true, Term.same_iff, Term.same_iff] at hsame
      cases hif
      rw [← contains_of_mem ht]
      exact g.contains_eq_of_key_eq hkey.symm hsame.1.symm hsame.2.symm
    · cases hif
  · intro h
    obtain ⟨t, ht, hs, hp, ho⟩ := exists_of_contains h
    exact ⟨t.subject, ⟨t, ht, by simp [Term.same_iff, hp, ho]⟩, hs⟩

theorem mem_objectsOf_iff {p n : Term} :
    n.key ∈ (g.objectsOf p).map Term.key ↔ ∃ s, g.contains ⟨s, p, n⟩ = true := by
  simp only [objectsOf, List.mem_map, List.mem_filterMap]
  constructor
  · rintro ⟨o, ⟨t, ht, hif⟩, hkey⟩
    split at hif
    · rename_i hsame
      cases hif
      refine ⟨t.subject, ?_⟩
      rw [← contains_of_mem ht]
      exact g.contains_eq_of_key_eq rfl (Term.same_iff.1 hsame).symm hkey.symm
    · cases hif
  · rintro ⟨s, h⟩
    obtain ⟨t, ht, _, hp, ho⟩ := exists_of_contains h
    exact ⟨t.object, ⟨t, ht, by simp [Term.same_iff, hp]⟩, ho⟩

theorem mem_subjectsOf_iff {p n : Term} :
    n.key ∈ (g.subjectsOf p).map Term.key ↔ ∃ o, g.contains ⟨n, p, o⟩ = true := by
  rw [subjectsOf, mem_map_distinctBy, List.map_flatMap, List.mem_flatMap]
  simp only [mem_subjects_iff]
  constructor
  · rintro ⟨o, _, h⟩
    exact ⟨o, h⟩
  · rintro ⟨o, h⟩
    -- the objects are gone through by the first term of each key
    have ho : o.key ∈ (distinctBy Term.key (g.objectsOf p)).map Term.key := by
      rw [mem_map_distinctBy]
      exact mem_objectsOf_iff.2 ⟨n, h⟩
    obtain ⟨o', ho', hkey⟩ := List.mem_map.1 ho
    exact ⟨o', ho', (g.contains_eq_of_key_eq rfl rfl hkey).trans h⟩

theorem has_iff {s p : Term} : g.has s p = true ↔ ∃ o, g.contains ⟨s, p, o⟩ = true := by
  simp only [contains_iff]
  unfold has value?
  cases g.objects s p with
  | nil => simp
  | cons o rest => exact iff_of_true rfl ⟨o, List.mem_cons_self⟩

/-! ## 2. Candidates -/

def IsTyped (g : Graph) (n : Term) : Prop :=
  g.contains ⟨n, rdfType, .iri (sh "NodeShape")⟩ = true

/-- The node may be a node shape: it has the type, or it has a target class or a property and no
path. -/
def Candidate (g : Graph) (n : Term) : Prop :=
  g.IsTyped n ∨
    ((∃ o, g.contains ⟨n, .iri (sh "targetClass"), o⟩ = true ∨
        g.contains ⟨n, .iri (sh "property"), o⟩ = true) ∧
      ¬∃ o, g.contains ⟨n, .iri (sh "path"), o⟩ = true)

def Nested (g : Graph) (n : Term) : Prop := ∃ s, g.contains ⟨s, .iri (sh "node"), n⟩ = true

theorem isNested_iff {n : Term} : g.isNested n = true ↔ g.Nested n := by
  unfold isNested Nested
  rw [← mem_objectsOf_iff]
  simp [Term.same_iff]

theorem has_congr (g : Graph) (p : Term) {s s' : Term} (h : s.key = s'.key) :
    g.has s p = g.has s' p := by
  unfold has
  rw [g.value?_congr h]

theorem isNested_congr (g : Graph) {n n' : Term} (h : n.key = n'.key) :
    g.isNested n = g.isNested n' := by
  unfold isNested Term.same
  rw [h]

theorem mem_shapeCandidates_iff {n : Term} :
    n.key ∈ g.shapeCandidates.map Term.key ↔ g.Candidate n := by
  unfold shapeCandidates Candidate
  rw [mem_map_distinctBy, List.map_append, List.mem_append, mem_subjects_iff,
    mem_map_key_filter fun a b h => by rw [g.has_congr _ h], List.map_append, List.mem_append,
    mem_subjectsOf_iff, mem_subjectsOf_iff, ← exists_or, ← has_iff, Bool.not_eq_true',
    Bool.not_eq_true]
  rfl

theorem nodup_shapeCandidates (g : Graph) : (g.shapeCandidates.map Term.key).Nodup :=
  nodup_map_distinctBy Term.key _

/-- Nodes with the type come before all others. -/
theorem isTyped_shapeCandidates (g : Graph) :
    g.shapeCandidates.Pairwise fun a b => g.IsTyped b → g.IsTyped a := by
  have htyped {a : Term} (h : a ∈ g.subjects rdfType (.iri (sh "NodeShape"))) : g.IsTyped a :=
    mem_subjects_iff.1 (List.mem_map_of_mem h)
  -- what the later passes add has not been found by the first, so it has no type
  unfold shapeCandidates
  rw [distinctBy_append, List.pairwise_append]
  refine ⟨?_, ?_, ?_⟩
  · apply List.pairwise_of_forall_mem_list
    intro a ha b _ _
    exact htyped (distinctBy_subset _ _ ha)
  · apply List.pairwise_of_forall_mem_list
    intro a _ b hb hbtyped
    have hnew : b.key ∉ (g.subjects rdfType (.iri (sh "NodeShape"))).map Term.key := by
      simpa using (List.mem_filter.1 hb).2
    exact absurd (mem_subjects_iff.2 hbtyped) hnew
  · intro a ha b _ _
    exact htyped (distinctBy_subset _ _ ha)

/-! ## 3. Node shapes -/

theorem nodeShapes_sublist (g : Graph) : g.nodeShapes.Sublist g.shapeCandidates := by
  unfold nodeShapes
  split
  · exact List.Sublist.refl _
  · rename_i top htop
    exact List.filter_sublist

theorem nodup_nodeShapes (g : Graph) : (g.nodeShapes.map Term.key).Nodup :=
  g.nodup_shapeCandidates.sublist (g.nodeShapes_sublist.map Term.key)

theorem mem_topLevel_iff {n : Term} :
    n.key ∈ (g.shapeCandidates.filter (!g.isNested ·)).map Term.key ↔
      g.Candidate n ∧ ¬g.Nested n := by
  rw [mem_map_key_filter fun a b h => by rw [g.isNested_congr h], mem_shapeCandidates_iff,
    ← isNested_iff, Bool.not_eq_true', Bool.not_eq_true]

/-- Nested candidates count only when all candidates are nested. -/
theorem mem_nodeShapes_iff {n : Term} :
    n.key ∈ g.nodeShapes.map Term.key ↔
      g.Candidate n ∧ ((∃ m, g.Candidate m ∧ ¬g.Nested m) → ¬g.Nested n) := by
  unfold nodeShapes
  split
  · rename_i hnone
    have hall : ¬∃ m, g.Candidate m ∧ ¬g.Nested m := by
      rintro ⟨m, hm⟩
      rw [← mem_topLevel_iff, hnone] at hm
      cases hm
    rw [mem_shapeCandidates_iff]
    exact ⟨fun h => ⟨h, fun hex => absurd hex hall⟩, fun h => h.1⟩
  · rename_i hsome
    have hex : ∃ m, g.Candidate m ∧ ¬g.Nested m := by
      obtain ⟨m, hm⟩ := List.exists_mem_of_ne_nil _ hsome
      exact ⟨m, mem_topLevel_iff.1 (List.mem_map_of_mem hm)⟩
    rw [mem_topLevel_iff]
    exact ⟨fun h => ⟨h.1, fun _ => h.2⟩, fun h => ⟨h.1, h.2 hex⟩⟩

namespace SameTriples

variable {g' : Graph}

theorem contains_eq (h : g.SameTriples g') : g.contains = g'.contains := funext h

theorem candidate_iff (h : g.SameTriples g') (n : Term) : g.Candidate n ↔ g'.Candidate n := by
  unfold Candidate IsTyped
  rw [h.contains_eq]

theorem nested_iff (h : g.SameTriples g') (n : Term) : g.Nested n ↔ g'.Nested n := by
  unfold Nested
  rw [h.contains_eq]

theorem nodeShapes_perm (h : g.SameTriples g') :
    (g.nodeShapes.map Term.key).Perm (g'.nodeShapes.map Term.key) := by
  have hmem (n : Term) : n.key ∈ g.nodeShapes.map Term.key ↔ n.key ∈ g'.nodeShapes.map Term.key := by
    simp only [mem_nodeShapes_iff, h.candidate_iff, h.nested_iff]
  rw [List.perm_ext_iff_of_nodup g.nodup_nodeShapes g'.nodup_nodeShapes]
  intro k
  constructor
  · intro hk
    obtain ⟨n, _, rfl⟩ := List.mem_map.1 hk
    exact (hmem n).1 hk
  · intro hk
    obtain ⟨n, _, rfl⟩ := List.mem_map.1 hk
    exact (hmem n).2 hk

end SameTriples

/-! ## 4. The choice of a shape -/

variable [ForeignTypes]

/-- What two graphs give for a shape that is not named: each reads its only node shape, and it is the
same; neither has any; or both have several, and report the same names. -/
inductive ChosenAlike (g g' : Graph) :
    Logged SelectionError ShapeView → Logged SelectionError ShapeView → Prop
  | only {n n' : Term} : g.nodeShapes = [n] → g'.nodeShapes = [n'] → n.key = n'.key →
    ChosenAlike g g' ((g.readShape n).mapError .order) ((g'.readShape n').mapError .order)
  | noneFound : g.nodeShapes = [] → g'.nodeShapes = [] →
    ChosenAlike g g' (.fail .noneFound) (.fail .noneFound)
  | several {found found' : List Term} : g.nodeShapes = found → g'.nodeShapes = found' →
    2 ≤ found.length → (found.map Term.bareText).Perm (found'.map Term.bareText) →
    ChosenAlike g g' (.fail (.several found)) (.fail (.several found'))

theorem resolveShape_unnamed (g : Graph) {iri : Option String} (hiri : iri ∈ [none, some ""]) :
    g.resolveShape iri =
      match g.nodeShapes with
      | [] => .fail .noneFound
      | [n] => (g.readShape n).mapError .order
      | found => .fail (.several found) := by
  have hselect : g.selectShape iri = g.selectShape none := by
    simp only [List.mem_cons, List.not_mem_nil, or_false] at hiri
    rcases hiri with rfl | rfl
    · rfl
    · rfl
  unfold resolveShape
  rw [hselect]
  unfold selectShape
  rcases g.nodeShapes with _ | ⟨n, _ | ⟨m, rest⟩⟩
  · rfl
  · rfl
  · rfl

/-- With one node shape or none the order of the triples has no say; with several it can only change
the order of their names. -/
theorem SameTriples.resolveShape_alike {g' : Graph} (h : g.SameTriples g') {iri : Option String}
    (hiri : iri ∈ [none, some ""]) :
    ChosenAlike g g' (g.resolveShape iri) (g'.resolveShape iri) := by
  have hperm := h.nodeShapes_perm
  have hnames : (g.nodeShapes.map Term.bareText).Perm (g'.nodeShapes.map Term.bareText) := by
    have hkeys := hperm.map Term.bareText
    simpa only [List.map_map, Function.comp_def, Term.bareText_key] using hkeys
  have hlength : g.nodeShapes.length = g'.nodeShapes.length := by
    simpa using hperm.length_eq
  rw [g.resolveShape_unnamed hiri, g'.resolveShape_unnamed hiri]
  -- none, one or several: it is the same number for both graphs
  rcases hfound : g.nodeShapes with _ | ⟨n, _ | ⟨m, rest⟩⟩
  · rw [hfound, List.length_nil] at hlength
    have hfound' := List.length_eq_zero_iff.1 hlength.symm
    rw [hfound']
    exact .noneFound hfound hfound'
  · rw [hfound] at hlength hperm
    obtain ⟨n', hfound'⟩ := List.length_eq_one_iff.1 hlength.symm
    rw [hfound'] at hperm ⊢
    have hkey : n.key = n'.key := by simpa using hperm.eq_singleton
    exact .only hfound hfound' hkey
  · rw [hfound] at hlength hnames
    rcases hfound' : g'.nodeShapes with _ | ⟨n', _ | ⟨m', rest'⟩⟩
    · rw [hfound'] at hlength
      cases hlength
    · rw [hfound'] at hlength
      cases hlength
    · rw [hfound'] at hnames
      exact .several hfound hfound' (by simp) hnames

end Graph

/-- The node shapes of a graph are listed once each, those with the type first. They are the candidates
that are not nested, or all candidates when each is nested. A graph with the same triples, in whatever
order they came, lists the same node shapes, and a shape that is not named is chosen alike. -/
theorem nodeShapes_eq_top_candidates [ForeignTypes] (g : Graph) :
    (g.nodeShapes.map Term.key).Nodup ∧
    (g.nodeShapes.Pairwise fun a b => g.IsTyped b → g.IsTyped a) ∧
    (∀ n, n.key ∈ g.nodeShapes.map Term.key ↔
      g.Candidate n ∧ ((∃ m, g.Candidate m ∧ ¬g.Nested m) → ¬g.Nested n)) ∧
    ∀ g' : Graph, g.SameTriples g' →
      (g.nodeShapes.map Term.key).Perm (g'.nodeShapes.map Term.key) ∧
      ∀ iri ∈ [none, some ""], g.ChosenAlike g' (g.resolveShape iri) (g'.resolveShape iri) := by
  refine ⟨g.nodup_nodeShapes, g.isTyped_shapeCandidates.sublist g.nodeShapes_sublist,
    fun n => Graph.mem_nodeShapes_iff, fun g' h => ⟨h.nodeShapes_perm, fun iri hiri => ?_⟩⟩
  exact h.resolveShape_alike hiri

def ringTriples : List Triple :=
  let shacl (name : String) : Term := .iri (sh name)
  [⟨exampleTerm "GroupShape", shacl "property", .blank "member"⟩,
    ⟨.blank "member", shacl "path", exampleTerm "member"⟩,
    ⟨.blank "member", shacl "node", exampleTerm "PersonShape"⟩,
    ⟨exampleTerm "PersonShape", rdfType, shacl "NodeShape"⟩,
    ⟨exampleTerm "PersonShape", shacl "property", .blank "group"⟩,
    ⟨.blank "group", shacl "path", exampleTerm "group"⟩,
    ⟨.blank "group", shacl "node", exampleTerm "GroupShape"⟩]

open scoped Standard

theorem nodeShapes_ringTriples :
    (Graph.ofList ringTriples).SameTriples (Graph.ofList ringTriples.reverse) ∧
    (Graph.ofList ringTriples).nodeShapes = [exampleTerm "PersonShape", exampleTerm "GroupShape"] ∧
    (Graph.ofList ringTriples).IsTyped (exampleTerm "PersonShape") ∧
    (Graph.ofList ringTriples).Candidate (exampleTerm "GroupShape") ∧
    (Graph.ofList ringTriples).ChosenAlike (Graph.ofList ringTriples.reverse)
      ((Graph.ofList ringTriples).resolveShape none)
      ((Graph.ofList ringTriples.reverse).resolveShape none) := by
  have hsame := Graph.sameTriples_ofList (List.reverse_perm ringTriples).symm
  have hfound : (Graph.ofList ringTriples).nodeShapes =
      [exampleTerm "PersonShape", exampleTerm "GroupShape"] := by
    decide +kernel
  obtain ⟨_, _, hmem, horder⟩ := nodeShapes_eq_top_candidates (Graph.ofList ringTriples)
  refine ⟨hsame, hfound, ?_, ?_, (horder _ hsame).2 none (by simp)⟩
  · show Graph.contains _ _ = true
    decide +kernel
  · apply ((hmem _).1 _).1
    rw [hfound]
    decide

end ShaclQuery
