import ShaclQuery.Proofs.Distinctness

/-! # A fixed focus

A shape can be compiled for a variable or for a fixed IRI. The IRI takes the place of the variable as
subject, and only there: objects are named from a name of their own, which is the same in both cases,
so no term below the root depends on the focus. Compiling for the IRI is compiling for the variable
`resource` and writing the IRI for it wherever it is the subject of a triple. Triples that were
different stay different, since no other subject is an IRI or that variable.
-/

namespace ShaclQuery

/-! ## 1. Another subject -/

def Term.replace (old new t : Term) : Term := if t = old then new else t

def TriplePattern.replaceSubject (old new : Term) (t : TriplePattern) : TriplePattern :=
  { t with subject := t.subject.map (Term.replace old new) }

def Element.replaceSubject (old new : Term) : Element → Element
  | .triple t => .triple (t.replaceSubject old new)
  | .oneOf v values => .oneOf v values

def Block.replaceSubject (old new : Term) (b : Block) : Block :=
  ⟨b.elements.map (Element.replaceSubject old new)⟩

/-- The pattern with `new` for `old` in the subjects of its triples. -/
def Pattern.replaceSubject (old new : Term) : Pattern → Pattern
  | .block b => .block (b.replaceSubject old new)
  | .union bs => .union (bs.map (Block.replaceSubject old new))

section Replacing

variable {old new : Term}

theorem Block.replaceSubject_prepend (head : List Element) (b : Block) :
    (b.prepend head).replaceSubject old new =
      (b.replaceSubject old new).prepend (head.map (Element.replaceSubject old new)) := by
  unfold prepend replaceSubject
  rw [List.map_append]

theorem Block.triples_replaceSubject (b : Block) :
    (b.replaceSubject old new).triples = b.triples.map (TriplePattern.replaceSubject old new) := by
  unfold triples replaceSubject
  rw [List.filterMap_map, List.map_filterMap]
  congr 1
  funext e
  cases e with
  | triple t => rfl
  | oneOf v values => rfl

namespace Pattern

theorem alternatives_replaceSubject (p : Pattern) : (p.replaceSubject old new).alternatives =
    p.alternatives.map (Block.replaceSubject old new) := by
  cases p with
  | block b => rfl
  | union bs => rfl

theorem triples_replaceSubject (p : Pattern) : (p.replaceSubject old new).triples =
    p.triples.map (TriplePattern.replaceSubject old new) := by
  unfold triples
  rw [alternatives_replaceSubject, List.flatMap_map, List.map_flatMap]
  exact congrArg (fun f => p.alternatives.flatMap f) (funext Block.triples_replaceSubject)

theorem collapse_replaceSubject (p : Pattern) :
    (p.replaceSubject old new).collapse = p.collapse.replaceSubject old new := by
  cases p with
  | block b => rfl
  | union bs =>
    -- replacing keeps the number of alternatives, on which collapsing depends
    rcases bs with _ | ⟨b, _ | ⟨c, rest⟩⟩
    · rfl
    · rfl
    · rfl

theorem replaceSubject_ofBranches (types : List Element) (branches : List Block) :
    (ofBranches types branches).replaceSubject old new =
      ofBranches (types.map (Element.replaceSubject old new))
        (branches.map (Block.replaceSubject old new)) := by
  cases branches with
  | nil => rfl
  | cons b rest =>
    show union (((b :: rest).map (Block.prepend types)).map (Block.replaceSubject old new)) =
      union (((b :: rest).map (Block.replaceSubject old new)).map (Block.prepend _))
    rw [List.map_map, List.map_map]
    congr 2
    funext c
    exact Block.replaceSubject_prepend types c

theorem replaceSubject_eq_empty_iff (p : Pattern) :
    p.replaceSubject old new = .block ⟨[]⟩ ↔ p = .block ⟨[]⟩ := by
  cases p with
  | block b =>
    obtain ⟨elements⟩ := b
    simp [replaceSubject, Block.replaceSubject]
  | union bs => simp [replaceSubject]

end Pattern

theorem map_alternatives_behind (triple : TriplePattern) (inside : Pattern) :
    ((behind triple inside).flatMap Pattern.alternatives).map (Block.replaceSubject old new) =
      (behind (triple.replaceSubject old new) (inside.replaceSubject old new)).flatMap
        Pattern.alternatives := by
  unfold behind
  by_cases hempty : inside = .block ⟨[]⟩
  · rw [if_pos hempty, if_pos ((Pattern.replaceSubject_eq_empty_iff inside).2 hempty)]
    rfl
  · rw [if_neg hempty, if_neg fun h => hempty ((Pattern.replaceSubject_eq_empty_iff inside).1 h),
      List.flatMap_singleton, List.flatMap_singleton, Pattern.alternatives_prepend,
      Pattern.alternatives_prepend, Pattern.alternatives_replaceSubject, List.map_map, List.map_map]
    exact List.map_congr_left fun b _ => Block.replaceSubject_prepend [.triple triple] b

end Replacing

/-! ## 2. Two focuses of one name -/

/-- Two focuses of one name such that `new` for `old` leads from the terms at the places below the
first to those below the second. -/
structure Focus.Replaces (old new : Term) (objectPrefix : String) (f f' : Focus) : Prop where
  name : f.name = f'.name
  term : ∀ path, Term.replace old new (f.below objectPrefix path).term =
    (f'.below objectPrefix path).term

namespace Focus

/-- Below the root a focus is known by its name. -/
theorem below_congr {f f' : Focus} (h : f.name = f'.name) (objectPrefix : String)
    {path : List Nat} (hpath : path ≠ []) :
    f.below objectPrefix path = f'.below objectPrefix path := by
  cases path with
  | nil => exact absurd rfl hpath
  | cons n rest => simp only [below, h]

namespace Replaces

variable {old new : Term} {objectPrefix : String} {f f' : Focus}

theorem object_eq (h : f.Replaces old new objectPrefix f') (n : Nat) :
    f.object n objectPrefix = f'.object n objectPrefix := by
  rw [Focus.object_eq, Focus.object_eq, below_congr h.name objectPrefix (List.cons_ne_nil n [])]

/-- The places below an object are places below the focus, and replacing leaves them as they are. -/
theorem object (h : f.Replaces old new objectPrefix f') (n : Nat) :
    (f.object n objectPrefix).Replaces old new "" (f.object n objectPrefix) where
  name := rfl
  term path := by
    rw [below_object, h.term, below_congr h.name objectPrefix (List.cons_ne_nil n path)]

end Replaces

/-- Below an accepted focus all places are variables that differ from it, so that the replacement
meets only the focus itself. -/
theorem replaces_of_accepted {f : Focus} (hf : f.Accepted) (f' : Focus) (hname : f.name = f'.name)
    (objectPrefix : String) : f.Replaces f.term f'.term objectPrefix f' where
  name := hname
  term path := by
    unfold Term.replace
    cases path with
    | nil => exact if_pos rfl
    | cons n rest =>
      -- no place below the root has the term of the root
      have hne : (f.below objectPrefix (n :: rest)).term ≠ f.term := by
        intro heq
        have hroot : (f.below objectPrefix (n :: rest)).term = (f.below objectPrefix []).term := heq
        cases term_below_injective hf hroot
      rw [if_neg hne, below_congr hname objectPrefix (List.cons_ne_nil n rest)]

end Focus

section OneName

variable {old new : Term} {objectPrefix : String} {f f' : Focus}

theorem map_typeElements (h : f.Replaces old new objectPrefix f') (targets : List Term) :
    (typeElements targets f).map (Element.replaceSubject old new) = typeElements targets f' := by
  have hterm : Term.replace old new f.term = f'.term := h.term []
  have hclass : f.targetClass = f'.targetClass := by
    unfold Focus.targetClass Focus.extend
    rw [h.name]
  rcases targets with _ | ⟨c, _ | ⟨d, rest⟩⟩
  · rfl
  · simp [typeElements, Element.replaceSubject, TriplePattern.replaceSubject, hterm]
  · simp [typeElements, Element.replaceSubject, TriplePattern.replaceSubject, hterm, hclass]

theorem replaceSubject_propertyTriple (h : f.Replaces old new objectPrefix f')
    (path : Option Term) (n : Nat) :
    (propertyTriple f path (f.object n objectPrefix)).replaceSubject old new =
      propertyTriple f' path (f'.object n objectPrefix) := by
  have hterm : Term.replace old new f.term = f'.term := h.term []
  rw [← h.object_eq n]
  simp [propertyTriple, TriplePattern.replaceSubject, hterm]

theorem replaceSubject_propertyBlock (h : f.Replaces old new objectPrefix f')
    (path : Option Term) (n : Nat) :
    (⟨[.triple (propertyTriple f path (f.object n objectPrefix))]⟩ : Block).replaceSubject old new =
      ⟨[.triple (propertyTriple f' path (f'.object n objectPrefix))]⟩ := by
  rw [← replaceSubject_propertyTriple h]
  rfl

/-! ## 3. Pattern and template -/

theorem Branches.map_alternatives (h : f.Replaces old new objectPrefix f') (b : Branches)
    (i : Nat) :
    (b.alternatives f objectPrefix i).map (Block.replaceSubject old new) =
      b.alternatives f' objectPrefix i := by
  -- a nested shape stands at an object, for which the two focuses are one and the prefix is dropped
  induction b generalizing f f' objectPrefix i with
  | nil => rfl
  | leaf path rest ih =>
    rw [alternatives, alternatives, List.map_cons, replaceSubject_propertyBlock h, ih h]
  | cyclic path shape rest ih =>
    rw [alternatives, alternatives, List.map_cons, replaceSubject_propertyBlock h, ih h]
  | nested path targets inner rest ihInner ihRest =>
    rw [alternatives, alternatives, List.map_cons, List.map_append, replaceSubject_propertyBlock h,
      map_alternatives_behind, replaceSubject_propertyTriple h, Pattern.replaceSubject_ofBranches,
      map_typeElements (h.object i), ihInner (h.object i), ihRest h, h.object_eq]

theorem Unfolding.replaceSubject_pattern (h : f.Replaces old new objectPrefix f') (u : Unfolding) :
    (u.pattern f objectPrefix).replaceSubject old new = u.pattern f' objectPrefix := by
  unfold pattern
  rw [Pattern.replaceSubject_ofBranches, map_typeElements h, Branches.map_alternatives h]

end OneName

/-- A map that keeps keys apart, and together, keeps first occurrences. -/
theorem map_distinctBy {α β : Type} [DecidableEq β] {key : α → β} {f : α → α} {l : List α}
    (h : ∀ a ∈ l, ∀ b ∈ l, key (f a) = key (f b) ↔ key a = key b) :
    (distinctBy key l).map f = distinctBy key (l.map f) := by
  induction l with
  | nil => rfl
  | cons a rest ih =>
    have hrest := ih fun b hb c hc =>
      h b (List.mem_cons_of_mem a hb) c (List.mem_cons_of_mem a hc)
    rw [List.map_cons, distinctBy, distinctBy, List.map_cons, ← hrest, List.filter_map]
    congr 2
    apply List.filter_congr
    intro b hb
    have hmem : b ∈ a :: rest := List.mem_cons_of_mem a (distinctBy_subset key rest hb)
    simp only [Function.comp_apply, ne_eq, h b hmem a List.mem_cons_self]

theorem Unfolding.exists_subject_of_mem_triples {u : Unfolding} {focus : Focus}
    {objectPrefix : String} {t : TriplePattern} (ht : t ∈ (u.pattern focus objectPrefix).triples) :
    ∃ place, t.subject = some (focus.below objectPrefix place).term := by
  rcases stands_of_mem_triples ht with ⟨place, htypes⟩ | ⟨place, _, rfl⟩
  · obtain ⟨s, _, helement⟩ := Occurrences.mem_typesAt.1 htypes
    rcases triple_mem_typeElements.1 helement with ⟨c, _, rfl⟩ | ⟨_, rfl⟩
    · exact ⟨place, rfl⟩
    · exact ⟨place, rfl⟩
  · exact ⟨place.dropLast, rfl⟩

/-- Replacing the term of the focus merges no two triples of a shape. -/
theorem Unfolding.key_replaceSubject_eq_iff {u : Unfolding} {f f' : Focus} (hf : f.Accepted)
    (hf' : f'.Accepted) {objectPrefix : String}
    (h : f.Replaces f.term f'.term objectPrefix f') {t t' : TriplePattern}
    (ht : t ∈ (u.pattern f objectPrefix).triples) (ht' : t' ∈ (u.pattern f objectPrefix).triples) :
    (t.replaceSubject f.term f'.term).key = (t'.replaceSubject f.term f'.term).key ↔
      t.key = t'.key := by
  obtain ⟨place, hplace⟩ := exists_subject_of_mem_triples ht
  obtain ⟨place', hplace'⟩ := exists_subject_of_mem_triples ht'
  have hsubject : (f'.below objectPrefix place).term = (f'.below objectPrefix place').term ↔
      (f.below objectPrefix place).term = (f.below objectPrefix place').term := by
    constructor
    · intro heq
      rw [Focus.term_below_injective hf' heq]
    · intro heq
      rw [Focus.term_below_injective hf heq]
  simp only [TriplePattern.key, TriplePattern.replaceSubject, hplace, hplace', Option.map_some,
    h.term, Focus.key_term_below hf, Focus.key_term_below hf', TriplePattern.mk.injEq,
    Option.some.injEq, hsubject]

/-- Compiling a shape of a table for a fixed IRI gives what compiling it for the variable `resource`
gives, with the IRI for this variable in the subjects of all triples. The triples of the template
are still pairwise different. -/
theorem fixed_focus_replaces_variable (tbl : ShapeTable) (root : Nat) (iri objectPrefix : String) :
    ∃ c c' : Compiled,
      ((tbl.unfold root).compile (some "resource") none objectPrefix).result = .ok c ∧
      ((tbl.unfold root).compile none (some (.iri iri)) objectPrefix).result = .ok c' ∧
      c'.wherePattern = c.wherePattern.replaceSubject (.var "resource") (.iri iri) ∧
      c'.template = c.template.map (TriplePattern.replaceSubject (.var "resource") (.iri iri)) ∧
      c'.template.Pairwise fun t t' => t.key ≠ t'.key := by
  have hvariable : Focus.resolve (some "resource") none = .ok ⟨.var "resource", "resource"⟩ := by
    decide
  have hfixed : Focus.resolve none (some (.iri iri)) = .ok ⟨.iri iri, "resource"⟩ := rfl
  have hf := Focus.accepted_of_resolve hvariable
  have hf' := Focus.accepted_of_resolve hfixed
  have hreplaces := Focus.replaces_of_accepted hf ⟨.iri iri, "resource"⟩ rfl objectPrefix
  have hpattern := Unfolding.replaceSubject_pattern hreplaces (tbl.unfold root)
  refine ⟨_, _, Unfolding.compile_result _ hvariable objectPrefix,
    Unfolding.compile_result _ hfixed objectPrefix, ?_, ?_, distinctBy_pairwise _ _⟩
  · unfold Unfolding.query
    rw [← hpattern, Pattern.collapse_replaceSubject]
  · unfold Unfolding.query
    rw [← hpattern, Pattern.triples_replaceSubject, map_distinctBy]
    intro t ht t' ht'
    exact Unfolding.key_replaceSubject_eq_iff hf hf' hreplaces ht ht'

end ShaclQuery
