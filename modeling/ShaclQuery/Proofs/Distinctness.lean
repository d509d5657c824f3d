import ShaclQuery.Proofs.Construct

/-! # Alternatives are pairwise different

Nothing compares the alternatives of a union while it is built. That no two of them are the same
rests on their last elements: a block that ends with the triple of a property has the variable of its
path there as object, and a block that ends with types has it as subject or in the name of the class.
A triple of types can have the variable of another path as object, since any term may be a target
class; but then its subject is the place above that path, and a shape with nothing but target classes
has no place below it.
-/

namespace ShaclQuery

/-! ## 1. Terms of places -/

theorem Focus.term_below_injective {f : Focus} (hf : f.Accepted) {objectPrefix : String}
    {path path' : List Nat}
    (h : (f.below objectPrefix path).term = (f.below objectPrefix path').term) : path = path' := by
  by_cases hpath' : path' = []
  · by_cases hpath : path = []
    · rw [hpath, hpath']
    · -- the term at `path` is a variable, and at the root it can only be the variable of the name
      have hterm : (f.below objectPrefix path').term = .var (f.below objectPrefix path).name := by
        rw [← h, term_below hf objectPrefix hpath]
      exact name_below_injective (name_of_term_below hf hterm)
  · have hterm : (f.below objectPrefix path).term = .var (f.below objectPrefix path').name := by
      rw [h, term_below hf objectPrefix hpath']
    exact (name_below_injective (name_of_term_below hf hterm)).symm

/-! ## 2. The end of an alternative -/

def Block.lastKey (b : Block) : Option Element := b.elements.getLast?.map Element.key

theorem Block.lastKey_eq_of_key_eq {b b' : Block} (h : b.key = b'.key) :
    b.lastKey = b'.lastKey := by
  have helements : b.elements.map Element.key = b'.elements.map Element.key :=
    congrArg Block.elements h
  unfold lastKey
  rw [← List.getLast?_map, helements, List.getLast?_map]

/-- Types end with the triple of the focus and its only class, or with the filter on the class. -/
theorem getLast?_typeElements {targets : List Term} (h : targets ≠ []) (focus : Focus) :
    (∃ c, (typeElements targets focus).getLast? =
      some (.triple ⟨some focus.term, some rdfType, some c⟩)) ∨
    (typeElements targets focus).getLast? =
      some (.oneOf (some focus.targetClass.term) (targets.map some)) := by
  rcases targets with _ | ⟨c, _ | ⟨d, rest⟩⟩
  · exact absurd rfl h
  · exact Or.inl ⟨c, rfl⟩
  · exact Or.inr rfl

theorem Occurrence.targets_ne_nil_of_isClassOnly {s : Occurrence} (h : s.isClassOnly = true) :
    s.targets ≠ [] := by
  intro hnil
  rw [isClassOnly, hnil] at h
  cases h

namespace Occurrences

variable {o : Occurrences} {focus : Focus} {objectPrefix : String} {path : List Nat}

theorem typesAt_eq {s : Occurrence} (hs : o path = some s) : o.typesAt focus objectPrefix path =
    typeElements s.targets (focus.below objectPrefix path) := by
  rw [typesAt, hs]
  rfl

theorem lastKey_blockAt (hf : focus.Accepted) (hpath : path ≠ []) :
    (o.blockAt focus objectPrefix path).lastKey =
      some (.triple ⟨some (focus.below objectPrefix path.dropLast).term,
        (o.pathAt? path).join.map Term.key, some (focus.below objectPrefix path).term⟩) := by
  rw [Block.lastKey, getLast?_blockAt hpath, Option.map_some, Element.key, TriplePattern.key,
    tripleAt, Option.map_some, Option.map_some, Focus.key_term_below hf, Focus.key_term_below hf]

/-- A block with types behind it ends with these types. -/
theorem lastKey_types (hf : focus.Accepted) {s : Occurrence} (hs : o path = some s)
    (htargets : s.targets ≠ []) (front : List Element) :
    (∃ c, (⟨front ++ o.typesAt focus objectPrefix path⟩ : Block).lastKey =
      some (.triple ⟨some (focus.below objectPrefix path).term, some rdfType, c⟩)) ∨
    ∃ values, (⟨front ++ o.typesAt focus objectPrefix path⟩ : Block).lastKey =
      some (.oneOf (some (focus.below objectPrefix path).targetClass.term) values) := by
  rw [typesAt_eq hs]
  rcases getLast?_typeElements htargets (focus.below objectPrefix path) with ⟨c, hlast⟩ | hlast
  · left
    refine ⟨some c.key, ?_⟩
    rw [Block.lastKey, List.getLast?_append, hlast]
    show some (Element.triple ⟨some (focus.below objectPrefix path).term.key, _, _⟩) = _
    rw [Focus.key_term_below hf]
    rfl
  · right
    refine ⟨(s.targets.map some).map (·.map Term.key), ?_⟩
    rw [Block.lastKey, List.getLast?_append, hlast]
    show some (Element.oneOf (some (focus.below objectPrefix path).targetClass.term.key) _) = _
    rw [Focus.term_targetClass hf]
    rfl

/-- How an alternative of a path ends: with the triple of the path's last property, or with the types
of a shape that has nothing else. -/
theorem lastKey_alternative (hf : focus.Accepted) (hpath : path ≠ []) {b : Block}
    (hb : b ∈ o.alternativesAt focus objectPrefix path) :
    (∃ p, b.lastKey = some (.triple ⟨some (focus.below objectPrefix path.dropLast).term, p,
      some (focus.below objectPrefix path).term⟩)) ∨
    ((o path).any Occurrence.isClassOnly = true ∧
      ((∃ c, b.lastKey =
        some (.triple ⟨some (focus.below objectPrefix path).term, some rdfType, c⟩)) ∨
      ∃ values, b.lastKey =
        some (.oneOf (some (focus.below objectPrefix path).targetClass.term) values))) := by
  obtain rfl | ⟨honly, rfl⟩ := mem_alternativesAt.1 hb
  · exact Or.inl ⟨_, lastKey_blockAt hf hpath⟩
  · right
    refine ⟨honly, ?_⟩
    obtain ⟨s, hs, hclass⟩ := (Option.any_eq_true _ _).1 honly
    exact lastKey_types hf hs (Occurrence.targets_ne_nil_of_isClassOnly hclass) _

/-- A shape that a live path passes through has a property, so it does not consist of classes. -/
theorem isClassOnly_dropLast (hlive : o.Live path) :
    (o path.dropLast).any Occurrence.isClassOnly = false := by
  obtain ⟨p, hp⟩ := Option.isSome_iff_exists.1 hlive
  obtain ⟨n, _, hn⟩ := Option.bind_eq_some_iff.1 hp
  obtain ⟨s, hs, hproperty⟩ := Option.bind_eq_some_iff.1 hn
  have hpaths : s.paths.isEmpty = false := by
    cases hempty : s.paths with
    | nil =>
      rw [hempty] at hproperty
      cases hproperty
    | cons q rest => rfl
  rw [hs, Option.any_some, Occurrence.isClassOnly, hpaths, Bool.and_false]

/-! ## 3. No alternative is repeated -/

/-- Alternatives of different live paths are different. -/
theorem path_eq_of_key_eq (hf : focus.Accepted) {path' : List Nat} (hlive : o.Live path)
    (hlive' : o.Live path') (hpath : path ≠ []) (hpath' : path' ≠ []) {b b' : Block}
    (hb : b ∈ o.alternativesAt focus objectPrefix path)
    (hb' : b' ∈ o.alternativesAt focus objectPrefix path') (hkey : b.key = b'.key) :
    path = path' := by
  have hlast := Block.lastKey_eq_of_key_eq hkey
  -- three ends on each side; a triple and a filter are never the same, which leaves five pairs
  rcases lastKey_alternative hf hpath hb with ⟨p, hend⟩ | ⟨honly, ⟨c, hend⟩ | ⟨values, hend⟩⟩ <;>
    rcases lastKey_alternative hf hpath' hb' with
      ⟨p', hend'⟩ | ⟨honly', ⟨c', hend'⟩ | ⟨values', hend'⟩⟩ <;>
    rw [hend, hend'] at hlast <;> simp only [Option.some.injEq, Element.triple.injEq,
      Element.oneOf.injEq, TriplePattern.mk.injEq, reduceCtorEq] at hlast
  · exact Focus.term_below_injective hf hlast.2.2
  · -- a triple of a property and one of types: the second shape would have a property
    have hplace : path.dropLast = path' := Focus.term_below_injective hf hlast.1
    rw [← hplace, isClassOnly_dropLast hlive] at honly'
    cases honly'
  · have hplace : path = path'.dropLast := Focus.term_below_injective hf hlast.1
    rw [hplace, isClassOnly_dropLast hlive'] at honly
    cases honly
  · exact Focus.term_below_injective hf hlast.1
  · have hclass := hlast.1
    rw [Focus.term_targetClass hf, Focus.term_targetClass hf, Term.var.injEq] at hclass
    exact Focus.name_targetClass_injective hclass

/-- The alternatives of one path differ in their numbers of elements. -/
theorem pairwise_alternativesAt (o : Occurrences) (focus : Focus) (objectPrefix : String)
    (path : List Nat) :
    (o.alternativesAt focus objectPrefix path).Pairwise fun b b' => b.key ≠ b'.key := by
  unfold alternativesAt
  split
  · rename_i honly
    obtain ⟨s, hs, hclass⟩ := (Option.any_eq_true _ _).1 honly
    have htypes : o.typesAt focus objectPrefix path ≠ [] := by
      rw [typesAt_eq hs, Ne, typeElements_eq_nil_iff]
      exact Occurrence.targets_ne_nil_of_isClassOnly hclass
    rw [List.pairwise_pair]
    intro hkey
    have hlength := congrArg (fun b : Block => b.elements.length) hkey
    simp only [Block.key, List.length_map, List.length_append] at hlength
    have hpositive := List.length_pos_iff.2 htypes
    omega
  · exact List.pairwise_singleton _ _

end Occurrences

/-- A pattern without repetitions: a block, or a union of at least two blocks no two of which are the
same. -/
def Pattern.Irredundant : Pattern → Prop
  | .block _ => True
  | .union bs => 2 ≤ bs.length ∧ (bs.map Block.key).Nodup

theorem Pattern.irredundant_collapse {p : Pattern} (hne : p.alternatives ≠ [])
    (hnodup : (p.alternatives.map Block.key).Nodup) : p.collapse.Irredundant := by
  rcases p with b | bs
  · exact trivial
  · rcases bs with _ | ⟨b, _ | ⟨c, rest⟩⟩
    · exact absurd rfl hne
    · exact trivial
    · refine ⟨?_, hnodup⟩
      simp only [List.length_cons]
      omega

namespace Unfolding

/-- No two alternatives are equal, since the last element of each tells the path that it is for. -/
theorem nodup_alternatives_pattern (u : Unfolding) {focus : Focus} (hf : focus.Accepted)
    (objectPrefix : String) :
    ((u.pattern focus objectPrefix).alternatives.map Block.key).Nodup := by
  rw [List.nodup_iff_pairwise_ne, List.pairwise_map, pattern]
  by_cases hnil : u.branches = .nil
  · rw [hnil]
    exact List.pairwise_singleton _ _
  · have halts : u.branches.alternatives focus objectPrefix 0 ≠ [] := fun h =>
      hnil ((Branches.alternatives_eq_nil_iff _ _ _ _).1 h)
    rw [Pattern.ofBranches_of_ne_nil _ halts]
    show ((u.branches.alternatives focus objectPrefix 0).map
      (Block.prepend (typeElements u.targets focus))).Pairwise _
    rw [alternatives_eq_flatMap_paths, List.pairwise_flatMap]
    refine ⟨fun path _ => Occurrences.pairwise_alternativesAt _ _ _ _, ?_⟩
    -- the paths are in strict order, so two of them are different
    apply (Branches.paths_pairwise_lex u.branches 0).imp_of_mem
    intro path path' hmem hmem' hlt b hb b' hb' hkey
    have hpath : path ≠ [] := fun h => u.nil_not_mem_paths (h ▸ hmem)
    have hpath' : path' ≠ [] := fun h => u.nil_not_mem_paths (h ▸ hmem')
    rw [mem_paths_iff_live] at hmem hmem'
    have hsame := Occurrences.path_eq_of_key_eq hf hmem hmem' hpath hpath' hb hb' hkey
    rw [hsame] at hlt
    exact List.lt_irrefl path' hlt

theorem irredundant_pattern (u : Unfolding) {focus : Focus} (hf : focus.Accepted)
    (objectPrefix : String) : (u.pattern focus objectPrefix).collapse.Irredundant :=
  Pattern.irredundant_collapse (Pattern.alternatives_ofBranches_ne_nil _ _)
    (u.nodup_alternatives_pattern hf objectPrefix)

end Unfolding

/-- For every shape of every table and every accepted focus, the compiled WHERE pattern is a block or
a union of at least two blocks that are pairwise different, whatever terms the target classes and the
paths are. -/
theorem compiled_pattern_irredundant (tbl : ShapeTable) (root : Nat)
    (subjectVariable : Option String) (focusNode : Option Term) (focus : Focus)
    (hfocus : Focus.resolve subjectVariable focusNode = .ok focus) (objectPrefix : String) :
    (∃ c : Compiled,
      ((tbl.unfold root).compile subjectVariable focusNode objectPrefix).result = .ok c ∧
      c.wherePattern.Irredundant) ∧
    (focusNode = none → ∃ p : Pattern,
      ((tbl.unfold root).compileWhere subjectVariable objectPrefix).result = .ok p ∧
      p.Irredundant) := by
  have hf := Focus.accepted_of_resolve hfocus
  constructor
  · exact ⟨_, Unfolding.compile_result _ hfocus objectPrefix,
      Unfolding.irredundant_pattern _ hf objectPrefix⟩
  · intro hnone
    rw [hnone] at hfocus
    exact ⟨_, Unfolding.compileWhere_result _ hfocus objectPrefix,
      Unfolding.irredundant_pattern _ hf objectPrefix⟩

/-- A shape with the same path and the same nested shape three times, the last of them behind a shape
in between. The only class of the nested shape is a variable that is the name of a place. -/
def entangledShapes : ShapeTable :=
  [⟨none, [], [⟨some rdfType, false, some 1⟩, ⟨some rdfType, false, some 1⟩,
      ⟨some rdfType, false, some 2⟩]⟩,
    ⟨none, [.var "x_2_0"], []⟩, ⟨none, [], [⟨some rdfType, false, some 1⟩]⟩]

theorem compiled_pattern_entangledShapes :
    Focus.resolve (some "x") none = .ok ⟨.var "x", "x"⟩ ∧
    (∃ c : Compiled, ((entangledShapes.unfold 0).compile (some "x") none "").result = .ok c ∧
      c.wherePattern.Irredundant) ∧
    ∃ p : Pattern, ((entangledShapes.unfold 0).compileWhere (some "x") "").result = .ok p ∧
      p.Irredundant := by
  have hfocus : Focus.resolve (some "x") none = .ok ⟨.var "x", "x"⟩ := by decide
  obtain ⟨hcompile, hwhere⟩ :=
    compiled_pattern_irredundant entangledShapes 0 (some "x") none _ hfocus ""
  exact ⟨hfocus, hcompile, hwhere rfl⟩

end ShaclQuery
