import Mathlib.Data.List.Basic
import ShaclQuery.Proofs.Alternatives
import ShaclQuery.Proofs.Names
import ShaclQuery.Proofs.Occurrences

/-! # Alternatives and live paths

The WHERE pattern of a shape has one alternative for every live index path, in the order of a walk
that reads a path before its extensions: the types and triples met along the path. A path to a shape
that has target classes and no properties has a second one, with the types of that shape at its end.
-/

namespace ShaclQuery

/-! ## 1. Live paths in order -/

namespace Branches

def paths : Branches → Nat → List (List Nat)
  | .nil, _ => []
  | .leaf _ rest, i => [i] :: rest.paths (i + 1)
  | .cyclic _ _ rest, i => [i] :: rest.paths (i + 1)
  | .nested _ _ inner rest, i => [i] :: ((inner.paths 0).map (i :: ·) ++ rest.paths (i + 1))

end Branches

def Descent.paths (d : Descent) (n : Nat) : List (List Nat) :=
  [n] :: (d.unfolding?.map fun u => (u.branches.paths 0).map (n :: ·)).getD []

theorem Descent.paths_of_none {d : Descent} (h : d.unfolding? = .none) (n : Nat) :
    d.paths n = [[n]] := by
  rw [paths, h]
  rfl

theorem Descent.paths_of_some {d : Descent} {u : Unfolding} (h : d.unfolding? = some u) (n : Nat) :
    d.paths n = [n] :: (u.branches.paths 0).map (n :: ·) := by
  rw [paths, h]
  rfl

theorem Descent.mem_paths {d : Descent} {n : Nat} {path : List Nat} :
    path ∈ d.paths n ↔ path = [n] ∨
      ∃ u rest, d.unfolding? = some u ∧ rest ∈ u.branches.paths 0 ∧ path = n :: rest := by
  cases hdescent : d.unfolding? with
  | none => simp [paths_of_none hdescent]
  | some u => simp [paths_of_some hdescent, eq_comm]

namespace Branches

theorem paths_eq_flatMap (b : Branches) (i : Nat) :
    b.paths i = (b.toList.zipIdx i).flatMap fun x => x.1.2.paths x.2 := by
  induction b generalizing i with
  | nil => rfl
  | leaf _ rest ih => rw [paths, ih, toList]; rfl
  | cyclic _ _ rest ih => rw [paths, ih, toList]; rfl
  | nested _ targets inner rest _ ih => rw [paths, ih, toList]; rfl

theorem exists_cons_of_mem_paths {b : Branches} {i : Nat} {path : List Nat}
    (h : path ∈ b.paths i) : ∃ n rest, i ≤ n ∧ path = n :: rest := by
  rw [paths_eq_flatMap] at h
  obtain ⟨x, hx, hpath⟩ := List.mem_flatMap.1 h
  have hle := List.le_snd_of_mem_zipIdx hx
  obtain rfl | ⟨u, rest, _, _, rfl⟩ := Descent.mem_paths.1 hpath
  · exact ⟨x.2, [], hle, rfl⟩
  · exact ⟨x.2, rest, hle, rfl⟩

theorem lex_of_mem_paths {b : Branches} {i : Nat} {path : List Nat} (rest : List Nat)
    (h : path ∈ b.paths (i + 1)) : List.Lex (· < ·) (i :: rest) path := by
  obtain ⟨n, more, hn, rfl⟩ := exists_cons_of_mem_paths h
  exact List.Lex.rel (by omega)

/-- The index paths stand in lexicographic order, a path before its extensions. -/
theorem paths_pairwise_lex (b : Branches) (i : Nat) :
    (b.paths i).Pairwise (List.Lex (· < ·)) := by
  induction b generalizing i with
  | nil => exact List.Pairwise.nil
  | leaf _ rest ih =>
    exact List.pairwise_cons.2 ⟨fun _ h => lex_of_mem_paths [] h, ih (i + 1)⟩
  | cyclic _ _ rest ih =>
    exact List.pairwise_cons.2 ⟨fun _ h => lex_of_mem_paths [] h, ih (i + 1)⟩
  | nested _ _ inner rest ihInner ihRest =>
    refine List.pairwise_cons.2 ⟨?_, List.pairwise_append.2 ⟨?_, ihRest (i + 1), ?_⟩⟩
    · intro path h
      rcases List.mem_append.1 h with hinner | hrest
      · -- a path below the property extends the path of the property itself
        obtain ⟨tail, htail, rfl⟩ := List.mem_map.1 hinner
        obtain ⟨n, more, _, rfl⟩ := exists_cons_of_mem_paths htail
        exact List.Lex.cons List.Lex.nil
      · exact lex_of_mem_paths [] hrest
    · exact List.pairwise_map.2 ((ihInner 0).imp List.Lex.cons)
    · intro path hinner path' hrest
      obtain ⟨tail, _, rfl⟩ := List.mem_map.1 hinner
      exact lex_of_mem_paths tail hrest

end Branches

namespace Unfolding

/-- An index path ends at a property, or goes on below the shape that the property leads to. -/
theorem mem_paths {u : Unfolding} {path : List Nat} :
    path ∈ u.branches.paths 0 ↔
      (∃ n p, u.branches.toList[n]? = some p ∧ path = [n]) ∨
      ∃ n v rest, u.child? n = some v ∧ rest ∈ v.branches.paths 0 ∧ path = n :: rest := by
  rw [Branches.paths_eq_flatMap, List.mem_flatMap]
  constructor
  · rintro ⟨⟨p, n⟩, hp, hpath⟩
    rw [List.mk_mem_zipIdx_iff_getElem?] at hp
    obtain rfl | ⟨v, rest, hv, hrest, rfl⟩ := Descent.mem_paths.1 hpath
    · exact Or.inl ⟨n, p, hp, rfl⟩
    · exact Or.inr ⟨n, v, rest, child?_eq_some_iff.2 ⟨p, hp, hv⟩, hrest, rfl⟩
  · rintro (⟨n, p, hp, rfl⟩ | ⟨n, v, rest, hv, hrest, rfl⟩)
    · exact ⟨(p, n), List.mk_mem_zipIdx_iff_getElem?.2 hp, Descent.mem_paths.2 (Or.inl rfl)⟩
    · obtain ⟨p, hp, hpv⟩ := child?_eq_some_iff.1 hv
      exact ⟨(p, n), List.mk_mem_zipIdx_iff_getElem?.2 hp,
        Descent.mem_paths.2 (Or.inr ⟨v, rest, hpv, hrest, rfl⟩)⟩

theorem nil_not_mem_paths (u : Unfolding) : [] ∉ u.branches.paths 0 := by
  intro h
  obtain ⟨n, rest, _, hcons⟩ := Branches.exists_cons_of_mem_paths h
  cases hcons

/-- Going through the properties comes by each live path, and by no other. -/
theorem mem_paths_iff_live (u : Unfolding) (path : List Nat) :
    path ∈ u.branches.paths 0 ↔ u.occurrences.Live path := by
  induction path generalizing u with
  | nil => exact iff_of_false u.nil_not_mem_paths (by simp [Occurrences.Live, Occurrences.pathAt?])
  | cons n rest ih =>
    rw [mem_paths, Occurrences.Live]
    -- a single index ends at a property; more of them go on in the shape that it leads to
    cases rest with
    | nil =>
      rw [pathAt?_singleton, Option.isSome_map, Option.isSome_iff_exists]
      constructor
      · rintro (⟨k, p, hp, heq⟩ | ⟨k, v, rest, _, hrest, heq⟩)
        · cases heq
          exact ⟨p, hp⟩
        · cases heq
          exact absurd hrest v.nil_not_mem_paths
      · rintro ⟨p, hp⟩
        exact Or.inl ⟨n, p, hp, rfl⟩
    | cons m rest =>
      rw [pathAt?_cons_cons]
      constructor
      · rintro (⟨k, p, hp, heq⟩ | ⟨k, v, rest', hv, hrest, heq⟩)
        · cases heq
        · cases heq
          rw [hv]
          exact (ih v).1 hrest
      · intro h
        obtain ⟨q, hq⟩ := Option.isSome_iff_exists.1 h
        obtain ⟨v, hv, hlive⟩ := Option.bind_eq_some_iff.1 hq
        have hrest : m :: rest ∈ v.branches.paths 0 :=
          (ih v).2 (Option.isSome_iff_exists.2 ⟨q, hlive⟩)
        exact Or.inr ⟨n, v, m :: rest, hv, hrest, rfl⟩

end Unfolding

/-! ## 2. Blocks along a path -/

def Occurrence.isClassOnly (s : Occurrence) : Bool := !s.targets.isEmpty && s.paths.isEmpty

namespace Occurrences

def typesAt (o : Occurrences) (focus : Focus) (objectPrefix : String) (path : List Nat) :
    List Element :=
  ((o path).map fun s => typeElements s.targets (focus.below objectPrefix path)).getD []

def tripleAt (o : Occurrences) (focus : Focus) (objectPrefix : String) (path : List Nat) :
    TriplePattern :=
  ⟨some (focus.below objectPrefix path.dropLast).term, (o.pathAt? path).join,
    some (focus.below objectPrefix path).term⟩

/-- The types and triples along a path: the types of the shape it starts from, the triple of its
first property, the types of the shape reached by it, and so on to the triple of its last
property. -/
def blockAt (o : Occurrences) (focus : Focus) (objectPrefix : String) (path : List Nat) : Block :=
  ⟨(List.range path.length).flatMap fun j => o.typesAt focus objectPrefix (path.take j) ++
    [.triple (o.tripleAt focus objectPrefix (path.take (j + 1)))]⟩

/-- The alternatives of a path: its block, and once more with the types of the shape it leads to
when that shape has nothing but target classes. -/
def alternativesAt (o : Occurrences) (focus : Focus) (objectPrefix : String) (path : List Nat) :
    List Block :=
  o.blockAt focus objectPrefix path ::
    if (o path).any Occurrence.isClassOnly then
      [⟨(o.blockAt focus objectPrefix path).elements ++ o.typesAt focus objectPrefix path⟩]
    else []

end Occurrences

namespace Unfolding

variable {u v : Unfolding} {n : Nat} (focus : Focus) (objectPrefix : String)

theorem typesAt_cons (hv : u.child? n = some v) (rest : List Nat) :
    u.occurrences.typesAt focus objectPrefix (n :: rest) =
      v.occurrences.typesAt (focus.object n objectPrefix) "" rest := by
  unfold Occurrences.typesAt
  rw [occurrences_cons, hv, Option.bind_some, Focus.below_object]

theorem tripleAt_singleton {p : Option Term × Descent} (hp : u.branches.toList[n]? = some p) :
    u.occurrences.tripleAt focus objectPrefix [n] =
      propertyTriple focus p.1 (focus.object n objectPrefix) := by
  rw [Occurrences.tripleAt, pathAt?_singleton, hp, Focus.object_eq]
  rfl

theorem tripleAt_cons_cons (hv : u.child? n = some v) (m : Nat) (rest : List Nat) :
    u.occurrences.tripleAt focus objectPrefix (n :: m :: rest) =
      v.occurrences.tripleAt (focus.object n objectPrefix) "" (m :: rest) := by
  unfold Occurrences.tripleAt
  rw [pathAt?_cons_cons, hv, Option.bind_some, List.dropLast_cons_cons, Focus.below_object,
    Focus.below_object]

/-- The block of a path is that of the rest of it behind the types and the triple of its first step. -/
theorem blockAt_cons (hv : u.child? n = some v) {p : Option Term × Descent}
    (hp : u.branches.toList[n]? = some p) (rest : List Nat) :
    u.occurrences.blockAt focus objectPrefix (n :: rest) =
      (v.occurrences.blockAt (focus.object n objectPrefix) "" rest).prepend
        (typeElements u.targets focus ++
          [.triple (propertyTriple focus p.1 (focus.object n objectPrefix))]) := by
  unfold Occurrences.blockAt Block.prepend
  rw [List.length_cons, List.range_succ_eq_map, List.flatMap_cons, List.flatMap_map,
    ← tripleAt_singleton focus objectPrefix hp]
  congr 2
  apply List.flatMap_congr
  intro j hj
  cases rest with
  | nil => simp at hj
  | cons m rest =>
    rw [Nat.succ_eq_add_one, List.take_succ_cons, List.take_succ_cons, List.take_succ_cons,
      typesAt_cons focus objectPrefix hv, tripleAt_cons_cons focus objectPrefix hv]

theorem blockAt_singleton {p : Option Term × Descent} (hp : u.branches.toList[n]? = some p) :
    u.occurrences.blockAt focus objectPrefix [n] = ⟨typeElements u.targets focus ++
      [.triple (propertyTriple focus p.1 (focus.object n objectPrefix))]⟩ := by
  rw [← tripleAt_singleton focus objectPrefix hp]
  simp only [Occurrences.blockAt, List.length_singleton, List.range_one, List.flatMap_singleton]
  rfl

theorem alternativesAt_cons (hv : u.child? n = some v) {p : Option Term × Descent}
    (hp : u.branches.toList[n]? = some p) (rest : List Nat) :
    u.occurrences.alternativesAt focus objectPrefix (n :: rest) =
      (v.occurrences.alternativesAt (focus.object n objectPrefix) "" rest).map
        (Block.prepend (typeElements u.targets focus ++
          [.triple (propertyTriple focus p.1 (focus.object n objectPrefix))])) := by
  unfold Occurrences.alternativesAt
  rw [blockAt_cons focus objectPrefix hv hp, typesAt_cons focus objectPrefix hv, occurrences_cons,
    hv, Option.bind_some, List.map_cons]
  congr 1
  split
  · rw [List.map_singleton]
    unfold Block.prepend
    rw [List.append_assoc]
  · rfl

theorem alternativesAt_singleton {p : Option Term × Descent}
    (hp : u.branches.toList[n]? = some p) (hnone : u.child? n = none) :
    u.occurrences.alternativesAt focus objectPrefix [n] = [⟨typeElements u.targets focus ++
      [.triple (propertyTriple focus p.1 (focus.object n objectPrefix))]⟩] := by
  unfold Occurrences.alternativesAt
  rw [blockAt_singleton focus objectPrefix hp, occurrences_cons, hnone]
  rfl

end Unfolding

/-! ## 3. The pattern by its live paths -/

theorem typeElements_eq_nil_iff (targets : List Term) (focus : Focus) :
    typeElements targets focus = [] ↔ targets = [] := by
  rcases targets with _ | ⟨c, _ | ⟨d, rest⟩⟩ <;> simp [typeElements]

theorem Block.prepend_prepend (first second : List Element) (b : Block) :
    (b.prepend second).prepend first = b.prepend (first ++ second) := by
  unfold Block.prepend
  rw [List.append_assoc]

def Descent.alternatives (d : Descent) (focus : Focus) (objectPrefix : String)
    (path : Option Term) (n : Nat) : List Block :=
  let triple := propertyTriple focus path (focus.object n objectPrefix)
  ⟨[.triple triple]⟩ :: (d.unfolding?.map fun u =>
    (behind triple (u.pattern (focus.object n objectPrefix) "")).flatMap Pattern.alternatives).getD []

theorem Descent.alternatives_of_none {d : Descent} (h : d.unfolding? = .none) (focus : Focus)
    (objectPrefix : String) (path : Option Term) (n : Nat) :
    d.alternatives focus objectPrefix path n =
      [⟨[.triple (propertyTriple focus path (focus.object n objectPrefix))]⟩] := by
  rw [alternatives, h]
  rfl

theorem Descent.alternatives_of_some {d : Descent} {u : Unfolding} (h : d.unfolding? = some u)
    (focus : Focus) (objectPrefix : String) (path : Option Term) (n : Nat) :
    d.alternatives focus objectPrefix path n =
      ⟨[.triple (propertyTriple focus path (focus.object n objectPrefix))]⟩ ::
        (behind (propertyTriple focus path (focus.object n objectPrefix))
          (u.pattern (focus.object n objectPrefix) "")).flatMap Pattern.alternatives := by
  rw [alternatives, h]
  rfl

theorem Branches.alternatives_eq_flatMap (b : Branches) (focus : Focus) (objectPrefix : String)
    (i : Nat) :
    b.alternatives focus objectPrefix i = (b.toList.zipIdx i).flatMap fun x =>
      x.1.2.alternatives focus objectPrefix x.1.1 x.2 := by
  induction b generalizing i with
  | nil => rfl
  | leaf _ rest ih => rw [alternatives, ih, toList]; rfl
  | cyclic _ _ rest ih => rw [alternatives, ih, toList]; rfl
  | nested _ targets inner rest _ ih => rw [alternatives, ih, toList]; rfl

namespace Unfolding

/-- What stands behind the triple that leads to a shape: the types alone when they are all the shape
has, else its alternatives with the types in front. -/
theorem flatMap_behind_pattern (v : Unfolding) (value : Focus) (triple : TriplePattern) :
    ⟨[.triple triple]⟩ :: (behind triple (v.pattern value "")).flatMap Pattern.alternatives =
      (v.occurrences.alternativesAt value "" [] ++
        (v.branches.alternatives value "" 0).map (Block.prepend (typeElements v.targets value))).map
        (Block.prepend [.triple triple]) := by
  unfold Occurrences.alternativesAt
  rw [occurrences_nil, Option.any_some, List.cons_append, List.map_cons]
  congr 1
  unfold pattern
  by_cases hnil : v.branches = .nil
  · -- without properties the pattern is a block, which is left out when it is empty
    have halts : v.branches.alternatives value "" 0 = [] := by
      rw [hnil]
      rfl
    have honly : v.occurrence.isClassOnly = !v.targets.isEmpty := by
      simp [Occurrence.isClassOnly, occurrence, hnil, Branches.toList]
    rw [halts, honly, List.map_nil, List.append_nil, Pattern.ofBranches_nil, behind]
    by_cases htargets : v.targets = []
    · simp [htargets, typeElements]
    · have htypes : typeElements v.targets value ≠ [] := fun h =>
        htargets ((typeElements_eq_nil_iff _ _).1 h)
      rw [if_neg (by simpa using htypes), if_pos (by simpa using htargets), List.flatMap_singleton,
        Pattern.alternatives_prepend]
      rfl
  · have halts : v.branches.alternatives value "" 0 ≠ [] := fun h =>
      hnil ((Branches.alternatives_eq_nil_iff _ _ _ _).1 h)
    have honly : v.occurrence.isClassOnly = false := by
      have hlist : v.branches.toList ≠ [] := fun h => hnil ((Branches.toList_eq_nil_iff _).1 h)
      simp [Occurrence.isClassOnly, occurrence, hlist]
    rw [honly, Pattern.ofBranches_of_ne_nil _ halts, behind, if_neg (by simp),
      List.flatMap_singleton, Pattern.alternatives_prepend]
    rfl

/-- The alternatives of a shape, its types in front, are those of its paths one after the other. -/
theorem alternatives_eq_flatMap_paths (u : Unfolding) (focus : Focus) (objectPrefix : String) :
    (u.branches.alternatives focus objectPrefix 0).map (Block.prepend (typeElements u.targets focus))
      = (u.branches.paths 0).flatMap (u.occurrences.alternativesAt focus objectPrefix) := by
  -- below a property the object prefix is dropped, so the induction is over all focuses and prefixes
  induction u using child_induction generalizing focus objectPrefix with
  | step u ih =>
    rw [Branches.alternatives_eq_flatMap, Branches.paths_eq_flatMap, List.map_flatMap,
      List.flatMap_assoc]
    apply List.flatMap_congr
    rintro ⟨p, n⟩ hmem
    have hp : u.branches.toList[n]? = some p := List.mk_mem_zipIdx_iff_getElem?.1 hmem
    show (p.2.alternatives focus objectPrefix p.1 n).map _ = (p.2.paths n).flatMap _
    cases hdescent : p.2.unfolding? with
    | none =>
      have hchild : u.child? n = none := by rw [child?, hp, Option.bind_some, hdescent]
      rw [Descent.alternatives_of_none hdescent, Descent.paths_of_none hdescent,
        List.flatMap_singleton, alternativesAt_singleton focus objectPrefix hp hchild]
      rfl
    | some v =>
      have hchild : u.child? n = some v := child?_eq_some_iff.2 ⟨p, hp, hdescent⟩
      rw [Descent.alternatives_of_some hdescent, Descent.paths_of_some hdescent,
        flatMap_behind_pattern, ih n v hchild, List.flatMap_cons, List.flatMap_map]
      -- both sides are the alternatives of the nested shape behind the types and the triple
      simp only [alternativesAt_cons focus objectPrefix hchild hp]
      rw [← List.map_flatMap, ← List.map_append, List.map_map]
      exact List.map_congr_left fun b _ => Block.prepend_prepend _ _ b

end Unfolding

/-- The WHERE pattern of every shape of a table: when the shape has active properties, a union of
the alternatives of its live paths in lexicographic order, else the block of its types. -/
theorem wherePattern_eq_live_paths (tbl : ShapeTable) (root : Nat) (s : NodeShape)
    (hs : tbl[root]? = some s) (focus : Focus) (objectPrefix : String) :
    ∃ (p : Pattern) (paths : List (List Nat)),
      ((tbl.unfold root).wherePattern focus objectPrefix).result = .ok p ∧
      paths.Pairwise (List.Lex (· < ·)) ∧
      (∀ path, path ∈ paths ↔ (tbl.occurrences root).Live path) ∧
      (s.active ≠ [] →
        p = .union (paths.flatMap ((tbl.occurrences root).alternativesAt focus objectPrefix))) ∧
      (s.active = [] → p = .block ⟨typeElements s.targets focus⟩) := by
  obtain ⟨hroot, rfl⟩ := List.getElem?_eq_some_iff.1 hs
  have hoccurrences := ShapeTable.occurrences_unfold hroot
  have hunfold : tbl.unfold root = _ := ShapeTable.unfoldBelow_eq hroot List.not_mem_nil
  refine ⟨_, (tbl.unfold root).branches.paths 0, Unfolding.wherePattern_result _ _ _,
    Branches.paths_pairwise_lex _ _, ?_, ?_, ?_⟩
  · intro path
    rw [← hoccurrences]
    exact Unfolding.mem_paths_iff_live _ _
  · intro hactive
    -- an active property gives an alternative, so that there is a union
    have halts : (tbl.unfold root).branches.alternatives focus objectPrefix 0 ≠ [] := by
      intro hnil
      rw [Branches.alternatives_eq_nil_iff, ← Branches.toList_eq_nil_iff, hunfold,
        Branches.toList_ofList, List.map_eq_nil_iff] at hnil
      exact hactive hnil
    rw [← hoccurrences, ← Unfolding.alternatives_eq_flatMap_paths]
    exact Pattern.ofBranches_of_ne_nil _ halts
  · intro hactive
    rw [Unfolding.pattern, hunfold, hactive]
    rfl

def exampleTerm (name : String) : Term := .iri ("http://example.org/" ++ name)

/-- A shape with two target classes, a property that is switched off, one that leads back to the
shape itself and one that leads to an organization. -/
def personShape : NodeShape where
  id := some (exampleTerm "PersonShape")
  targets := [exampleTerm "Person", exampleTerm "Agent"]
  properties := [⟨some (exampleTerm "name"), false, none⟩, ⟨some (exampleTerm "age"), true, none⟩,
    ⟨some (exampleTerm "knows"), false, some 0⟩, ⟨some (exampleTerm "worksFor"), false, some 1⟩]

def personShapes : ShapeTable := [personShape, ⟨none, [exampleTerm "Organization"], []⟩]

theorem wherePattern_personShapes :
    personShapes[0]? = some personShape ∧ personShape.active ≠ [] ∧
    ∃ (p : Pattern) (paths : List (List Nat)),
      ((personShapes.unfold 0).wherePattern ⟨.var "x", "x"⟩ "").result = .ok p ∧
      paths.Pairwise (List.Lex (· < ·)) ∧
      (∀ path, path ∈ paths ↔ (personShapes.occurrences 0).Live path) ∧
      p = .union (paths.flatMap
        ((personShapes.occurrences 0).alternativesAt ⟨.var "x", "x"⟩ "")) := by
  have hactive : personShape.active ≠ [] := by decide
  obtain ⟨p, paths, hresult, hordered, hlive, hunion, _⟩ :=
    wherePattern_eq_live_paths personShapes 0 personShape rfl ⟨.var "x", "x"⟩ ""
  exact ⟨rfl, hactive, p, paths, hresult, hordered, hlive, hunion hactive⟩

end ShaclQuery
