import ShaclQuery.Proofs.LivePaths

/-! # How deep shapes are unfolded

Shapes of a table may refer to each other in circles, with identifiers, without them, or through
several shapes of one identifier. Unfolding them ends because a nested shape is entered only when its
key is not among the keys of the shapes around it: the keys along the way are pairwise different, so
there are never more shapes around each other than the table has keys. Nothing else stops it. The
check is made before a shape is entered, and entering needs no further check.
-/

namespace ShaclQuery

namespace ShapeTable

/-! ## 1. Keys of a table -/

def keys (tbl : ShapeTable) : List ShapeKey := distinctBy id ((List.range tbl.length).map tbl.key)

theorem key_mem_keys {tbl : ShapeTable} {i : Nat} (hi : i < tbl.length) : tbl.key i ∈ tbl.keys := by
  have hmem : tbl.key i ∈ (List.range tbl.length).map tbl.key :=
    List.mem_map_of_mem (List.mem_range.2 hi)
  obtain ⟨k, hk, heq⟩ := exists_mem_distinctBy id _ hmem
  change k = tbl.key i at heq
  rw [← heq]
  exact hk

def unentered (tbl : ShapeTable) (above : List ShapeKey) : Nat :=
  tbl.keys.countP fun k => !above.contains k

theorem unentered_lt {tbl : ShapeTable} {above : List ShapeKey} {i : Nat} (hi : i < tbl.length)
    (hkey : tbl.key i ∉ above) : tbl.unentered (tbl.key i :: above) < tbl.unentered above :=
  countP_unmet_lt id (key_mem_keys hi) hkey

/-! ## 2. Unfolding within a depth -/

/-- What a property leads to when nested shapes are entered by `enter`, below shapes with the keys
`path`. -/
def descentBy (tbl : ShapeTable) (enter : List ShapeKey → Nat → Option Unfolding)
    (path : List ShapeKey) (p : PropertyShape) : Option Descent :=
  match p.node with
  | none => some .none
  | some j =>
    match tbl[j]? with
    | none => some .none
    | some nested =>
      if path.contains (tbl.key j) then some (.cyclic nested.id) else (enter path j).map .shape

/-- The unfolding of the shape at a position, when at most `depth` shapes may be entered one inside
the other. The shape at hand is entered without looking at its key. -/
def unfoldWithin (tbl : ShapeTable) : Nat → List ShapeKey → Nat → Option Unfolding
  | 0, _, _ => none
  | depth + 1, above, i =>
    (tbl[i]?).bind fun s =>
      (s.active.mapM fun p =>
        (tbl.descentBy (tbl.unfoldWithin depth) (tbl.key i :: above) p).map fun d =>
          (p.path, d)).map fun descents => ⟨s.targets, .ofList descents⟩

/-- With enough depth the bounded descent is the descent. -/
theorem descentBy_eq {tbl : ShapeTable} {enter : List ShapeKey → Nat → Option Unfolding}
    {path : List ShapeKey}
    (henter : ∀ j, j < tbl.length → tbl.key j ∉ path → enter path j = some (tbl.unfoldBelow path j))
    (p : PropertyShape) : tbl.descentBy enter path p = some (tbl.descent path p) := by
  unfold descentBy descent
  cases p.node with
  | none => rfl
  | some j =>
    simp only [Option.map_some, Option.getD_some]
    cases hj : tbl[j]? with
    | none => rfl
    | some nested =>
      have hlt : j < tbl.length := (List.getElem?_eq_some_iff.1 hj).1
      by_cases hkey : tbl.key j ∈ path
      · simp [hkey]
      · simp [hkey, henter j hlt hkey]

/-- A depth of as many shapes as there are keys left is enough. -/
theorem unfoldWithin_eq {tbl : ShapeTable} (depth : Nat) {above : List ShapeKey} {i : Nat}
    (hi : i < tbl.length) (hkey : tbl.key i ∉ above) (hdepth : tbl.unentered above ≤ depth) :
    tbl.unfoldWithin depth above i = some (tbl.unfoldBelow above i) := by
  induction depth generalizing above i with
  | zero =>
    -- the key at hand is one of those left
    have hlt := unentered_lt hi hkey
    omega
  | succ depth ih =>
    have hlt := unentered_lt hi hkey
    have hdescent (p : PropertyShape) :
        tbl.descentBy (tbl.unfoldWithin depth) (tbl.key i :: above) p =
          some (tbl.descent (tbl.key i :: above) p) := by
      apply descentBy_eq
      intro j hj hfresh
      exact ih hj hfresh (by omega)
    rw [unfoldWithin, List.getElem?_eq_getElem hi, Option.bind_some, unfoldBelow_eq hi hkey]
    simp only [hdescent, Option.map_some]
    rw [show (fun p : PropertyShape => some (p.path, tbl.descent (tbl.key i :: above) p)) =
      fun p => pure (p.path, tbl.descent (tbl.key i :: above) p) from rfl, List.mapM_pure]
    rfl

/-! ## 3. The shapes along an index path -/

/-- The positions of the shapes that an index path leads through, whatever their keys are. -/
def trail? (tbl : ShapeTable) (i : Nat) : List Nat → Option (List Nat)
  | [] => if i < tbl.length then some [i] else none
  | n :: rest =>
    (((tbl[i]?).bind fun s => s.active[n]?).bind (·.node)).bind fun j =>
      (tbl.trail? j rest).map (i :: ·)

/-- A trail starts at its shape and has one more position for each index. -/
theorem trail?_cases {tbl : ShapeTable} {i : Nat} {path trail : List Nat}
    (h : tbl.trail? i path = some trail) :
    i < tbl.length ∧ ∃ tail, trail = i :: tail ∧ tail.length = path.length ∧
      ∀ j ∈ tail, j < tbl.length := by
  induction path generalizing i trail with
  | nil =>
    rw [trail?] at h
    split at h
    · rename_i hi
      cases h
      exact ⟨hi, [], rfl, rfl, fun j hj => absurd hj List.not_mem_nil⟩
    · cases h
  | cons n rest ih =>
    rw [trail?] at h
    obtain ⟨j, hj, h⟩ := Option.bind_eq_some_iff.1 h
    obtain ⟨tail, htail, rfl⟩ := Option.map_eq_some_iff.1 h
    obtain ⟨hlt, more, rfl, hlength, hmore⟩ := ih htail
    have hi : i < tbl.length := by
      obtain ⟨p, hp, _⟩ := Option.bind_eq_some_iff.1 hj
      obtain ⟨s, hs, _⟩ := Option.bind_eq_some_iff.1 hp
      exact (List.getElem?_eq_some_iff.1 hs).1
    refine ⟨hi, j :: more, rfl, by simp [hlength], fun k hk => ?_⟩
    rcases List.mem_cons.1 hk with rfl | hk
    · exact hlt
    · exact hmore k hk

def FreshTrail (tbl : ShapeTable) (above : List ShapeKey) (trail : List Nat) : Prop :=
  (trail.map tbl.key).Nodup ∧ ∀ k ∈ trail.map tbl.key, k ∉ above

theorem freshTrail_nil_iff {tbl : ShapeTable} {trail : List Nat} :
    tbl.FreshTrail [] trail ↔ (trail.map tbl.key).Nodup :=
  and_iff_left fun _ _ => List.not_mem_nil

/-- What is new behind the first shape is new with its key among those above. -/
theorem freshTrail_cons {tbl : ShapeTable} {above : List ShapeKey} {i : Nat} {tail : List Nat} :
    tbl.FreshTrail above (i :: tail) ↔
      tbl.key i ∉ above ∧ tbl.FreshTrail (tbl.key i :: above) tail := by
  unfold FreshTrail
  rw [List.map_cons, List.nodup_cons]
  constructor
  · rintro ⟨⟨hfirst, hnodup⟩, habove⟩
    refine ⟨habove _ List.mem_cons_self, hnodup, fun k hk hmem => ?_⟩
    rcases List.mem_cons.1 hmem with rfl | hmem
    · exact hfirst hk
    · exact habove k (List.mem_cons_of_mem _ hk) hmem
  · rintro ⟨hkey, hnodup, habove⟩
    refine ⟨⟨fun hmem => habove _ hmem List.mem_cons_self, hnodup⟩, fun k hk => ?_⟩
    rcases List.mem_cons.1 hk with rfl | hk
    · exact hkey
    · exact fun hmem => habove k hk (List.mem_cons_of_mem _ hmem)

/-- The unfolding follows an index path exactly as long as the keys along it are new. -/
theorem isSome_descend?_unfoldBelow {tbl : ShapeTable} {above : List ShapeKey} {i : Nat}
    (hi : i < tbl.length) (hkey : tbl.key i ∉ above) (path : List Nat) :
    ((tbl.unfoldBelow above i).descend? path).isSome = true ↔
      ∃ trail, tbl.trail? i path = some trail ∧ tbl.FreshTrail above trail := by
  -- one index at a time; the key of the shape that the index leaves joins those above
  induction path generalizing above i with
  | nil => simp [Unfolding.descend?, trail?, hi, hkey, FreshTrail]
  | cons n rest ih =>
    rw [Unfolding.descend?, child?_unfoldBelow hi hkey, trail?, List.getElem?_eq_getElem hi,
      Option.bind_some]
    cases (tbl[i].active[n]?).bind (·.node) with
    | none => simp
    | some j =>
      rw [Option.bind_some, Option.bind_some]
      by_cases hj : j < tbl.length ∧ tbl.key j ∉ tbl.key i :: above
      · -- the nested shape is entered, with one key more above it
        rw [if_pos hj, Option.bind_some, ih hj.1 hj.2]
        constructor
        · rintro ⟨tail, htail, hfresh⟩
          exact ⟨i :: tail, by rw [htail]; rfl, freshTrail_cons.2 ⟨hkey, hfresh⟩⟩
        · rintro ⟨trail, htrail, hfresh⟩
          obtain ⟨tail, htail, rfl⟩ := Option.map_eq_some_iff.1 htrail
          exact ⟨tail, htail, (freshTrail_cons.1 hfresh).2⟩
      · -- it is not entered; a trail through it would begin with a key that is not new
        rw [if_neg hj]
        constructor
        · intro h
          cases h
        · rintro ⟨trail, htrail, hfresh⟩
          obtain ⟨tail, htail, rfl⟩ := Option.map_eq_some_iff.1 htrail
          obtain ⟨hlt, more, rfl, _⟩ := trail?_cases htail
          have hnew := (freshTrail_cons.1 (freshTrail_cons.1 hfresh).2).1
          exact absurd ⟨hlt, hnew⟩ hj

/-- An index path along pairwise different keys is shorter than the list of all keys. -/
theorem length_lt_of_trail? {tbl : ShapeTable} {i : Nat} {path trail : List Nat}
    (h : tbl.trail? i path = some trail) (hnodup : (trail.map tbl.key).Nodup) :
    path.length < tbl.keys.length := by
  obtain ⟨hi, tail, rfl, hlength, htail⟩ := trail?_cases h
  have hsubset : ((i :: tail).map tbl.key) ⊆ tbl.keys := by
    intro k hk
    obtain ⟨j, hj, rfl⟩ := List.mem_map.1 hk
    rcases List.mem_cons.1 hj with rfl | hj
    · exact key_mem_keys hi
    · exact key_mem_keys (htail j hj)
  -- the trail has one shape more than the path has indices
  have hle := hnodup.length_le_of_subset hsubset
  rw [List.length_map, List.length_cons, hlength] at hle
  exact hle

end ShapeTable

/-! ## 4. The depth of an unfolding -/

def Branches.depth : Branches → Nat
  | .nil => 0
  | .leaf _ rest => rest.depth
  | .cyclic _ _ rest => rest.depth
  | .nested _ _ inner rest => max (inner.depth + 1) rest.depth

namespace Unfolding

/-- How many shapes are nested in one another, the outermost included. The walks that make pattern
and template call themselves once for every nested shape, so this is how deep they call
themselves. -/
def depth (u : Unfolding) : Nat := u.branches.depth + 1

theorem depth_branches_le {b : Branches} {d : Nat}
    (h : ∀ p ∈ b.toList, ∀ v, p.2.unfolding? = some v → v.depth ≤ d) : b.depth ≤ d := by
  induction b with
  | nil => exact Nat.zero_le d
  | leaf path rest ih => exact ih fun p hp => h p (List.mem_cons_of_mem _ hp)
  | cyclic path shape rest ih => exact ih fun p hp => h p (List.mem_cons_of_mem _ hp)
  | nested path targets inner rest _ ihRest =>
    apply Nat.max_le.2
    constructor
    · exact h _ List.mem_cons_self ⟨targets, inner⟩ rfl
    · exact ihRest fun p hp => h p (List.mem_cons_of_mem _ hp)

/-- The depth is bounded by the lengths of the index paths that lead somewhere. -/
theorem depth_le_of_descend? (u : Unfolding) {d : Nat}
    (h : ∀ path, (u.descend? path).isSome = true → path.length < d) : u.depth ≤ d := by
  induction u using child_induction generalizing d with
  | step u ih =>
    have hpositive : 0 < d := h [] rfl
    have hbranches : u.branches.depth ≤ d - 1 := by
      apply depth_branches_le
      intro p hp v hv
      obtain ⟨n, hn⟩ := List.mem_iff_getElem?.1 hp
      have hchild : u.child? n = some v := child?_eq_some_iff.2 ⟨p, hn, hv⟩
      apply ih n v hchild
      intro path hpath
      -- a path from the nested shape is one index longer from here
      have hlonger := h (n :: path) (by rw [descend?, hchild]; exact hpath)
      rw [List.length_cons] at hlonger
      omega
    unfold depth
    omega

end Unfolding

/-- Every shape of every table is unfolded within as many nested shapes as the table has keys, and
pattern and template are read off the unfolding without an error. The unfolding follows an index path
exactly as long as the keys of the shapes along it are pairwise different. -/
theorem unfold_ends_without_error (tbl : ShapeTable) (root : Nat) (hroot : root < tbl.length)
    (focus : Focus) (objectPrefix : String) :
    tbl.unfoldWithin tbl.keys.length [] root = some (tbl.unfold root) ∧
    (∃ p, ((tbl.unfold root).wherePattern focus objectPrefix).result = .ok p) ∧
    (∃ triples,
      ((tbl.unfold root).template focus objectPrefix : Logged UnionError _).result = .ok triples) ∧
    (∀ path, ((tbl.unfold root).descend? path).isSome = true ↔
      ∃ trail, tbl.trail? root path = some trail ∧ (trail.map tbl.key).Nodup) ∧
    (tbl.unfold root).depth ≤ tbl.keys.length := by
  have htrail (path : List Nat) : ((tbl.unfold root).descend? path).isSome = true ↔
      ∃ trail, tbl.trail? root path = some trail ∧ (trail.map tbl.key).Nodup := by
    rw [ShapeTable.unfold, ShapeTable.isSome_descend?_unfoldBelow hroot List.not_mem_nil path]
    simp only [ShapeTable.freshTrail_nil_iff]
  refine ⟨?_, ⟨_, Unfolding.wherePattern_result _ _ _⟩, ⟨_, Unfolding.template_result _ _ _⟩,
    htrail, ?_⟩
  · exact ShapeTable.unfoldWithin_eq _ hroot List.not_mem_nil List.countP_le_length
  · apply Unfolding.depth_le_of_descend?
    intro path hpath
    obtain ⟨trail, htrail, hnodup⟩ := (htrail path).1 hpath
    exact ShapeTable.length_lt_of_trail? htrail hnodup

/-- Two shapes without identifiers that refer to each other, and two shapes of one identifier of which
the first refers to the second. -/
def circleShapes : ShapeTable :=
  [⟨none, [], [⟨some (exampleTerm "next"), false, some 1⟩]⟩,
    ⟨none, [], [⟨some (exampleTerm "back"), false, some 0⟩,
      ⟨some (exampleTerm "part"), false, some 2⟩]⟩,
    ⟨some (exampleTerm "Shape"), [], [⟨some (exampleTerm "part"), false, some 3⟩,
      ⟨some (exampleTerm "next"), false, some 1⟩]⟩,
    ⟨some (exampleTerm "Shape"), [], [⟨some (exampleTerm "part"), false, none⟩]⟩]

theorem unfold_ends_circleShapes :
    0 < circleShapes.length ∧
    circleShapes.unfoldWithin circleShapes.keys.length [] 0 = some (circleShapes.unfold 0) ∧
    (∃ p, ((circleShapes.unfold 0).wherePattern ⟨.var "x", "x"⟩ "").result = .ok p) ∧
    (∃ triples, ((circleShapes.unfold 0).template ⟨.var "x", "x"⟩ "" :
      Logged UnionError _).result = .ok triples) ∧
    (∀ path, ((circleShapes.unfold 0).descend? path).isSome = true ↔
      ∃ trail, circleShapes.trail? 0 path = some trail ∧ (trail.map circleShapes.key).Nodup) ∧
    (circleShapes.unfold 0).depth ≤ circleShapes.keys.length := by
  have hroot : 0 < circleShapes.length := by decide
  exact ⟨hroot, unfold_ends_without_error circleShapes 0 hroot ⟨.var "x", "x"⟩ ""⟩

-- four shapes and three keys, and the bound is reached
example : circleShapes.keys.length = 3 ∧ (circleShapes.unfold 0).depth = 3 := by decide +kernel

end ShaclQuery
