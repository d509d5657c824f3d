import ShaclQuery.Shape.Unfolding

/-! # Occurrences

An index path names a place below a shape: every index is a position among the active properties of
the shape reached so far. What queries see of a shape at such a place are its target classes and the
paths of its active properties. This file looks places up in a table, where nested shapes are
followed by their positions and a shape that stands on the way to itself is not entered, and in an
unfolding, and shows that a table and its unfolding have the same occurrences.
-/

namespace ShaclQuery

/-- What queries see of a shape: its target classes and the paths of its active properties. -/
structure Occurrence where
  targets : List Term
  paths : List (Option Term)
  deriving DecidableEq, Repr

abbrev Occurrences := List Nat → Option Occurrence

namespace Occurrences

def pathAt? (o : Occurrences) (path : List Nat) : Option (Option Term) :=
  path.getLast?.bind fun n => (o path.dropLast).bind fun s => s.paths[n]?

/-- An index path is live when it ends with an active property of a shape that it leads to. -/
def Live (o : Occurrences) (path : List Nat) : Prop := (o.pathAt? path).isSome = true

end Occurrences

/-! ## 1. Occurrences in a table -/

def NodeShape.occurrence (s : NodeShape) : Occurrence := ⟨s.targets, s.active.map (·.path)⟩

namespace ShapeTable

/-- The position of the shape that an index path leads to from position `i`, below shapes with the
keys `above`. A shape is entered only when its key differs from those of all shapes above it. -/
def descend? (tbl : ShapeTable) (above : List ShapeKey) (i : Nat) : List Nat → Option Nat
  | [] => some i
  | n :: rest =>
    (((tbl[i]?).bind fun s => s.active[n]?).bind (·.node)).bind fun j =>
      if j < tbl.length ∧ tbl.key j ∉ tbl.key i :: above then
        tbl.descend? (tbl.key i :: above) j rest
      else none

def occurrences (tbl : ShapeTable) (root : Nat) : Occurrences := fun path =>
  (tbl.descend? [] root path).bind fun i => (tbl[i]?).map NodeShape.occurrence

end ShapeTable

/-! ## 2. Occurrences in an unfolding -/

def Descent.unfolding? : Descent → Option Unfolding
  | .none => .none
  | .cyclic _ => .none
  | .shape u => some u

def Branches.toList : Branches → List (Option Term × Descent)
  | .nil => []
  | .leaf path rest => (path, .none) :: rest.toList
  | .cyclic path shape rest => (path, .cyclic shape) :: rest.toList
  | .nested path targets inner rest => (path, .shape ⟨targets, inner⟩) :: rest.toList

theorem Branches.toList_ofList (l : List (Option Term × Descent)) : (ofList l).toList = l := by
  fun_induction ofList l with
  | case1 => rfl
  | case2 path rest ih => rw [toList, ih]
  | case3 path shape rest ih => rw [toList, ih]
  | case4 path u rest ih => rw [toList, ih]

theorem Branches.toList_eq_nil_iff (b : Branches) : b.toList = [] ↔ b = .nil := by
  cases b <;> simp [toList]

namespace Unfolding

def occurrence (u : Unfolding) : Occurrence := ⟨u.targets, u.branches.toList.map Prod.fst⟩

def child? (u : Unfolding) (n : Nat) : Option Unfolding :=
  (u.branches.toList[n]?).bind fun p => p.2.unfolding?

theorem child?_eq_some_iff {u v : Unfolding} {n : Nat} :
    u.child? n = some v ↔ ∃ p, u.branches.toList[n]? = some p ∧ p.2.unfolding? = some v :=
  Option.bind_eq_some_iff

/-- What holds of a shape whenever it holds of the shapes its properties lead to holds of all
shapes. -/
theorem child_induction {P : Unfolding → Prop}
    (step : ∀ u : Unfolding, (∀ n v, u.child? n = some v → P v) → P u) (u : Unfolding) : P u := by
  -- branches hold shapes only through their nested properties
  have hbranches (b : Branches) : ∀ p ∈ b.toList, ∀ v, p.2.unfolding? = some v → P v := by
    induction b with
    | nil => simp [Branches.toList]
    | leaf path rest ih =>
      intro p hp v hv
      rcases List.mem_cons.1 hp with rfl | hrest
      · cases hv
      · exact ih p hrest v hv
    | cyclic path shape rest ih =>
      intro p hp v hv
      rcases List.mem_cons.1 hp with rfl | hrest
      · cases hv
      · exact ih p hrest v hv
    | nested path targets inner rest ihInner ihRest =>
      intro p hp v hv
      rcases List.mem_cons.1 hp with rfl | hrest
      · obtain rfl : (⟨targets, inner⟩ : Unfolding) = v := Option.some.inj hv
        apply step
        intro n w hw
        obtain ⟨q, hq, hqw⟩ := child?_eq_some_iff.1 hw
        exact ihInner q (List.mem_of_getElem? hq) w hqw
      · exact ihRest p hrest v hv
  apply step
  intro n v hv
  obtain ⟨p, hp, hpv⟩ := child?_eq_some_iff.1 hv
  exact hbranches u.branches p (List.mem_of_getElem? hp) v hpv

def descend? : Unfolding → List Nat → Option Unfolding
  | u, [] => some u
  | u, n :: rest => (u.child? n).bind fun v => v.descend? rest

def occurrences (u : Unfolding) : Occurrences := fun path => (u.descend? path).map occurrence

theorem occurrences_nil (u : Unfolding) : u.occurrences [] = some u.occurrence := rfl

theorem occurrences_cons (u : Unfolding) (n : Nat) (rest : List Nat) :
    u.occurrences (n :: rest) = (u.child? n).bind fun v => v.occurrences rest := by
  simp only [occurrences, descend?]
  rw [Option.map_bind]
  rfl

theorem pathAt?_singleton (u : Unfolding) (n : Nat) :
    u.occurrences.pathAt? [n] = (u.branches.toList[n]?).map Prod.fst := by
  show u.occurrence.paths[n]? = _
  exact List.getElem?_map

theorem pathAt?_cons_cons (u : Unfolding) (n m : Nat) (rest : List Nat) :
    u.occurrences.pathAt? (n :: m :: rest) =
      (u.child? n).bind fun v => v.occurrences.pathAt? (m :: rest) := by
  unfold Occurrences.pathAt?
  rw [List.getLast?_cons_cons, List.dropLast_cons_cons, occurrences_cons]
  cases u.child? n with
  | none => cases (m :: rest).getLast? <;> rfl
  | some v => rfl

end Unfolding

/-! ## 3. A table and its unfolding -/

namespace ShapeTable

def descent (tbl : ShapeTable) (path : List ShapeKey) (p : PropertyShape) : Descent :=
  (p.node.map fun j =>
    match tbl[j]? with
    | none => .none
    | some nested =>
      if path.contains (tbl.key j) then .cyclic nested.id
      else .shape (tbl.unfoldBelow path j)).getD .none

theorem unfoldBelow_eq {tbl : ShapeTable} {above : List ShapeKey} {i : Nat}
    (hi : i < tbl.length) (hkey : tbl.key i ∉ above) :
    tbl.unfoldBelow above i = ⟨tbl[i].targets,
      .ofList (tbl[i].active.map fun p => (p.path, tbl.descent (tbl.key i :: above) p))⟩ := by
  rw [unfoldBelow, dif_pos ⟨hi, hkey⟩]
  rfl

theorem unfolding?_descent (tbl : ShapeTable) (path : List ShapeKey) (p : PropertyShape) :
    (tbl.descent path p).unfolding? = p.node.bind fun j =>
      if j < tbl.length ∧ tbl.key j ∉ path then some (tbl.unfoldBelow path j) else none := by
  unfold descent
  cases p.node with
  | none => rfl
  | some j =>
    rw [Option.map_some, Option.getD_some, Option.bind_some]
    by_cases hj : j < tbl.length
    · rw [List.getElem?_eq_getElem hj]
      by_cases hpath : tbl.key j ∈ path
      · simp [hpath, Descent.unfolding?]
      · simp [hpath, hj, Descent.unfolding?]
    · rw [List.getElem?_eq_none (by omega), if_neg (fun h => hj h.1)]
      rfl

theorem child?_unfoldBelow {tbl : ShapeTable} {above : List ShapeKey} {i : Nat}
    (hi : i < tbl.length) (hkey : tbl.key i ∉ above) (n : Nat) :
    (tbl.unfoldBelow above i).child? n = ((tbl[i].active[n]?).bind (·.node)).bind fun j =>
      if j < tbl.length ∧ tbl.key j ∉ tbl.key i :: above then
        some (tbl.unfoldBelow (tbl.key i :: above) j)
      else none := by
  rw [Unfolding.child?, unfoldBelow_eq hi hkey, Branches.toList_ofList, List.getElem?_map]
  cases tbl[i].active[n]? with
  | none => rfl
  | some p => exact unfolding?_descent tbl (tbl.key i :: above) p

/-- The shapes of an unfolding are those of the table that descending leads to. The induction is on
the index path. -/
theorem occurrences_unfoldBelow {tbl : ShapeTable} {above : List ShapeKey} {i : Nat}
    (hi : i < tbl.length) (hkey : tbl.key i ∉ above) (path : List Nat) :
    (tbl.unfoldBelow above i).occurrences path =
      (tbl.descend? above i path).bind fun j => (tbl[j]?).map NodeShape.occurrence := by
  -- one index at a time; both sides enter a nested shape under the same condition on its key
  induction path generalizing above i with
  | nil =>
    rw [Unfolding.occurrences_nil, descend?, Option.bind_some, List.getElem?_eq_getElem hi,
      Option.map_some, unfoldBelow_eq hi hkey, Unfolding.occurrence, Branches.toList_ofList,
      List.map_map]
    rfl
  | cons n rest ih =>
    rw [Unfolding.occurrences_cons, child?_unfoldBelow hi hkey, descend?,
      List.getElem?_eq_getElem hi, Option.bind_some]
    cases hnode : (tbl[i].active[n]?).bind (·.node) with
    | none => rfl
    | some j =>
      rw [Option.bind_some, Option.bind_some]
      by_cases hj : j < tbl.length ∧ tbl.key j ∉ tbl.key i :: above
      · rw [if_pos hj, if_pos hj, Option.bind_some]
        exact ih hj.1 hj.2
      · rw [if_neg hj, if_neg hj]
        rfl

/-- A table and the unfolding of one of its shapes have the same occurrences. -/
theorem occurrences_unfold {tbl : ShapeTable} {root : Nat} (hroot : root < tbl.length) :
    (tbl.unfold root).occurrences = tbl.occurrences root :=
  funext (occurrences_unfoldBelow hroot List.not_mem_nil)

end ShapeTable

end ShaclQuery
