import ShaclQuery.Distinct
import ShaclQuery.Log
import ShaclQuery.Shape.Table

/-! # Unfoldings

The unfolding of a shape is the finite tree of the shapes nested in it through active properties. A
nested shape whose key already stands on the way to it is not entered; the tree notes it as cyclic.
Queries are read off unfoldings.
-/

namespace ShaclQuery

/-- The active properties of a shape occurrence, in order, each with what is nested in it. -/
inductive Branches
  | nil
  /-- A property without a nested shape. -/
  | leaf (path : Option Term) (rest : Branches)
  /-- A property whose nested shape, with the given identifier, is on the way to it. -/
  | cyclic (path : Option Term) (shape : Option Term) (rest : Branches)
  /-- A property with a nested shape: its target classes and its own properties. -/
  | nested (path : Option Term) (targets : List Term) (inner rest : Branches)
  deriving DecidableEq, Repr

structure Unfolding where
  targets : List Term
  branches : Branches
  deriving DecidableEq, Repr

inductive Descent
  | none
  | cyclic (shape : Option Term)
  | shape (u : Unfolding)

def Branches.ofList : List (Option Term × Descent) → Branches
  | [] => .nil
  | (path, .none) :: rest => .leaf path (ofList rest)
  | (path, .cyclic shape) :: rest => .cyclic path shape (ofList rest)
  | (path, .shape u) :: rest => .nested path u.targets u.branches (ofList rest)

/-! ## 1. Unfolding a table -/

namespace ShapeTable

/-- Entering a shape leaves fewer fresh keys. -/
theorem fresh_lt {tbl : ShapeTable} {visited : List ShapeKey} {i : Nat} (hi : i < tbl.length)
    (hkey : tbl.key i ∉ visited) : tbl.fresh (tbl.key i :: visited) < tbl.fresh visited :=
  countP_unmet_lt tbl.key (List.mem_range.2 hi) hkey

def unfoldBelow (tbl : ShapeTable) (visited : List ShapeKey) (i : Nat) : Unfolding :=
  if h : i < tbl.length ∧ tbl.key i ∉ visited then
    let path := tbl.key i :: visited
    let descend (j : Nat) : Descent :=
      match tbl[j]? with
      | none => .none
      | some nested =>
        if path.contains (tbl.key j) then .cyclic nested.id else .shape (tbl.unfoldBelow path j)
    ⟨tbl[i].targets, .ofList (tbl[i].active.map fun p => (p.path, (p.node.map descend).getD .none))⟩
  else ⟨[], .nil⟩
  termination_by tbl.fresh visited
  decreasing_by exact fresh_lt h.1 h.2

def unfold (tbl : ShapeTable) (root : Nat) : Unfolding := tbl.unfoldBelow [] root

end ShapeTable

end ShaclQuery
