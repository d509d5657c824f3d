import ShaclQuery.Term.Basic

/-! # Shape tables

A finite table of node shapes. A property may name the shape of its values by its position in the
table, so shapes may be shared and may refer to each other in circles.
-/

namespace ShaclQuery

/-- A property of a shape: the path to its values and the position of the shape they must have. -/
structure PropertyShape where
  path : Option Term
  deactivated : Bool
  node : Option Nat
  deriving DecidableEq, Repr

structure NodeShape where
  id : Option Term
  targets : List Term
  properties : List PropertyShape
  deriving DecidableEq, Repr

def NodeShape.active (s : NodeShape) : List PropertyShape :=
  s.properties.filter (!·.deactivated)

/-- What tells shapes apart: the identifier, or the position for a shape without one. -/
inductive ShapeKey
  | named (id : Term)
  | position (i : Nat)
  deriving DecidableEq, Repr

abbrev ShapeTable := List NodeShape

namespace ShapeTable

def key (tbl : ShapeTable) (i : Nat) : ShapeKey :=
  match (tbl[i]?).bind (·.id) with
  | some id => .named id.key
  | none => .position i

def fresh (tbl : ShapeTable) (visited : List ShapeKey) : Nat :=
  (List.range tbl.length).countP fun i => !visited.contains (tbl.key i)

end ShapeTable

end ShaclQuery
