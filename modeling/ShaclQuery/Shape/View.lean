import ShaclQuery.Shape.Unfolding

/-! # Shape views

A shape as it is read from a graph: a finite tree of shapes with the nodes they were read from. A
shape that leads back to itself is cut off by a stub, which has an identifier and nothing else.
-/

namespace ShaclQuery

inductive PropertyViews
  | nil
  | plain (path : Option Term) (deactivated : Bool) (rest : PropertyViews)
  /-- A property with a nested shape: its node, target classes and properties. -/
  | nested (path : Option Term) (deactivated : Bool) (id : Term) (targets : List Term)
      (inner rest : PropertyViews)
  deriving DecidableEq, Repr

structure ShapeView where
  id : Term
  targets : List Term
  properties : PropertyViews
  deriving DecidableEq, Repr

structure PropertyView where
  path : Option Term
  deactivated : Bool
  node : Option ShapeView
  deriving DecidableEq, Repr

namespace PropertyViews

def ofList : List PropertyView → PropertyViews
  | [] => .nil
  | ⟨path, deactivated, none⟩ :: rest => .plain path deactivated (ofList rest)
  | ⟨path, deactivated, some v⟩ :: rest =>
    .nested path deactivated v.id v.targets v.properties (ofList rest)

def toList : PropertyViews → List PropertyView
  | .nil => []
  | .plain path deactivated rest => ⟨path, deactivated, none⟩ :: rest.toList
  | .nested path deactivated id targets inner rest =>
    ⟨path, deactivated, some ⟨id, targets, inner⟩⟩ :: rest.toList

def branches : PropertyViews → List Term → Branches
  | .nil, _ => .nil
  | .plain path deactivated rest, above =>
    if deactivated then rest.branches above else .leaf path (rest.branches above)
  | .nested path deactivated id targets inner rest, above =>
    if deactivated then rest.branches above
    else if above.contains id.key then .cyclic path (some id) (rest.branches above)
    else .nested path targets (inner.branches (id.key :: above)) (rest.branches above)

end PropertyViews

namespace ShapeView

/-- The view of a shape that is not entered again. -/
def stub (id : Term) : ShapeView := ⟨id, [], .nil⟩

def unfold (v : ShapeView) : Unfolding := ⟨v.targets, v.properties.branches [v.id.key]⟩

end ShapeView

end ShaclQuery
