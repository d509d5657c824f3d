import ShaclQuery.Shape.Order
import ShaclQuery.Shape.View

/-! # Reading shapes

The view of a shape is read off the triples of its node. A nested shape whose node is already on the
way to it becomes a stub, so every graph has finite views.
-/

namespace ShaclQuery

open Vocabulary

variable [ForeignTypes]

def Term.isTrue : Term → Bool
  | .literal l => l.value? = some (.boolean true)
  | _ => false

namespace Graph

/-- The path of a property; one that is not an IRI is reported and ignored. -/
def pathOf {ε : Type} (g : Graph) (property : Term) : Logged ε (Option Term) :=
  match g.value? property (.iri (sh "path")) with
  | none => .ok none
  | some p =>
    if p.isIri then .ok (some p)
    else (Logged.note (.unsupportedPath p property)).andThen fun _ => .ok none

def isDeactivated (g : Graph) (property : Term) : Bool :=
  (g.value? property (.iri (sh "deactivated"))).any Term.isTrue

def targetsOf (g : Graph) (shape : Term) : List Term :=
  distinctBy Term.key (g.objects shape (.iri (sh "targetClass")))

/-- Reads the shape at a node; `above` holds the keys of the nodes on the way to it and its own. -/
def readBelow (g : Graph) (above : List Term) (node : Term) : Logged OrderError ShapeView :=
  let readProperty (property : Term) : Logged OrderError PropertyView :=
    (g.pathOf property).andThen fun path =>
      match _h : g.value? property (.iri (sh "node")) with
      | none => .ok ⟨path, g.isDeactivated property, none⟩
      | some nested =>
        if _hmet : nested.key ∈ above then
          (Logged.note (.cyclicNode nested)).andThen fun _ =>
            .ok ⟨path, g.isDeactivated property, some (.stub nested)⟩
        else
          (g.readBelow (nested.key :: above) nested).andThen fun v =>
            .ok ⟨path, g.isDeactivated property, some v⟩
  (Logged.ofExcept (g.orderedProperties node)).andThen fun properties =>
    (Logged.collect readProperty properties).andThen fun views =>
      .ok ⟨node, g.targetsOf node, .ofList views⟩
  termination_by g.unmet above
  decreasing_by exact unmet_lt _h _hmet

def readShape (g : Graph) (node : Term) : Logged OrderError ShapeView :=
  g.readBelow [node.key] node

end Graph

end ShaclQuery
