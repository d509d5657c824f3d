import ShaclQuery.Document
import ShaclQuery.Proofs.Construct
import ShaclQuery.Proofs.Locality
import ShaclQuery.Shape.Selection

/-! # New labels for blank nodes

Whenever a document is read, its blank nodes get new labels. Nothing on the way from the document to a
query looks at a label, except to tell whether two of them are the same: look-ups, the order of
properties, the choice of a shape, its view and the query compiled from it all commute with a change of
labels. So two readings of one document lead to queries that are the same but for the labels.
-/

namespace ShaclQuery

open Vocabulary

variable (labels : Labels)

/-! ## 1. Terms -/

namespace Term

@[simp] theorem relabel_iri (text : String) : (Term.iri text).relabel labels = .iri text := rfl

end Term

namespace Graph

variable (g : Graph)

end Graph

/-! ## 4. Views -/

def PropertyViews.relabel : PropertyViews → PropertyViews
  | .nil => .nil
  | .plain path deactivated rest =>
    .plain (path.map (Term.relabel labels)) deactivated rest.relabel
  | .nested path deactivated id targets inner rest =>
    .nested (path.map (Term.relabel labels)) deactivated (id.relabel labels)
      (targets.map (Term.relabel labels)) inner.relabel rest.relabel

def ShapeView.relabel (v : ShapeView) : ShapeView :=
  ⟨v.id.relabel labels, v.targets.map (Term.relabel labels), v.properties.relabel labels⟩

def PropertyView.relabel (w : PropertyView) : PropertyView :=
  ⟨w.path.map (Term.relabel labels), w.deactivated, w.node.map (ShapeView.relabel labels)⟩

section Readings

variable [ForeignTypes]

namespace Graph

variable (g : Graph)

variable {g : Graph}

end Graph

end Readings

/-! ## 7. Unfoldings -/

def Branches.relabel : Branches → Branches
  | .nil => .nil
  | .leaf path rest => .leaf (path.map (Term.relabel labels)) rest.relabel
  | .cyclic path shape rest =>
    .cyclic (path.map (Term.relabel labels)) (shape.map (Term.relabel labels)) rest.relabel
  | .nested path targets inner rest =>
    .nested (path.map (Term.relabel labels)) (targets.map (Term.relabel labels)) inner.relabel
      rest.relabel

def Unfolding.relabel (u : Unfolding) : Unfolding :=
  ⟨u.targets.map (Term.relabel labels), u.branches.relabel labels⟩

def TriplePattern.relabel (t : TriplePattern) : TriplePattern :=
  ⟨t.subject.map (Term.relabel labels), t.predicate.map (Term.relabel labels),
    t.object.map (Term.relabel labels)⟩

def Element.relabel : Element → Element
  | .triple t => .triple (t.relabel labels)
  | .oneOf v values =>
    .oneOf (v.map (Term.relabel labels)) (values.map (·.map (Term.relabel labels)))

def Block.relabel (b : Block) : Block := ⟨b.elements.map (Element.relabel labels)⟩

def Pattern.relabel : Pattern → Pattern
  | .block b => .block (b.relabel labels)
  | .union bs => .union (bs.map (Block.relabel labels))

/-- The query with new labels; its focus is a variable or an IRI. -/
def Compiled.relabel (c : Compiled) : Compiled :=
  ⟨c.focus, c.wherePattern.relabel labels, c.template.map (TriplePattern.relabel labels)⟩

namespace Pattern

end Pattern

section Query

variable {focus : Focus} (hfocus : focus.term.relabel labels = focus.term)

include hfocus

end Query

end ShaclQuery
