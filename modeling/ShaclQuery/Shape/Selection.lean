import ShaclQuery.Query.Compile
import ShaclQuery.Shape.Reading

/-! # Selecting a shape

A graph's node shapes are the nodes of type `sh:NodeShape` and the other nodes with target classes or
properties that have no path. Those that are only nested in others are left out when there are any
others.
-/

namespace ShaclQuery

open Vocabulary

inductive SelectionError
  | notFound (iri : String)
  | noneFound
  | several (candidates : List Term)
  | order (e : OrderError)
  deriving DecidableEq, Repr

def SelectionError.message : SelectionError → String
  | .notFound iri => "Shape <" ++ iri ++ "> not found in shapes graph"
  | .noneFound => "No node shape found in shapes graph"
  | .several candidates =>
    "Several node shapes found (" ++ String.intercalate ", " (candidates.map Term.bareText)
      ++ "); select one explicitly"
  | .order e => e.message

namespace Graph

/-- All nodes that may be node shapes; those with the type come first. -/
def shapeCandidates (g : Graph) : List Term :=
  let typed := g.subjects rdfType (.iri (sh "NodeShape"))
  let untyped := g.subjectsOf (.iri (sh "targetClass")) ++ g.subjectsOf (.iri (sh "property"))
  distinctBy Term.key (typed ++ untyped.filter fun s => !g.has s (.iri (sh "path")))

def isNested (g : Graph) (node : Term) : Bool :=
  (g.objectsOf (.iri (sh "node"))).any (·.same node)

/-- The node shapes of a graph: the candidates that are not nested, or all of them when each is. -/
def nodeShapes (g : Graph) : List Term :=
  match g.shapeCandidates.filter (!g.isNested ·) with
  | [] => g.shapeCandidates
  | top => top

/-- The node of the shape with an IRI or, without one, of the only node shape. -/
def selectShape (g : Graph) (iri : Option String) : Except SelectionError Term :=
  match iri.filter (!·.isEmpty) with
  | some iri => if g.hasSubject (.iri iri) then .ok (.iri iri) else .error (.notFound iri)
  | none =>
    match g.nodeShapes with
    | [] => .error .noneFound
    | [node] => .ok node
    | several => .error (.several several)

def resolveShape [ForeignTypes] (g : Graph) (iri : Option String) : Logged SelectionError ShapeView :=
  (Logged.ofExcept (g.selectShape iri)).andThen fun node => (g.readShape node).mapError .order

end Graph

end ShaclQuery
