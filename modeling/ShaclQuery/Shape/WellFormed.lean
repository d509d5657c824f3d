import ShaclQuery.Query.Compile
import ShaclQuery.Shape.Order

/-! # Well-formed shapes

The syntax rules of SHACL, appendix C, as a check on the shapes graph: every shape is a node shape or a
property shape but not both, its parameters have values of the right kind and number, its lists are
lists and its paths are paths. Only the shapes are looked at; nodes that they target in the graph itself
are not validated. The standard host checks shapes in this way, and no result depends on it.
-/

namespace ShaclQuery

open Vocabulary

variable [ForeignTypes]

namespace Graph

/-! ## 1. Reaching nodes -/

/-- The nodes that a list of nodes leads to in any number of steps, at most `rounds`. -/
def closure (step : Term → List Term) : Nat → List Term → List Term
  | 0, found => found
  | rounds + 1, found =>
    let more := distinctBy Term.key (found ++ found.flatMap step)
    if more.length = found.length then found else closure step rounds more

/-- The nodes that a node leads to in any number of steps. A new one comes with a triple of its own,
so there are no more rounds than triples. -/
def reach (g : Graph) (step : Term → List Term) (start : Term) : List Term :=
  closure step (g.size + 1) [start]

def shObjects (g : Graph) (t : Term) (name : String) : List Term := g.objects t (.iri (sh name))

def cells (g : Graph) (t : Term) : List Term := g.reach (fun c => g.objects c (.iri (rdf "rest"))) t

def members (g : Graph) (t : Term) : List Term :=
  (g.cells t).flatMap fun c => g.objects c (.iri (rdf "first"))

/-- The classes of a node: its types and what they are subclasses of. -/
def classes (g : Graph) (t : Term) : List Term :=
  (g.objects t rdfType).flatMap (g.reach fun c => g.objects c (.iri (rdfs "subClassOf")))

def isInstance (g : Graph) (t : Term) (cls : String) : Bool :=
  (g.classes t).any (·.same (.iri cls))

/-! ## 2. Lists -/

def isNil (t : Term) : Bool := t.same (.iri (rdf "nil"))

/-- A cell of a list: `rdf:nil` without content, or a node with one member and one rest. -/
def isCell (g : Graph) (t : Term) : Bool :=
  let firsts := (distinctBy Term.key (g.objects t (.iri (rdf "first")))).length
  let rests := (distinctBy Term.key (g.objects t (.iri (rdf "rest")))).length
  if isNil t then firsts = 0 && rests = 0 else firsts = 1 && rests = 1

def isList (g : Graph) (t : Term) : Bool :=
  (g.cells t).any isNil && (g.cells t).all g.isCell

def isLongList (g : Graph) (t : Term) : Bool :=
  let tails := distinctBy Term.key
    ((g.cells t).flatMap fun c => g.objects c (.iri (rdf "rest")))
  g.isList t && 2 ≤ tails.length

/-! ## 3. Paths -/

def pathMarks : List String := ["inversePath", "zeroOrMorePath", "oneOrMorePath", "zeroOrOnePath"]

def isMarked (g : Graph) (t : Term) (mark : String) : Bool :=
  (distinctBy Term.key (g.shObjects t mark)).length = 1
    && g.triples.all fun u => !u.subject.same t || u.predicate.same (.iri (sh mark))

/-- The forms of a path that a blank node may have; it must have exactly one. -/
def pathForms (g : Graph) (t : Term) : List Bool :=
  g.isLongList t
    :: (g.isMarked t "alternativePath" && (g.shObjects t "alternativePath").all g.isLongList)
    :: pathMarks.map (g.isMarked t)

def isPathNode (g : Graph) (t : Term) : Bool :=
  match t with
  | .iri _ => true
  | .blank _ => (g.pathForms t).count true = 1
  | _ => false

def innerPaths (g : Graph) (t : Term) : List Term :=
  g.members t ++ (g.shObjects t "alternativePath").flatMap g.members
    ++ pathMarks.flatMap (g.shObjects t)

def isPath (g : Graph) (t : Term) : Bool := (g.reach g.innerPaths t).all g.isPathNode

/-! ## 4. Parameters -/

/-- A literal of an XML Schema type with a value; a plain literal is a string. -/
def isOfType (name : String) : Term → Bool
  | .literal l =>
    l.language.isNone && l.datatype.getD (xsd "string") = xsd name && l.value?.isSome
  | _ => false

def isTruthValue (t : Term) : Bool :=
  ["true", "false"].any fun word => t.same (.literal ⟨word, none, some (xsd "boolean")⟩)

def isMessage : Term → Bool
  | .literal l => l.language.isSome || isOfType "string" (.literal l)
  | _ => false

def nodeKinds : List String :=
  ["BlankNode", "IRI", "Literal", "BlankNodeOrIRI", "BlankNodeOrLiteral", "IRIOrLiteral"]

def isNodeKind (t : Term) : Bool := nodeKinds.any fun name => t.same (.iri (sh name))

structure Parameter where
  name : String
  single : Bool
  allows : Graph → Term → Bool

def parameters : List Parameter :=
  let iri (_ : Graph) (t : Term) : Bool := t.isIri
  let literal (_ : Graph) (t : Term) : Bool := t.isLiteral
  let typed (name : String) (_ : Graph) (t : Term) : Bool := isOfType name t
  [⟨"targetNode", false, fun _ t => t.isIri || t.isLiteral⟩,
    ⟨"targetClass", false, iri⟩, ⟨"targetSubjectsOf", false, iri⟩, ⟨"targetObjectsOf", false, iri⟩,
    ⟨"severity", true, iri⟩, ⟨"message", false, fun _ t => isMessage t⟩,
    ⟨"deactivated", true, fun _ t => isTruthValue t⟩,
    ⟨"and", false, isList⟩, ⟨"or", false, isList⟩, ⟨"xone", false, isList⟩,
    ⟨"class", false, iri⟩, ⟨"closed", true, typed "boolean"⟩,
    ⟨"ignoredProperties", true, fun g t => g.isList t && (g.members t).all Term.isIri⟩,
    ⟨"datatype", true, iri⟩, ⟨"disjoint", false, iri⟩, ⟨"equals", false, iri⟩,
    ⟨"in", true, isList⟩,
    ⟨"languageIn", true, fun g t => g.isList t && (g.members t).all (isOfType "string")⟩,
    ⟨"lessThan", false, iri⟩, ⟨"lessThanOrEquals", false, iri⟩,
    ⟨"maxCount", true, typed "integer"⟩, ⟨"minCount", true, typed "integer"⟩,
    ⟨"maxLength", true, typed "integer"⟩, ⟨"minLength", true, typed "integer"⟩,
    ⟨"maxExclusive", true, literal⟩, ⟨"maxInclusive", true, literal⟩,
    ⟨"minExclusive", true, literal⟩, ⟨"minInclusive", true, literal⟩,
    ⟨"nodeKind", true, fun _ t => isNodeKind t⟩,
    ⟨"pattern", true, typed "string"⟩, ⟨"flags", true, typed "string"⟩,
    ⟨"qualifiedMaxCount", true, typed "integer"⟩, ⟨"qualifiedMinCount", true, typed "integer"⟩,
    ⟨"qualifiedValueShape", true, fun _ _ => true⟩,
    ⟨"qualifiedValueShapesDisjoint", true, typed "boolean"⟩,
    ⟨"uniqueLang", true, typed "boolean"⟩]

def keeps (g : Graph) (t : Term) (p : Parameter) : Bool :=
  let values := distinctBy Term.key (g.shObjects t p.name)
  (!p.single || values.length ≤ 1) && values.all (p.allows g)

/-! ## 5. Shapes -/

def propertyOnly : List String :=
  ["path", "lessThan", "lessThanOrEquals", "maxCount", "minCount", "qualifiedValueShape",
    "uniqueLang"]

def mayBeNodeShape (g : Graph) (t : Term) : Bool :=
  propertyOnly.all fun name => (g.shObjects t name).isEmpty

def mayBePropertyShape (g : Graph) (t : Term) : Bool :=
  let paths := distinctBy Term.key (g.shObjects t "path")
  paths.length = 1 && paths.all g.isPath

def isNamedClass (g : Graph) (t : Term) : Bool :=
  let isClass := g.isInstance t (rdfs "Class")
    && (g.isInstance t (sh "NodeShape") || g.isInstance t (sh "PropertyShape"))
  !isClass || t.isIri

def isShape (g : Graph) (t : Term) : Bool :=
  (g.mayBeNodeShape t ^^ g.mayBePropertyShape t) && g.isNamedClass t && parameters.all (g.keeps t)

def shapeProperties : List String :=
  ["targetClass", "targetNode", "targetObjectsOf", "targetSubjectsOf", "and", "class", "closed",
    "datatype", "disjoint", "equals", "flags", "hasValue", "ignoredProperties", "in", "languageIn",
    "lessThan", "lessThanOrEquals", "maxCount", "maxExclusive", "maxInclusive", "maxLength",
    "minCount", "minExclusive", "minInclusive", "minLength", "node", "nodeKind", "not", "or",
    "pattern", "property", "qualifiedMaxCount", "qualifiedMinCount", "qualifiedValueShape",
    "qualifiedValueShapesDisjoint", "sparql", "uniqueLang", "xone"]

def instances (g : Graph) (cls : String) : List Term :=
  (g.triples.map (·.subject)).filter fun t => g.isInstance t cls

/-- The nodes that count as shapes: by their type, by what they have, or by what refers to them. -/
def shapes (g : Graph) : List Term :=
  let typed := g.instances (sh "NodeShape") ++ g.instances (sh "PropertyShape")
  let subjects := shapeProperties.flatMap fun name => g.subjectsOf (.iri (sh name))
  let objects := ["node", "not", "property", "qualifiedValueShape"].flatMap fun name =>
    g.objectsOf (.iri (sh name))
  distinctBy Term.key (typed ++ subjects ++ objects)

/-- Whether the shapes of a graph keep the syntax rules. A node with the type of node shapes, or one
that `sh:node` refers to, is a node shape; likewise for property shapes and `sh:property`. -/
def isWellFormed (g : Graph) : Bool :=
  let objects (name : String) : List Term := g.objectsOf (.iri (sh name))
  g.shapes.all g.isShape
    && (g.instances (sh "NodeShape") ++ objects "node").all g.mayBeNodeShape
    && (g.instances (sh "PropertyShape") ++ objects "property").all g.mayBePropertyShape
    && ["and", "or", "xone"].all (fun name => (objects name).all fun t => (g.members t).all g.isShape)
    && ["shapesGraph", "entailment"].all fun name => (objects name).all Term.isIri

end Graph

end ShaclQuery
