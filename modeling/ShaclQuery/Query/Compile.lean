import ShaclQuery.Focus
import ShaclQuery.Log
import ShaclQuery.Pattern
import ShaclQuery.Shape.Unfolding
import ShaclQuery.Vocabulary

/-! # From shapes to queries

A shape becomes a WHERE pattern and a CONSTRUCT template. Every active property gives an alternative
with its own triple, and one more for each alternative of the shape nested in it, behind that triple;
the classes of the shape stand in front of every alternative. The template holds each triple once.
-/

namespace ShaclQuery

/-! ## 1. Classes and properties -/

def rdfType : Term := .iri (Vocabulary.rdf "type")

/-- What says that the focus has one of the target classes: a triple for a single class, and for
several a triple with a variable and a filter on it. -/
def typeElements (targets : List Term) (focus : Focus) : List Element :=
  match targets with
  | [] => []
  | [c] => [.triple ⟨some focus.term, some rdfType, some c⟩]
  | classes =>
    let v := focus.targetClass.term
    [.triple ⟨some focus.term, some rdfType, some v⟩, .oneOf (some v) (classes.map some)]

def propertyTriple (focus : Focus) (path : Option Term) (value : Focus) : TriplePattern :=
  ⟨some focus.term, path, some value.term⟩

/-! ## 2. The WHERE pattern -/

def assemble (targets : List Term) (focus : Focus) (branches : List Pattern) :
    Except UnionError Pattern :=
  match branches with
  | [] => .ok (.block ⟨typeElements targets focus⟩)
  | branches => (Pattern.unionOf branches).map (Pattern.prepend (typeElements targets focus))

/-- A nested pattern behind the triple that leads to it; an empty block adds nothing. -/
def behind (triple : TriplePattern) (inside : Pattern) : List Pattern :=
  if inside = .block ⟨[]⟩ then [] else [inside.prepend [.triple triple]]

namespace Branches

/-- The branches of a shape, the first property having position `i`. -/
def patterns (focus : Focus) (objectPrefix : String) :
    Branches → Nat → Logged UnionError (List Pattern)
  | .nil, _ => .ok []
  | .leaf path rest, i =>
    let triple := propertyTriple focus path (focus.object i objectPrefix)
    (rest.patterns focus objectPrefix (i + 1)).andThen fun more =>
      .ok (.block ⟨[.triple triple]⟩ :: more)
  | .cyclic path shape rest, i =>
    let triple := propertyTriple focus path (focus.object i objectPrefix)
    (Logged.note (.truncated shape path)).andThen fun _ =>
      (rest.patterns focus objectPrefix (i + 1)).andThen fun more =>
        .ok (.block ⟨[.triple triple]⟩ :: more)
  | .nested path targets inner rest, i =>
    let value := focus.object i objectPrefix
    let triple := propertyTriple focus path value
    (inner.patterns value "" 0).andThen fun branches =>
      (Logged.ofExcept (assemble targets value branches)).andThen fun inside =>
        (rest.patterns focus objectPrefix (i + 1)).andThen fun more =>
          .ok (.block ⟨[.triple triple]⟩ :: (behind triple inside ++ more))

/-! ## 3. The template -/

/-- The triples of the branches of a shape in the order of a walk through them, repetitions
included. -/
def walk {ε : Type} (focus : Focus) (objectPrefix : String) :
    Branches → Nat → Logged ε (List TriplePattern)
  | .nil, _ => .ok []
  | .leaf path rest, i =>
    let triple := propertyTriple focus path (focus.object i objectPrefix)
    (rest.walk focus objectPrefix (i + 1)).andThen fun more => .ok (triple :: more)
  | .cyclic path shape rest, i =>
    let triple := propertyTriple focus path (focus.object i objectPrefix)
    (Logged.note (.truncated shape path)).andThen fun _ =>
      (rest.walk focus objectPrefix (i + 1)).andThen fun more => .ok (triple :: more)
  | .nested path targets inner rest, i =>
    let value := focus.object i objectPrefix
    let triple := propertyTriple focus path value
    (inner.walk value "" 0).andThen fun inside =>
      (rest.walk focus objectPrefix (i + 1)).andThen fun more =>
        .ok (triple :: ((typeElements targets value).filterMap Element.triple? ++ inside ++ more))

end Branches

/-! ## 4. Compiling a shape -/

inductive CompileError
  | focus (e : FocusError)
  | union (e : UnionError)
  deriving DecidableEq, Repr

def CompileError.message : CompileError → String
  | .focus e => e.message
  | .union e => e.message

structure Compiled where
  focus : Focus
  wherePattern : Pattern
  template : List TriplePattern
  deriving DecidableEq, Repr

namespace Unfolding

/-- The WHERE pattern of a shape at a focus, a single alternative still being a union. -/
def wherePattern (u : Unfolding) (focus : Focus) (objectPrefix : String) :
    Logged UnionError Pattern :=
  (u.branches.patterns focus objectPrefix 0).andThen fun branches =>
    .ofExcept (assemble u.targets focus branches)

def template {ε : Type} (u : Unfolding) (focus : Focus) (objectPrefix : String) :
    Logged ε (List TriplePattern) :=
  (u.branches.walk focus objectPrefix 0).andThen fun triples =>
    .ok (distinctBy TriplePattern.key
      ((typeElements u.targets focus).filterMap Element.triple? ++ triples))

def compile (u : Unfolding) (subjectVariable : Option String) (focusNode : Option Term)
    (objectPrefix : String) : Logged CompileError Compiled :=
  (Logged.ofExcept ((Focus.resolve subjectVariable focusNode).mapError .focus)).andThen
    fun focus =>
      ((u.wherePattern focus objectPrefix).mapError .union).andThen fun p =>
        (u.template focus objectPrefix).andThen fun triples => .ok ⟨focus, p.collapse, triples⟩

def compileWhere (u : Unfolding) (subjectVariable : Option String) (objectPrefix : String) :
    Logged CompileError Pattern :=
  (Logged.ofExcept ((Focus.resolve subjectVariable none).mapError .focus)).andThen fun focus =>
    ((u.wherePattern focus objectPrefix).mapError .union).andThen fun p => .ok p.collapse

end Unfolding

end ShaclQuery
