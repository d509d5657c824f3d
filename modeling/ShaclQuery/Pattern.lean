import ShaclQuery.Distinct
import ShaclQuery.Term.Basic

/-! # Graph patterns

A pattern is a block of triples and filters, or a union of blocks. Unions stay flat: joining
patterns concatenates their blocks, and putting elements in front puts them in front of every block.
-/

namespace ShaclQuery

/-- A triple of a pattern; a position without a term cannot be written. -/
structure TriplePattern where
  subject : Option Term
  predicate : Option Term
  object : Option Term
  deriving DecidableEq, Repr

def TriplePattern.key (t : TriplePattern) : TriplePattern :=
  ⟨t.subject.map Term.key, t.predicate.map Term.key, t.object.map Term.key⟩

inductive Element
  | triple (t : TriplePattern)
  | oneOf (term : Option Term) (values : List (Option Term))
  deriving DecidableEq, Repr

namespace Element

def key : Element → Element
  | .triple t => .triple t.key
  | .oneOf v values => .oneOf (v.map Term.key) (values.map (·.map Term.key))

def triple? : Element → Option TriplePattern
  | .triple t => some t
  | .oneOf _ _ => none

def isFilter : Element → Bool
  | .triple _ => false
  | .oneOf _ _ => true

end Element

structure Block where
  elements : List Element
  deriving DecidableEq, Repr

namespace Block

def key (b : Block) : Block := ⟨b.elements.map Element.key⟩

def triples (b : Block) : List TriplePattern := b.elements.filterMap Element.triple?

def filters (b : Block) : List Element := b.elements.filter Element.isFilter

def size (b : Block) : Nat := b.elements.length

def prepend (head : List Element) (b : Block) : Block := ⟨head ++ b.elements⟩

end Block

inductive Pattern
  | block (b : Block)
  | union (alternatives : List Block)
  deriving DecidableEq, Repr

namespace Pattern

def key : Pattern → Pattern
  | .block b => .block b.key
  | .union bs => .union (bs.map Block.key)

/-- A block has itself as its only alternative. -/
def alternatives : Pattern → List Block
  | .block b => [b]
  | .union bs => bs

def size : Pattern → Nat
  | .block b => b.size
  | .union bs => bs.length

def prepend (head : List Element) (p : Pattern) : Pattern :=
  if head.isEmpty then p
  else
    match p with
    | .block b => .block (b.prepend head)
    | .union bs => .union (bs.map (Block.prepend head))

/-- A union of one alternative as that block. -/
def collapse : Pattern → Pattern
  | .union [b] => .block b
  | p => p

def triples (p : Pattern) : List TriplePattern := p.alternatives.flatMap Block.triples

theorem triples_collapse (p : Pattern) : p.collapse.triples = p.triples := by
  rcases p with b | bs
  · rfl
  · rcases bs with _ | ⟨b, _ | ⟨c, rest⟩⟩ <;> simp [collapse, triples, alternatives]

end Pattern

/-! ## Building unions -/

inductive Part
  | pattern (p : Pattern)
  | element (e : Element)
  | missing
  deriving DecidableEq, Repr

inductive UnionError
  | noAlternative
  | notABlock (part : Part)
  deriving DecidableEq, Repr

def Part.kind : Part → String
  | .pattern (.block _) => "Block"
  | .pattern (.union _) => "UnionPattern"
  | .element (.triple _) => "TriplePattern"
  | .element (.oneOf _ _) => "InFilter"
  | .missing => "NoneType"

def UnionError.message : UnionError → String
  | .noAlternative => "A union needs at least one alternative"
  | .notABlock part => "Union alternatives must be blocks, got " ++ part.kind

namespace Part

def key : Part → Part
  | .pattern p => .pattern p.key
  | .element e => .element e.key
  | .missing => .missing

def block? : Part → Except UnionError Block
  | .pattern (.block b) => .ok b
  | part => .error (.notABlock part)

/-- The parts a part contributes to a flat union: the blocks of a union, or itself. -/
def flatten : Part → List Part
  | .pattern (.union bs) => bs.map fun b => .pattern (.block b)
  | part => [part]

def union (parts : List Part) : Except UnionError Pattern :=
  match parts with
  | [] => .error .noAlternative
  | parts => (parts.mapM block?).map .union

def unionOf (parts : List Part) : Except UnionError Pattern :=
  union (parts.flatMap flatten)

end Part

def Pattern.unionOf (patterns : List Pattern) : Except UnionError Pattern :=
  Part.unionOf (patterns.map .pattern)

end ShaclQuery
