import ShaclQuery.Distinct
import ShaclQuery.Term.Basic

/-! # Graphs

A graph is a set of triples that remembers in which order they came. Lookups answer in that order.
-/

namespace ShaclQuery

structure Triple where
  subject : Term
  predicate : Term
  object : Term
  deriving DecidableEq, Repr

def Triple.key (t : Triple) : Triple := ⟨t.subject.key, t.predicate.key, t.object.key⟩

def Triple.relabel (labels : Labels) (t : Triple) : Triple :=
  ⟨t.subject.relabel labels, t.predicate.relabel labels, t.object.relabel labels⟩

/-- Triples in the order of their insertion. -/
structure Graph where
  triples : List Triple
  deriving DecidableEq, Repr

namespace Graph

def empty : Graph := ⟨[]⟩

def size (g : Graph) : Nat := g.triples.length

def contains (g : Graph) (t : Triple) : Bool := g.triples.any fun u => u.key == t.key

def insert (g : Graph) (t : Triple) : Graph :=
  if g.contains t then g else ⟨g.triples ++ [t]⟩

def insertAll (g : Graph) (ts : List Triple) : Graph := ts.foldl insert g

def ofList (ts : List Triple) : Graph := empty.insertAll ts

def relabel (labels : Labels) (g : Graph) : Graph := ⟨g.triples.map (·.relabel labels)⟩

/-! ## 1. Lookups -/

def objects (g : Graph) (s p : Term) : List Term :=
  g.triples.filterMap fun t => if t.subject.same s && t.predicate.same p then some t.object else none

def value? (g : Graph) (s p : Term) : Option Term := (g.objects s p).head?

def subjects (g : Graph) (p o : Term) : List Term :=
  g.triples.filterMap fun t => if t.predicate.same p && t.object.same o then some t.subject else none

def objectsOf (g : Graph) (p : Term) : List Term :=
  g.triples.filterMap fun t => if t.predicate.same p then some t.object else none

/-- The subjects of a predicate with any object: object by object, each subject once. -/
def subjectsOf (g : Graph) (p : Term) : List Term :=
  distinctBy Term.key ((distinctBy Term.key (g.objectsOf p)).flatMap (g.subjects p))

def hasSubject (g : Graph) (s : Term) : Bool := g.triples.any fun t => t.subject.same s

def has (g : Graph) (s p : Term) : Bool := (g.value? s p).isSome

theorem mem_objects {g : Graph} {s p o : Term} :
    o ∈ g.objects s p ↔
      ∃ t ∈ g.triples, t.subject.same s = true ∧ t.predicate.same p = true ∧ t.object = o := by
  simp only [objects, List.mem_filterMap]
  constructor
  · rintro ⟨t, ht, hif⟩
    split at hif
    · rename_i hsame
      rw [Bool.and_eq_true] at hsame
      exact ⟨t, ht, hsame.1, hsame.2, Option.some.inj hif⟩
    · cases hif
  · rintro ⟨t, ht, hs, hp, ho⟩
    exact ⟨t, ht, by simp [hs, hp, ho]⟩

theorem mem_objects_of_value? {g : Graph} {s p o : Term} (h : g.value? s p = some o) :
    o ∈ g.objects s p :=
  List.mem_of_mem_head? h

/-! ## 2. Objects not yet met -/

/-- How many triples have an object outside a list of keys. -/
def unmet (g : Graph) (met : List Term) : Nat :=
  g.triples.countP fun t => !met.contains t.object.key

/-- Entering the object of a triple leaves fewer objects to meet. -/
theorem unmet_lt {g : Graph} {met : List Term} {s p o : Term} (h : g.value? s p = some o)
    (hmet : o.key ∉ met) : g.unmet (o.key :: met) < g.unmet met := by
  obtain ⟨t, ht, _, _, rfl⟩ := mem_objects.1 (mem_objects_of_value? h)
  exact countP_unmet_lt (·.object.key) ht hmet

end Graph

end ShaclQuery
