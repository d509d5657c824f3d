import ShaclQuery.Graph
import ShaclQuery.Query.Compile

/-! # Evaluation of queries

What a compiled query finds in a graph of data. A solution of a block gives values to the variables
of its triples so that every triple lies in the graph and every filter holds; the solutions of a
union are those of its alternatives. A CONSTRUCT query puts every solution into its template and
leaves out what has a variable without a value or is not a triple of data. A blank node of a query,
such as a blank target class, is taken as a constant here and stands for itself only.
-/

namespace ShaclQuery

/-! ## 1. Data -/

def Triple.isData (t : Triple) : Bool :=
  (t.subject.isIri || t.subject.isBlank) && t.predicate.isIri && !t.object.isVariable

structure DataGraph extends Graph where
  isData : ∀ t ∈ triples, t.isData = true

/-! ## 2. Solutions -/

abbrev Solution := String → Option Term

namespace Solution

def value (μ : Solution) : Option Term → Option Term
  | none => none
  | some (.var name) => μ name
  | some (.iri text) => some (.iri text)
  | some (.blank label) => some (.blank label)
  | some (.literal l) => some (.literal l)

@[simp] theorem value_var (μ : Solution) (name : String) : μ.value (some (.var name)) = μ name := rfl

@[simp] theorem value_iri (μ : Solution) (text : String) :
    μ.value (some (.iri text)) = some (.iri text) := rfl

def instantiate (μ : Solution) (t : TriplePattern) : Option Triple :=
  (μ.value t.subject).bind fun s => (μ.value t.predicate).bind fun p =>
    (μ.value t.object).map fun o => ⟨s, p, o⟩

theorem instantiate_eq_some_iff {μ : Solution} {t : TriplePattern} {u : Triple} :
    μ.instantiate t = some u ↔ μ.value t.subject = some u.subject ∧
      μ.value t.predicate = some u.predicate ∧ μ.value t.object = some u.object := by
  unfold instantiate
  constructor
  · intro h
    obtain ⟨s, hs, h⟩ := Option.bind_eq_some_iff.1 h
    obtain ⟨p, hp, h⟩ := Option.bind_eq_some_iff.1 h
    obtain ⟨o, ho, rfl⟩ := Option.map_eq_some_iff.1 h
    exact ⟨hs, hp, ho⟩
  · rintro ⟨hs, hp, ho⟩
    rw [hs, hp, ho]
    rfl

end Solution

def Term.varName? : Term → Option String
  | .var name => some name
  | _ => none

def TriplePattern.variables (t : TriplePattern) : List String :=
  [t.subject, t.predicate, t.object].filterMap fun term => term.bind Term.varName?

def Block.variables (b : Block) : List String := b.triples.flatMap TriplePattern.variables

structure Block.Solves (b : Block) (g : Graph) (μ : Solution) : Prop where
  domain : ∀ name, (μ name).isSome = true ↔ name ∈ b.variables
  triples : ∀ t ∈ b.triples, ∃ u ∈ g.triples, μ.instantiate t = some u
  filters : ∀ term values, .oneOf term values ∈ b.elements →
    ∃ c, μ.value term = some c ∧ some c ∈ values

def Pattern.Solves (p : Pattern) (g : Graph) (μ : Solution) : Prop :=
  ∃ b ∈ p.alternatives, b.Solves g μ

/-- The query puts the triple into its result: some solution makes it from the template. -/
def Compiled.Constructs (c : Compiled) (g : Graph) (t : Triple) : Prop :=
  t.isData = true ∧ ∃ μ, c.wherePattern.Solves g μ ∧ ∃ p ∈ c.template, μ.instantiate p = some t

/-! ## 3. Variables and values -/

theorem Term.varName?_eq_some_iff {t : Term} {name : String} :
    t.varName? = some name ↔ t = .var name := by
  cases t <;> simp [varName?]

theorem TriplePattern.mem_variables {t : TriplePattern} {name : String} :
    name ∈ t.variables ↔ t.subject = some (.var name) ∨ t.predicate = some (.var name) ∨
      t.object = some (.var name) := by
  simp [TriplePattern.variables, List.mem_filterMap, Option.bind_eq_some_iff,
    Term.varName?_eq_some_iff, @eq_comm _ (some (Term.var name))]

/-- What is put into a template has values for all its variables. -/
theorem Solution.isSome_of_instantiate {μ : Solution} {t : TriplePattern} {u : Triple}
    (h : μ.instantiate t = some u) {name : String} (hname : name ∈ t.variables) :
    (μ name).isSome = true := by
  obtain ⟨hs, hp, ho⟩ := instantiate_eq_some_iff.1 h
  rcases TriplePattern.mem_variables.1 hname with hvar | hvar | hvar
  · rw [hvar, value_var] at hs
    rw [hs]
    rfl
  · rw [hvar, value_var] at hp
    rw [hp]
    rfl
  · rw [hvar, value_var] at ho
    rw [ho]
    rfl

theorem Block.Solves.mem_variables {b : Block} {g : Graph} {μ : Solution} (h : b.Solves g μ)
    {t : TriplePattern} {u : Triple} (ht : μ.instantiate t = some u) {name : String}
    (hname : name ∈ t.variables) : name ∈ b.variables :=
  (h.domain name).1 (Solution.isSome_of_instantiate ht hname)

/-- The triples of a block lie in the graph under every solution of it. -/
theorem Block.Solves.mem_of_instantiate {b : Block} {g : Graph} {μ : Solution} (h : b.Solves g μ)
    {t : TriplePattern} (ht : t ∈ b.triples) {u : Triple} (hu : μ.instantiate t = some u) :
    u ∈ g.triples := by
  obtain ⟨v, hv, hinst⟩ := h.triples t ht
  rw [hu] at hinst
  rw [Option.some.inj hinst]
  exact hv

theorem Pattern.alternatives_collapse (p : Pattern) : p.collapse.alternatives = p.alternatives := by
  rcases p with b | bs
  · rfl
  · rcases bs with _ | ⟨b, _ | ⟨c, rest⟩⟩ <;> rfl

end ShaclQuery
