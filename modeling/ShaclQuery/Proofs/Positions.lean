import Mathlib.Logic.Function.Defs
import ShaclQuery.Proofs.Names

/-! # Variables of positions

The variables below a focus are named step by step, each from the name of the focus that the step
starts from: the object of a property, and the class of a shape. The object prefix takes part in the
first step only. This file follows the steps along an index path and shows that the variables are told
apart by what they are named for. Neither the name of the focus nor the prefix has to be a sensible one:
both may hold digits, underscores or the very word that stands for classes.
-/

namespace ShaclQuery

/-- What a variable is named for: the object at the end of an index path, which has a first index, or
the class of the shape that an index path leads to. -/
inductive Position
  | object (first : Nat) (rest : List Nat)
  | targetClass (place : List Nat)
  deriving DecidableEq, Repr

namespace Focus

def descend (f : Focus) (objectPrefix : String) : List Nat → Focus
  | [] => f
  | n :: rest => (f.object n objectPrefix).descend "" rest

theorem descend_eq_below (f : Focus) (objectPrefix : String) (path : List Nat) :
    f.descend objectPrefix path = f.below objectPrefix path := by
  induction path generalizing f objectPrefix with
  | nil => rfl
  | cons n rest ih => rw [descend, ih, below_object]

def variableOf (f : Focus) (objectPrefix : String) : Position → Focus
  | .object first rest => f.descend objectPrefix (first :: rest)
  | .targetClass place => (f.descend objectPrefix place).targetClass

theorem variableOf_object (f : Focus) (objectPrefix : String) (first : Nat) (rest : List Nat) :
    f.variableOf objectPrefix (.object first rest) = f.below objectPrefix (first :: rest) :=
  f.descend_eq_below objectPrefix (first :: rest)

theorem variableOf_targetClass (f : Focus) (objectPrefix : String) (place : List Nat) :
    f.variableOf objectPrefix (.targetClass place) = (f.below objectPrefix place).targetClass := by
  rw [variableOf, descend_eq_below]

/-- An object and a class cannot share a name, since only the name of a class ends with letters that
no index has. -/
theorem name_variableOf_injective (f : Focus) (objectPrefix : String) :
    Function.Injective fun p => (f.variableOf objectPrefix p).name := by
  intro p q h
  cases p with
  | object first rest =>
    cases q with
    | object first' rest' =>
      simp only [variableOf_object] at h
      cases name_below_injective h
      rfl
    | targetClass place' =>
      simp only [variableOf_object, variableOf_targetClass] at h
      exact absurd h.symm (name_targetClass_ne place' (first :: rest))
  | targetClass place =>
    cases q with
    | object first' rest' =>
      simp only [variableOf_object, variableOf_targetClass] at h
      exact absurd h (name_targetClass_ne place (first' :: rest'))
    | targetClass place' =>
      simp only [variableOf_targetClass] at h
      cases name_targetClass_injective h
      rfl

theorem name_variableOf_ne (f : Focus) (objectPrefix : String) (p : Position) :
    (f.variableOf objectPrefix p).name ≠ f.name := by
  -- the focus itself is what the empty path leads to
  show (f.variableOf objectPrefix p).name ≠ (f.below objectPrefix []).name
  cases p with
  | object first rest =>
    rw [variableOf_object]
    intro h
    cases name_below_injective h
  | targetClass place =>
    rw [variableOf_targetClass]
    exact name_targetClass_ne place []

theorem term_variableOf {f : Focus} (hf : f.Accepted) (objectPrefix : String) (p : Position) :
    (f.variableOf objectPrefix p).term = .var (f.variableOf objectPrefix p).name := by
  cases p with
  | object first rest =>
    rw [variableOf_object]
    exact term_below hf objectPrefix (List.cons_ne_nil first rest)
  | targetClass place =>
    rw [variableOf_targetClass]
    exact term_targetClass hf objectPrefix place

theorem term_variableOf_ne {f : Focus} (hf : f.Accepted) (objectPrefix : String) (p : Position) :
    (f.variableOf objectPrefix p).term ≠ f.term := by
  rw [term_variableOf hf]
  intro h
  -- a fixed focus is no variable, and a variable one has a name of its own
  rcases hf.term with hvar | ⟨iri, hiri⟩
  · rw [hvar, Term.var.injEq] at h
    exact name_variableOf_ne f objectPrefix p h
  · rw [hiri] at h
    cases h

end Focus

/-- Below every accepted focus and with every object prefix, different positions have different
variables. Each of them is the variable of its name, and neither its name nor its term is that of the
focus. -/
theorem position_variables_distinct (subjectVariable : Option String) (focusNode : Option Term)
    (f : Focus) (hfocus : Focus.resolve subjectVariable focusNode = .ok f) (objectPrefix : String) :
    (Function.Injective fun p => (f.variableOf objectPrefix p).term) ∧
    ∀ p, (f.variableOf objectPrefix p).term = .var (f.variableOf objectPrefix p).name ∧
      (f.variableOf objectPrefix p).name ≠ f.name ∧ (f.variableOf objectPrefix p).term ≠ f.term := by
  have hf := Focus.accepted_of_resolve hfocus
  constructor
  · intro p q h
    simp only [Focus.term_variableOf hf, Term.var.injEq] at h
    exact Focus.name_variableOf_injective f objectPrefix h
  · intro p
    exact ⟨Focus.term_variableOf hf objectPrefix p, Focus.name_variableOf_ne f objectPrefix p,
      Focus.term_variableOf_ne hf objectPrefix p⟩

/-- A name and a prefix that look like what is put behind them. -/
theorem position_variables_lookalike :
    Focus.resolve (some "?$x_0") none = .ok ⟨.var "x_0", "x_0"⟩ ∧
    (Function.Injective fun p =>
      ((⟨.var "x_0", "x_0"⟩ : Focus).variableOf "targetClass_0" p).term) ∧
    ((⟨.var "x_0", "x_0"⟩ : Focus).variableOf "targetClass_0" (.object 0 [1])).term =
      .var "x_0_targetClass_0_0_1" ∧
    ((⟨.var "x_0", "x_0"⟩ : Focus).variableOf "targetClass_0" (.targetClass [])).term ≠
      .var "x_0" := by
  have hfocus : Focus.resolve (some "?$x_0") none = .ok ⟨.var "x_0", "x_0"⟩ := rfl
  obtain ⟨hinjective, hvariables⟩ :=
    position_variables_distinct (some "?$x_0") none _ hfocus "targetClass_0"
  exact ⟨hfocus, hinjective, by decide, (hvariables (.targetClass [])).2.2⟩

end ShaclQuery
