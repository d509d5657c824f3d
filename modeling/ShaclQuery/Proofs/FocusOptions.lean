import ShaclQuery.Proofs.Construct

/-! # Focus options

A shape is compiled for a variable name or for a fixed IRI. These two options alone decide whether
there is a result: whatever the shape is, nothing fails once there is a focus. Options can be misused in
three ways, and there is a fourth failure that is none of them. A name is checked for being empty before
the marks in front of it are dropped, so a name that is nothing but marks passes the check and fails as
a variable without a name.
-/

namespace ShaclQuery

namespace Focus

/-! ## 1. What the options determine -/

inductive Misuse : Option String → Option Term → FocusError → Prop
  | neither : Misuse none none .notExactlyOne
  | both (name : String) (t : Term) : Misuse (some name) (some t) .notExactlyOne
  | notAnIri {t : Term} : t.isIri = false → Misuse none (some t) (.notAnIri t)
  | emptyName : Misuse (some "") none .emptyName

/-- A name alone that is not empty and has nothing behind its marks. -/
def OnlyMarks (subjectVariable : Option String) (focusNode : Option Term) : Prop :=
  ∃ name, subjectVariable = some name ∧ focusNode = none ∧ name ≠ "" ∧ bareName name = ""

/-- The error of a term says nothing about misuse. -/
theorem Misuse.ne_term {subjectVariable : Option String} {focusNode : Option Term} {e : FocusError}
    (h : Misuse subjectVariable focusNode e) (te : TermError) : e ≠ .term te := by
  cases h <;> exact FocusError.noConfusion

/-- Options are refused for misuse, and for a name that is nothing but marks. -/
theorem resolve_eq_error_iff {subjectVariable : Option String} {focusNode : Option Term}
    {e : FocusError} :
    resolve subjectVariable focusNode = .error e ↔
      Misuse subjectVariable focusNode e ∨
        (e = .term .emptyVariable ∧ OnlyMarks subjectVariable focusNode) := by
  constructor
  · intro h
    cases subjectVariable with
    | none =>
      left
      cases focusNode with
      | none =>
        cases h
        exact .neither
      | some t =>
        rw [resolve_term] at h
        split at h
        · cases h
        · rename_i hiri
          cases h
          exact .notAnIri (Bool.eq_false_iff.2 hiri)
    | some name =>
      cases focusNode with
      | some t =>
        cases h
        exact Or.inl (.both name t)
      | none =>
        rw [resolve_name] at h
        split at h
        · rename_i hname
          cases h
          rw [hname]
          exact Or.inl .emptyName
        · rename_i hname
          split at h
          · rename_i hbare
            cases h
            exact Or.inr ⟨rfl, name, rfl, rfl, hname, hbare⟩
          · cases h
  · rintro (hmisuse | ⟨rfl, name, rfl, rfl, hname, hbare⟩)
    · cases hmisuse with
      | neither => rfl
      | both name t => rfl
      | notAnIri hiri =>
        rw [resolve_term, hiri]
        rfl
      | emptyName => rfl
    · rw [resolve_name, if_neg hname, if_pos hbare]

end Focus

/-! ## 2. Compiling -/

namespace Unfolding

/-- Compiling fails for want of a focus only. -/
theorem compile_eq_error_iff (u : Unfolding) {subjectVariable : Option String}
    {focusNode : Option Term} (objectPrefix : String) {e : CompileError} :
    (u.compile subjectVariable focusNode objectPrefix).result = .error e ↔
      ∃ f, e = .focus f ∧ Focus.resolve subjectVariable focusNode = .error f := by
  cases hresolve : Focus.resolve subjectVariable focusNode with
  | ok focus =>
    rw [compile_result u hresolve]
    simp
  | error f =>
    have hresult : (u.compile subjectVariable focusNode objectPrefix).result = .error (.focus f) := by
      unfold compile
      rw [hresolve]
      rfl
    rw [hresult]
    simp [eq_comm]

theorem compile_isOk_iff (u : Unfolding) {subjectVariable : Option String}
    {focusNode : Option Term} {objectPrefix : String} :
    (∃ c, (u.compile subjectVariable focusNode objectPrefix).result = .ok c) ↔
      ∃ f, Focus.resolve subjectVariable focusNode = .ok f := by
  cases hresolve : Focus.resolve subjectVariable focusNode with
  | ok focus =>
    rw [compile_result u hresolve]
    simp
  | error f =>
    rw [(u.compile_eq_error_iff objectPrefix).2 ⟨f, rfl, hresolve⟩]
    simp

/-- Compiling the WHERE pattern alone is compiling the shape and keeping the pattern. -/
theorem compileWhere_result_eq_map (u : Unfolding) (subjectVariable : Option String)
    (objectPrefix : String) :
    (u.compileWhere subjectVariable objectPrefix).result =
      (u.compile subjectVariable none objectPrefix).result.map Compiled.wherePattern := by
  cases hresolve : Focus.resolve subjectVariable none with
  | ok focus =>
    rw [compile_result u hresolve, compileWhere_result u hresolve]
    rfl
  | error f =>
    unfold compile compileWhere
    rw [hresolve]
    rfl

end Unfolding

/-- Every shape of every table is compiled when the options determine a focus, and else fails: with the
error that says how they are misused or, for a name of nothing but marks, with that of a variable without
a name. The WHERE pattern alone fails as the whole does. -/
theorem compile_fails_on_misuse_or_marks (tbl : ShapeTable) (root : Nat)
    (subjectVariable : Option String) (focusNode : Option Term) (objectPrefix : String) :
    ((∃ c, ((tbl.unfold root).compile subjectVariable focusNode objectPrefix).result = .ok c) ↔
      ∃ f, Focus.Determines subjectVariable focusNode f) ∧
    (∀ e, ((tbl.unfold root).compile subjectVariable focusNode objectPrefix).result = .error e ↔
      (∃ f, e = .focus f ∧ Focus.Misuse subjectVariable focusNode f) ∨
        (e = .focus (.term .emptyVariable) ∧ Focus.OnlyMarks subjectVariable focusNode)) ∧
    ((tbl.unfold root).compileWhere subjectVariable objectPrefix).result =
      ((tbl.unfold root).compile subjectVariable none objectPrefix).result.map
        Compiled.wherePattern := by
  refine ⟨?_, fun e => ?_, Unfolding.compileWhere_result_eq_map _ _ _⟩
  · simp only [Unfolding.compile_isOk_iff, Focus.resolve_eq_ok_iff]
  · simp only [Unfolding.compile_eq_error_iff, Focus.resolve_eq_error_iff]
    constructor
    · rintro ⟨f, rfl, hmisuse | ⟨rfl, hmarks⟩⟩
      · exact Or.inl ⟨f, rfl, hmisuse⟩
      · exact Or.inr ⟨rfl, hmarks⟩
    · rintro (⟨f, rfl, hmisuse⟩ | ⟨rfl, hmarks⟩)
      · exact ⟨f, rfl, Or.inl hmisuse⟩
      · exact ⟨_, rfl, Or.inr ⟨rfl, hmarks⟩⟩

/-- A question mark alone is a name that is not misused and still fails. -/
theorem compile_question_mark_not_misuse :
    ((ShapeTable.unfold [⟨none, [], []⟩] 0).compile (some "?") none "").result =
      .error (.focus (.term .emptyVariable)) ∧
    ¬∃ f, CompileError.focus (.term .emptyVariable) = .focus f ∧ Focus.Misuse (some "?") none f := by
  refine ⟨by decide +kernel, ?_⟩
  rintro ⟨f, hf, hmisuse⟩
  exact hmisuse.ne_term _ (CompileError.focus.inj hf).symm

end ShaclQuery
