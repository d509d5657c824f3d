import ShaclQuery.Proofs.GraphTable

/-! # Properties that are switched off

A shape may carry properties that are switched off, anywhere among the others, with any path and any
nested shape. No query shows them: positions are counted among the active properties, only these are
followed, and the keys on the way to a shape are those of shapes that were entered through them. Two
tables that differ in such properties alone therefore unfold alike, and what is compiled and reported
is the same.
-/

namespace ShaclQuery

/-- Shapes that differ in nothing but properties that are switched off. Identifiers are only compared
and shown, so they need to be the same up to the letter case of a language tag. -/
structure NodeShape.SameActive (s s' : NodeShape) : Prop where
  id : s.id.map Term.key = s'.id.map Term.key
  targets : s.targets = s'.targets
  active : s.active = s'.active

/-! ## 1. Unfolding -/

namespace ShapeTable

variable {tbl tbl' : ShapeTable}

/-- A position holds shapes that match in both tables, or none in either. -/
theorem getElem?_of_sameActive (h : List.Forall₂ NodeShape.SameActive tbl tbl') (i : Nat) :
    (tbl[i]? = none ∧ tbl'[i]? = none) ∨
      ∃ s s', tbl[i]? = some s ∧ tbl'[i]? = some s' ∧ s.SameActive s' := by
  induction h generalizing i with
  | nil => exact Or.inl ⟨rfl, rfl⟩
  | cons hs _ ih =>
    cases i with
    | zero => exact Or.inr ⟨_, _, rfl, rfl, hs⟩
    | succ i => exact ih i

theorem key_of_sameActive (h : List.Forall₂ NodeShape.SameActive tbl tbl') (i : Nat) :
    tbl.key i = tbl'.key i := by
  unfold key
  rcases getElem?_of_sameActive h i with ⟨hnone, hnone'⟩ | ⟨s, s', hs, hs', hsame⟩
  · rw [hnone, hnone']
  · have hid := hsame.id
    rw [hs, hs', Option.bind_some, Option.bind_some]
    -- both shapes have an identifier or none has, and a key looks at its key only
    cases hleft : s.id <;> cases hright : s'.id <;> simp_all

/-- One property leads to the same in both tables, provided the shapes nested below do. -/
theorem keyed_descent_of_sameActive (h : List.Forall₂ NodeShape.SameActive tbl tbl')
    {path : List ShapeKey}
    (hbelow : ∀ j, j < tbl.length → tbl.key j ∉ path →
      (tbl.unfoldBelow path j).keyed = (tbl'.unfoldBelow path j).keyed) (p : PropertyShape) :
    (tbl.descent path p).keyed = (tbl'.descent path p).keyed := by
  unfold descent
  cases p.node with
  | none => rfl
  | some j =>
    rw [Option.map_some, Option.map_some, Option.getD_some, Option.getD_some,
      ← key_of_sameActive h j]
    rcases getElem?_of_sameActive h j with ⟨hnone, hnone'⟩ | ⟨s, s', hs, hs', hsame⟩
    · rw [hnone, hnone']
    · rw [hs, hs']
      by_cases hmet : path.contains (tbl.key j) = true
      · show Descent.keyed (if _ then _ else _) = Descent.keyed (if _ then _ else _)
        rw [if_pos hmet, if_pos hmet]
        exact congrArg Descent.cyclic hsame.id
      · show Descent.keyed (if _ then _ else _) = Descent.keyed (if _ then _ else _)
        rw [if_neg hmet, if_neg hmet]
        have hlt : j < tbl.length := (List.getElem?_eq_some_iff.1 hs).1
        exact congrArg Descent.shape
          (hbelow j hlt fun hmem => hmet (List.contains_iff_mem.2 hmem))

/-- Tables that match in their active properties unfold alike, below shapes with any keys. -/
theorem keyed_unfoldBelow_of_sameActive (h : List.Forall₂ NodeShape.SameActive tbl tbl')
    (above : List ShapeKey) (i : Nat) :
    (tbl.unfoldBelow above i).keyed = (tbl'.unfoldBelow above i).keyed := by
  -- a shape is entered in both tables or in neither, and entering one leaves fewer fresh keys
  induction hfresh : tbl.fresh above using Nat.strongRecOn generalizing above i with
  | _ count ih =>
    have hkey := key_of_sameActive h i
    have hlength := h.length_eq
    by_cases henter : i < tbl.length ∧ tbl.key i ∉ above
    · obtain ⟨hi, hnew⟩ := henter
      have hi' : i < tbl'.length := by omega
      have hnew' : tbl'.key i ∉ above := hkey ▸ hnew
      have hsame : tbl[i].SameActive tbl'[i] := by
        rcases getElem?_of_sameActive h i with ⟨hnone, _⟩ | ⟨s, s', hs, hs', hsame⟩
        · rw [List.getElem?_eq_getElem hi] at hnone
          cases hnone
        · rw [List.getElem?_eq_getElem hi] at hs
          rw [List.getElem?_eq_getElem hi'] at hs'
          cases hs
          cases hs'
          exact hsame
      have hdescent (p : PropertyShape) :
          (tbl.descent (tbl.key i :: above) p).keyed =
            (tbl'.descent (tbl'.key i :: above) p).keyed := by
        rw [← hkey]
        apply keyed_descent_of_sameActive h
        intro j _ _
        have hlt := fresh_lt hi hnew
        exact ih _ (by omega) _ j rfl
      rw [unfoldBelow_eq hi hnew, unfoldBelow_eq hi' hnew']
      unfold Unfolding.keyed
      simp only [Branches.keyed_ofList, List.map_map, Function.comp_def, hdescent]
      rw [hsame.targets, hsame.active]
    · have henter' : ¬(i < tbl'.length ∧ tbl'.key i ∉ above) := by
        rw [← hlength, ← hkey]
        exact henter
      rw [unfoldBelow, unfoldBelow, dif_neg henter, dif_neg henter']

end ShapeTable

/-! ## 2. Reports -/

namespace Unfolding

variable {u u' : Unfolding}

theorem report_wherePattern_congr (h : u.keyed = u'.keyed) (focus : Focus)
    (objectPrefix : String) :
    (u.wherePattern focus objectPrefix).report = (u'.wherePattern focus objectPrefix).report := by
  rw [← Logged.report_keyed, ← wherePattern_keyed, h, wherePattern_keyed, Logged.report_keyed]

theorem report_template_congr (h : u.keyed = u'.keyed) (focus : Focus) (objectPrefix : String) :
    (u.template focus objectPrefix : Logged UnionError _).report =
      (u'.template focus objectPrefix : Logged UnionError _).report := by
  rw [← Logged.report_keyed, ← template_keyed, h, template_keyed, Logged.report_keyed]

theorem report_compile_congr (h : u.keyed = u'.keyed) (subjectVariable : Option String)
    (focusNode : Option Term) (objectPrefix : String) :
    (u.compile subjectVariable focusNode objectPrefix).report =
      (u'.compile subjectVariable focusNode objectPrefix).report := by
  rw [← Logged.report_keyed, ← compile_keyed, h, compile_keyed, Logged.report_keyed]

end Unfolding

/-- Two tables that match position by position in identifiers, target classes and active properties
give the same pattern, the same template and the same compiled query for every shape, with the same
lines in the log, whatever properties are switched off in either of them. -/
theorem reports_eq_of_sameActive (tbl tbl' : ShapeTable)
    (h : List.Forall₂ NodeShape.SameActive tbl tbl') (root : Nat) (focus : Focus)
    (objectPrefix : String) :
    ((tbl.unfold root).wherePattern focus objectPrefix).report =
      ((tbl'.unfold root).wherePattern focus objectPrefix).report ∧
    ((tbl.unfold root).template focus objectPrefix : Logged UnionError _).report =
      ((tbl'.unfold root).template focus objectPrefix : Logged UnionError _).report ∧
    ∀ subjectVariable focusNode,
      ((tbl.unfold root).compile subjectVariable focusNode objectPrefix).report =
        ((tbl'.unfold root).compile subjectVariable focusNode objectPrefix).report := by
  have hkeyed : (tbl.unfold root).keyed = (tbl'.unfold root).keyed :=
    ShapeTable.keyed_unfoldBelow_of_sameActive h [] root
  exact ⟨Unfolding.report_wherePattern_congr hkeyed focus objectPrefix,
    Unfolding.report_template_congr hkeyed focus objectPrefix, fun subjectVariable focusNode =>
      Unfolding.report_compile_congr hkeyed subjectVariable focusNode objectPrefix⟩

def taskShapes : ShapeTable :=
  [⟨some (exampleTerm "TaskShape"), [exampleTerm "Task"],
      [⟨some (exampleTerm "owner"), false, some 1⟩, ⟨some (exampleTerm "part"), false, some 0⟩]⟩,
    ⟨none, [], [⟨none, false, some 1⟩]⟩]

/-- The same shapes among properties that are switched off: one in front of the others that would
enter the owner first, and three that would lead back to a shape they stand in. -/
def silencedTaskShapes : ShapeTable :=
  [⟨some (exampleTerm "TaskShape"), [exampleTerm "Task"],
      [⟨some (exampleTerm "assignee"), true, some 1⟩, ⟨some (exampleTerm "owner"), false, some 1⟩,
        ⟨none, true, some 0⟩, ⟨some (exampleTerm "part"), false, some 0⟩]⟩,
    ⟨none, [], [⟨some (exampleTerm "task"), true, some 0⟩, ⟨none, false, some 1⟩,
      ⟨some (exampleTerm "deputy"), true, some 1⟩]⟩]

theorem reports_eq_taskShapes :
    List.Forall₂ NodeShape.SameActive taskShapes silencedTaskShapes ∧
    ((taskShapes.unfold 0).wherePattern ⟨.var "x", "x"⟩ "p").report =
      ((silencedTaskShapes.unfold 0).wherePattern ⟨.var "x", "x"⟩ "p").report ∧
    ((taskShapes.unfold 0).template ⟨.var "x", "x"⟩ "p" : Logged UnionError _).report =
      ((silencedTaskShapes.unfold 0).template ⟨.var "x", "x"⟩ "p" : Logged UnionError _).report ∧
    ∀ subjectVariable focusNode,
      ((taskShapes.unfold 0).compile subjectVariable focusNode "p").report =
        ((silencedTaskShapes.unfold 0).compile subjectVariable focusNode "p").report := by
  have hsame : List.Forall₂ NodeShape.SameActive taskShapes silencedTaskShapes :=
    .cons ⟨rfl, rfl, rfl⟩ (.cons ⟨rfl, rfl, rfl⟩ .nil)
  exact ⟨hsame, reports_eq_of_sameActive taskShapes silencedTaskShapes hsame 0 ⟨.var "x", "x"⟩ "p"⟩

end ShaclQuery
