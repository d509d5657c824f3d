import ShaclQuery.Query.Compile

/-! # The alternatives of a shape

Building a WHERE pattern joins patterns, and joining may fail: a union needs an alternative, and all
its alternatives are blocks. Shapes never run into this. Here the pattern of an unfolding is given
without errors and notices, as the list of its alternatives, and so are the triples of its template.
-/

namespace ShaclQuery

/-! ## 1. Results of steps that report -/

namespace Logged

variable {ε ε' α β : Type}

@[simp] theorem result_note (n : Notice) : (note n : Logged ε Unit).result = .ok () := rfl

@[simp] theorem result_ofExcept (r : Except ε α) : (ofExcept r).result = r := rfl

@[simp] theorem result_mapError (f : ε → ε') (x : Logged ε α) :
    (x.mapError f).result = x.result.mapError f := rfl

/-- A step behind one that succeeds gives what it gives alone. -/
theorem result_andThen {x : Logged ε α} {a : α} (h : x.result = .ok a) (f : α → Logged ε β) :
    (x.andThen f).result = (f a).result := by
  unfold andThen
  rw [h]

end Logged

/-! ## 2. Joining patterns -/

theorem Block.prepend_nil (b : Block) : b.prepend [] = b := rfl

theorem Block.triples_prepend (head : List Element) (b : Block) :
    (b.prepend head).triples = head.filterMap Element.triple? ++ b.triples := by
  simp [Block.triples, Block.prepend]

namespace Part

theorem flatten_pattern (p : Pattern) :
    flatten (.pattern p) = p.alternatives.map fun b => .pattern (.block b) := by
  cases p with
  | block b => rfl
  | union bs => rfl

theorem mapM_block? (bs : List Block) :
    (bs.map fun b => Part.pattern (.block b)).mapM block? = .ok bs := by
  induction bs with
  | nil => rfl
  | cons b rest ih =>
    rw [List.map_cons, List.mapM_cons, ih]
    rfl

end Part

namespace Pattern

theorem prepend_block (head : List Element) (b : Block) :
    (block b).prepend head = .block (b.prepend head) := by
  cases head with
  | nil => rfl
  | cons e rest => rfl

theorem prepend_union (head : List Element) (bs : List Block) :
    (union bs).prepend head = .union (bs.map (Block.prepend head)) := by
  cases head with
  | nil =>
    -- a head without elements leaves every block as it is
    have hid : Block.prepend [] = id := funext Block.prepend_nil
    rw [hid, List.map_id]
    rfl
  | cons e rest => rfl

theorem alternatives_prepend (head : List Element) (p : Pattern) :
    (p.prepend head).alternatives = p.alternatives.map (Block.prepend head) := by
  cases p with
  | block b => rw [prepend_block]; rfl
  | union bs => rw [prepend_union]; rfl

/-- Joining patterns puts their alternatives one behind the other. -/
theorem unionOf_eq_ok {patterns : List Pattern} (h : patterns.flatMap alternatives ≠ []) :
    unionOf patterns = .ok (.union (patterns.flatMap alternatives)) := by
  have hparts : (patterns.map Part.pattern).flatMap Part.flatten =
      (patterns.flatMap alternatives).map fun b => .pattern (.block b) := by
    rw [List.flatMap_map, List.map_flatMap]
    exact congrArg (fun f => patterns.flatMap f) (funext Part.flatten_pattern)
  unfold unionOf Part.unionOf
  rw [hparts]
  generalize patterns.flatMap alternatives = bs at h
  cases bs with
  | nil => exact absurd rfl h
  | cons b rest =>
    -- all parts are blocks by now, so none of them is refused
    show Except.map Pattern.union (List.mapM Part.block? _) = _
    rw [Part.mapM_block?]
    rfl

/-- The pattern whose properties give `branches`: the types stand in front of every branch, and
alone when there is none. -/
def ofBranches (types : List Element) : List Block → Pattern
  | [] => .block ⟨types⟩
  | branches => .union (branches.map (Block.prepend types))

@[simp] theorem ofBranches_nil (types : List Element) : ofBranches types [] = .block ⟨types⟩ := rfl

theorem ofBranches_of_ne_nil (types : List Element) {branches : List Block} (h : branches ≠ []) :
    ofBranches types branches = .union (branches.map (Block.prepend types)) := by
  cases branches with
  | nil => exact absurd rfl h
  | cons b rest => rfl

end Pattern

theorem assemble_eq_ok (targets : List Term) (focus : Focus) {patterns : List Pattern}
    (h : patterns.flatMap Pattern.alternatives = [] → patterns = []) :
    assemble targets focus patterns =
      .ok (.ofBranches (typeElements targets focus) (patterns.flatMap Pattern.alternatives)) := by
  cases patterns with
  | nil => rfl
  | cons p rest =>
    have hne : (p :: rest).flatMap Pattern.alternatives ≠ [] := fun hnil => by cases h hnil
    show (Pattern.unionOf (p :: rest)).map _ = _
    rw [Pattern.unionOf_eq_ok hne, Pattern.ofBranches_of_ne_nil _ hne, ← Pattern.prepend_union]
    rfl

/-! ## 3. Alternatives and triples of branches -/

namespace Branches

/-- The alternatives that the properties give, the first property having position `i`. -/
def alternatives (focus : Focus) (objectPrefix : String) : Branches → Nat → List Block
  | .nil, _ => []
  | .leaf path rest, i =>
    ⟨[.triple (propertyTriple focus path (focus.object i objectPrefix))]⟩ ::
      rest.alternatives focus objectPrefix (i + 1)
  | .cyclic path _ rest, i =>
    ⟨[.triple (propertyTriple focus path (focus.object i objectPrefix))]⟩ ::
      rest.alternatives focus objectPrefix (i + 1)
  | .nested path targets inner rest, i =>
    let value := focus.object i objectPrefix
    let triple := propertyTriple focus path value
    let inside := Pattern.ofBranches (typeElements targets value) (inner.alternatives value "" 0)
    ⟨[.triple triple]⟩ :: ((behind triple inside).flatMap Pattern.alternatives ++
      rest.alternatives focus objectPrefix (i + 1))

theorem alternatives_eq_nil_iff (focus : Focus) (objectPrefix : String) (b : Branches) (i : Nat) :
    b.alternatives focus objectPrefix i = [] ↔ b = .nil := by
  cases b <;> simp [alternatives]

/-- The branches of a shape are built without an error and hold its alternatives in order. -/
theorem exists_patterns_result (b : Branches) (focus : Focus) (objectPrefix : String) (i : Nat) :
    ∃ ps, (b.patterns focus objectPrefix i).result = .ok ps ∧
      ps.flatMap Pattern.alternatives = b.alternatives focus objectPrefix i ∧
      (ps.flatMap Pattern.alternatives = [] → ps = []) := by
  -- the last part lets a nested shape be assembled: without alternatives it has no properties
  induction b generalizing focus objectPrefix i with
  | nil => exact ⟨[], rfl, rfl, fun _ => rfl⟩
  | leaf path rest ih =>
    obtain ⟨more, hmore, halts, _⟩ := ih focus objectPrefix (i + 1)
    refine ⟨_, Logged.result_andThen hmore _, ?_, ?_⟩
    · rw [List.flatMap_cons, halts]
      rfl
    · intro hnil
      simp [Pattern.alternatives] at hnil
  | cyclic path shape rest ih =>
    obtain ⟨more, hmore, halts, _⟩ := ih focus objectPrefix (i + 1)
    let triple := propertyTriple focus path (focus.object i objectPrefix)
    refine ⟨.block ⟨[.triple triple]⟩ :: more, ?_, ?_, ?_⟩
    · exact (Logged.result_andThen (Logged.result_note _) _).trans (Logged.result_andThen hmore _)
    · rw [List.flatMap_cons, halts]
      rfl
    · intro hnil
      simp [Pattern.alternatives] at hnil
  | nested path targets inner rest ihInner ihRest =>
    obtain ⟨branches, hbranches, hinside, hempty⟩ := ihInner (focus.object i objectPrefix) "" 0
    obtain ⟨more, hmore, halts, _⟩ := ihRest focus objectPrefix (i + 1)
    have hassemble := assemble_eq_ok targets (focus.object i objectPrefix) hempty
    rw [hinside] at hassemble
    let triple := propertyTriple focus path (focus.object i objectPrefix)
    let inside := Pattern.ofBranches (typeElements targets (focus.object i objectPrefix))
      (inner.alternatives (focus.object i objectPrefix) "" 0)
    refine ⟨.block ⟨[.triple triple]⟩ :: (behind triple inside ++ more), ?_, ?_, ?_⟩
    · exact (Logged.result_andThen hbranches _).trans
        ((Logged.result_andThen hassemble _).trans (Logged.result_andThen hmore _))
    · rw [List.flatMap_cons, List.flatMap_append, halts]
      rfl
    · intro hnil
      simp [Pattern.alternatives] at hnil

def triples (focus : Focus) (objectPrefix : String) : Branches → Nat → List TriplePattern
  | .nil, _ => []
  | .leaf path rest, i =>
    propertyTriple focus path (focus.object i objectPrefix) ::
      rest.triples focus objectPrefix (i + 1)
  | .cyclic path _ rest, i =>
    propertyTriple focus path (focus.object i objectPrefix) ::
      rest.triples focus objectPrefix (i + 1)
  | .nested path targets inner rest, i =>
    let value := focus.object i objectPrefix
    propertyTriple focus path value ::
      ((typeElements targets value).filterMap Element.triple? ++ inner.triples value "" 0 ++
        rest.triples focus objectPrefix (i + 1))

theorem walk_result {ε : Type} (b : Branches) (focus : Focus) (objectPrefix : String) (i : Nat) :
    (b.walk focus objectPrefix i : Logged ε _).result = .ok (b.triples focus objectPrefix i) := by
  induction b generalizing focus objectPrefix i with
  | nil => rfl
  | leaf path rest ih => exact Logged.result_andThen (ih focus objectPrefix (i + 1)) _
  | cyclic path shape rest ih =>
    exact (Logged.result_andThen rfl _).trans
      (Logged.result_andThen (ih focus objectPrefix (i + 1)) _)
  | nested path targets inner rest ihInner ihRest =>
    exact (Logged.result_andThen (ihInner (focus.object i objectPrefix) "" 0) _).trans
      (Logged.result_andThen (ihRest focus objectPrefix (i + 1)) _)

end Branches

/-! ## 4. Pattern and template of an unfolding -/

namespace Unfolding

/-- The WHERE pattern of a shape, a single alternative still being a union. -/
def pattern (u : Unfolding) (focus : Focus) (objectPrefix : String) : Pattern :=
  .ofBranches (typeElements u.targets focus) (u.branches.alternatives focus objectPrefix 0)

theorem wherePattern_result (u : Unfolding) (focus : Focus) (objectPrefix : String) :
    (u.wherePattern focus objectPrefix).result = .ok (u.pattern focus objectPrefix) := by
  obtain ⟨ps, hps, halts, hempty⟩ := u.branches.exists_patterns_result focus objectPrefix 0
  unfold wherePattern
  rw [Logged.result_andThen hps, Logged.result_ofExcept, assemble_eq_ok _ _ hempty, halts]
  rfl

theorem template_result {ε : Type} (u : Unfolding) (focus : Focus) (objectPrefix : String) :
    (u.template focus objectPrefix : Logged ε _).result =
      .ok (distinctBy TriplePattern.key ((typeElements u.targets focus).filterMap Element.triple? ++
        u.branches.triples focus objectPrefix 0)) := by
  unfold template
  rw [Logged.result_andThen (u.branches.walk_result focus objectPrefix 0)]
  rfl

end Unfolding

end ShaclQuery
