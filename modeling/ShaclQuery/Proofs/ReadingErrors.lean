import ShaclQuery.Proofs.GraphTable

/-! # When a shape can be read

Reading a shape enters the shapes that its properties lead to, each of them unless it is on the way to
itself. The only thing that can stop it is a property whose order cannot be told. A circle hides no such
property: a node that is not entered again has been entered before, so the reading of every shape that
properties lead to is part of the whole.
-/

namespace ShaclQuery

open Vocabulary

namespace Graph

/-! ## 1. The nodes that are read -/

inductive Reads (g : Graph) (node : Term) : Term → Prop
  | root : g.Reads node node
  | nested {s property m : Term} : g.Reads node s → property ∈ g.objects s (.iri (sh "property")) →
    g.value? property (.iri (sh "node")) = some m → g.Reads node m

variable {g : Graph} {node : Term}

/-- What is read belongs to every set of nodes that holds the first and is not left. -/
theorem Reads.mem_of_closed {s : Term} (h : g.Reads node s) (region : Term → Prop)
    (hnode : region node)
    (hclosed : ∀ s, region s → ∀ property ∈ g.objects s (.iri (sh "property")),
      ∀ m, g.value? property (.iri (sh "node")) = some m → region m) : region s := by
  induction h with
  | root => exact hnode
  | nested _ hproperty hm ih => exact hclosed _ ih _ hproperty _ hm

/-- The readings that are part of the reading of a node: below nodes with which keys, and where. -/
inductive Enters (g : Graph) (node : Term) : List Term → Term → Prop
  | root : g.Enters node [node.key] node
  | nested {above : List Term} {s property m : Term} : g.Enters node above s →
    property ∈ g.objects s (.iri (sh "property")) →
    g.value? property (.iri (sh "node")) = some m → m.key ∉ above → g.Enters node (m.key :: above) m

/-- A key on the way to a node is that of a node which has been entered. -/
theorem Enters.exists_of_mem {above : List Term} {s k : Term} (h : g.Enters node above s)
    (hk : k ∈ above) : ∃ above' s', g.Enters node above' s' ∧ s'.key = k := by
  induction h with
  | root =>
    rw [List.mem_singleton] at hk
    exact ⟨_, _, .root, hk.symm⟩
  | nested hs hproperty hm hnew ih =>
    rcases List.mem_cons.1 hk with rfl | hk
    · exact ⟨_, _, hs.nested hproperty hm hnew, rfl⟩
    · exact ih hk

theorem Reads.exists_enters {s : Term} (h : g.Reads node s) :
    ∃ above s', g.Enters node above s' ∧ s'.key = s.key := by
  induction h with
  | root => exact ⟨_, _, .root, rfl⟩
  | @nested s property m _ hproperty hm ih =>
    obtain ⟨above, s', hs', hkey⟩ := ih
    rw [← g.objects_congr hkey] at hproperty
    by_cases hmet : m.key ∈ above
    · exact hs'.exists_of_mem hmet
    · exact ⟨_, _, hs'.nested hproperty hm hmet, rfl⟩

theorem value?_congr (g : Graph) {s s' : Term} (h : s.key = s'.key) (p : Term) :
    g.value? s p = g.value? s' p := by
  rw [value?, value?, g.objects_congr h]

variable [ForeignTypes]

/-! ## 2. Orders are enough -/

theorem exists_readProperty_eq_ok {above : List Term} {property : Term}
    (hbelow : ∀ m, g.value? property (.iri (sh "node")) = some m → m.key ∉ above →
      ∃ v, (g.readBelow (m.key :: above) m).result = .ok v) :
    ∃ w, (g.readProperty above property).result = .ok w := by
  simp only [readProperty, Logged.result_andThen_eq_ok]
  cases hvalue : g.value? property (.iri (sh "node")) with
  | none => exact ⟨_, _, pathOf_result g property, rfl⟩
  | some m =>
    by_cases hmet : m.key ∈ above
    · simp only [if_pos hmet]
      exact ⟨_, _, pathOf_result g property, rfl⟩
    · obtain ⟨v, hv⟩ := hbelow m hvalue hmet
      simp only [if_neg hmet]
      exact ⟨_, _, pathOf_result g property, Logged.result_andThen_eq_ok.2 ⟨v, hv, rfl⟩⟩

/-- Reading succeeds when every property it comes to has a sort key. -/
theorem exists_readBelow_eq_ok
    (horder : ∀ s, g.Reads node s → ∀ p ∈ g.objects s (.iri (sh "property")),
      ∃ x, g.orderOf p = .ok x)
    (above : List Term) {s : Term} (hs : g.Reads node s) :
    ∃ v, (g.readBelow above s).result = .ok v := by
  -- a nested node is entered only when that leaves fewer objects to meet
  induction hunmet : g.unmet above using Nat.strongRecOn generalizing above s with
  | _ count ih =>
    obtain ⟨properties, hproperties⟩ := (g.orderedProperties_isOk_iff s).2 (horder s hs)
    have hviews : ∃ views, (Logged.collect (g.readProperty above) properties).result = .ok views := by
      rw [Logged.result_collect]
      apply exists_mapM_eq_ok
      intro property hproperty
      apply exists_readProperty_eq_ok
      intro m hm hmet
      have hlt := unmet_lt hm hmet
      exact ih _ (by omega) _
        (hs.nested (mem_objects_of_orderedProperties hproperties hproperty) hm) rfl
    obtain ⟨views, hviews⟩ := hviews
    rw [readBelow_eq, Logged.ofExcept, hproperties]
    exact ⟨_, Logged.result_andThen_eq_ok.2
      ⟨properties, rfl, Logged.result_andThen_eq_ok.2 ⟨views, hviews, rfl⟩⟩⟩

/-! ## 3. Circles hide nothing -/

theorem exists_readBelow_of_readProperty {above : List Term} {property m : Term} {w : PropertyView}
    (h : (g.readProperty above property).result = .ok w)
    (hm : g.value? property (.iri (sh "node")) = some m) (hnew : m.key ∉ above) :
    ∃ v, (g.readBelow (m.key :: above) m).result = .ok v := by
  obtain ⟨_, _, h⟩ := Logged.result_andThen_eq_ok.1 h
  simp only [hm, if_neg hnew] at h
  obtain ⟨v, hv, _⟩ := Logged.result_andThen_eq_ok.1 h
  exact ⟨v, hv⟩

/-- A reading that succeeds has no reading in it that fails. -/
theorem Enters.exists_readBelow_eq_ok {above : List Term} {s : Term} (h : g.Enters node above s)
    (hroot : ∃ v, (g.readShape node).result = .ok v) :
    ∃ v, (g.readBelow above s).result = .ok v := by
  induction h with
  | root => exact hroot
  | @nested above s property m _ hproperty hm hnew ih =>
    obtain ⟨v, hv⟩ := ih
    rw [readBelow_eq] at hv
    obtain ⟨properties, hproperties, hv⟩ := Logged.result_andThen_eq_ok.1 hv
    obtain ⟨views, hviews, _⟩ := Logged.result_andThen_eq_ok.1 hv
    -- the property itself may have been passed over for one that is the same term
    obtain ⟨q, hq, hkey⟩ := exists_mem_distinctBy Term.key _ hproperty
    have hmem : q ∈ properties := (perm_of_orderedProperties hproperties).mem_iff.2 hq
    obtain ⟨w, _, hw⟩ := exists_mem_left_of_mem (Logged.result_collect_eq_ok hviews).flip hmem
    exact exists_readBelow_of_readProperty hw ((g.value?_congr hkey _).trans hm) hnew

theorem orderedProperties_of_readBelow {above : List Term} {s : Term}
    (h : ∃ v, (g.readBelow above s).result = .ok v) :
    ∃ properties, g.orderedProperties s = .ok properties := by
  obtain ⟨v, hv⟩ := h
  rw [readBelow_eq] at hv
  obtain ⟨properties, hproperties, _⟩ := Logged.result_andThen_eq_ok.1 hv
  exact ⟨properties, hproperties⟩

/-- A shape can be read when every property of every shape that this comes to has a sort key. -/
theorem readShape_isOk_iff (g : Graph) (node : Term) :
    (∃ v, (g.readShape node).result = .ok v) ↔
      ∀ s, g.Reads node s → ∀ p ∈ g.objects s (.iri (sh "property")), ∃ x, g.orderOf p = .ok x := by
  constructor
  · intro hroot s hs
    obtain ⟨above, s', hs', hkey⟩ := hs.exists_enters
    rw [← g.objects_congr hkey]
    exact (g.orderedProperties_isOk_iff s').1
      (orderedProperties_of_readBelow (hs'.exists_readBelow_eq_ok hroot))
  · intro horder
    exact exists_readBelow_eq_ok horder _ .root

/-- A reading fails exactly where one of the sort keys fails. -/
theorem readShape_eq_error_iff (g : Graph) (node : Term) (e : OrderError) :
    (g.readShape node).result = .error e ↔
      ∃ s, g.Reads node s ∧ ∃ p ∈ g.objects s (.iri (sh "property")), g.orderOf p = .error e := by
  have hok := g.readShape_isOk_iff node
  constructor
  · intro h
    by_contra hnone
    obtain ⟨v, hv⟩ := hok.2 fun s hs p hp => by
      cases horder : g.orderOf p with
      | ok x => exact ⟨x, rfl⟩
      | error e' =>
        -- there is one error only
        cases e
        cases e'
        exact absurd ⟨s, hs, p, hp, horder⟩ hnone
    rw [h] at hv
    cases hv
  · rintro ⟨s, hs, p, hp, horder⟩
    cases hresult : (g.readShape node).result with
    | ok v =>
      obtain ⟨x, hx⟩ := hok.1 ⟨v, hresult⟩ s hs p hp
      rw [horder] at hx
      cases hx
    | error e' =>
      cases e
      cases e'
      rfl

end Graph

end ShaclQuery
