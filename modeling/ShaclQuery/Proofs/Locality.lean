import ShaclQuery.Proofs.Agreement
import ShaclQuery.Proofs.GraphTable
import ShaclQuery.Proofs.Sorting

/-! # What reading a shape depends on

Reading a shape looks up six predicates, and only at nodes that properties and nested shapes lead to
from the shape. Everything else in the graph is out of its sight: triples with another predicate, and
triples of nodes that are not reached. Such triples may be inserted anywhere among the others, and the
view, the error and the reports stay what they are.
-/

namespace ShaclQuery

open Vocabulary

/-! ## 1. Inserting into a graph -/

/-- The second list is the first with elements inserted at any places, each of which has the
property `P`. -/
inductive Inserted {α : Type} (P : α → Prop) : List α → List α → Prop
  | nil : Inserted P [] []
  | keep (a : α) {l l' : List α} : Inserted P l l' → Inserted P (a :: l) (a :: l')
  | insert {a : α} {l l' : List α} : P a → Inserted P l l' → Inserted P l (a :: l')

theorem Inserted.filterMap_eq {α β : Type} {P : α → Prop} {l l' : List α} (h : Inserted P l l')
    {f : α → Option β} (hf : ∀ a, P a → f a = none) : l'.filterMap f = l.filterMap f := by
  induction h with
  | nil => rfl
  | keep a _ ih => rw [List.filterMap_cons, List.filterMap_cons, ih]
  | insert ha _ ih => rw [List.filterMap_cons_none (hf _ ha), ih]

theorem distinctBy_of_pairwise {α β : Type} [DecidableEq β] {key : α → β} {l : List α}
    (h : l.Pairwise fun a b => key a ≠ key b) : distinctBy key l = l := by
  induction l with
  | nil => rfl
  | cons a rest ih =>
    obtain ⟨hfirst, hrest⟩ := List.pairwise_cons.1 h
    rw [distinctBy, ih hrest, List.filter_eq_self.2]
    intro b hb
    simpa using (hfirst b hb).symm

/-- Choosing elements by their keys and dropping repetitions may be done in either order. -/
theorem filterMap_distinctBy {α β γ δ : Type} [DecidableEq β] [DecidableEq δ] {key : α → β}
    {key' : γ → δ} {f : α → Option γ}
    (hf : ∀ a b x, f a = some x → (key b = key a ↔ ∃ y, f b = some y ∧ key' y = key' x))
    (l : List α) :
    (distinctBy key l).filterMap f = distinctBy key' (l.filterMap f) := by
  induction l with
  | nil => rfl
  | cons a rest ih =>
    rw [distinctBy]
    cases hfa : f a with
    | none =>
      -- what has the key of an element that is not chosen is not chosen either
      have hkept : ((distinctBy key rest).filter fun b => key b ≠ key a).filterMap f =
          (distinctBy key rest).filterMap f := by
        rw [List.filterMap_filter]
        apply List.filterMap_congr
        intro b _
        cases hfb : f b with
        | none => simp
        | some y =>
          have hne : key b ≠ key a := by
            intro heq
            obtain ⟨x, hx, _⟩ := (hf b a y hfb).1 heq.symm
            rw [hfa] at hx
            cases hx
          simp [hne]
      rw [List.filterMap_cons_none hfa, List.filterMap_cons_none hfa, hkept, ih]
    | some x =>
      rw [List.filterMap_cons_some hfa, List.filterMap_cons_some hfa, distinctBy, ← ih,
        List.filter_filterMap, List.filterMap_filter]
      congr 1
      apply List.filterMap_congr
      intro b _
      cases hfb : f b with
      | none => simp
      | some y =>
        have hkey : key b = key a ↔ key' y = key' x := by
          rw [hf a b x hfa, hfb]
          simp
        simp [hkey, Option.filter_some]

namespace Graph

/-- Inserting one after the other keeps the first of each triple. -/
theorem triples_insertAll (ts : List Triple) {g : Graph}
    (h : distinctBy Triple.key g.triples = g.triples) :
    (g.insertAll ts).triples = distinctBy Triple.key (g.triples ++ ts) := by
  induction ts generalizing g with
  | nil =>
    rw [List.append_nil, h]
    rfl
  | cons t rest ih =>
    show ((g.insert t).insertAll rest).triples = _
    unfold insert
    by_cases hcontains : g.contains t = true
    · -- a triple that is there already changes nothing
      have hmem : t.key ∈ g.triples.map Triple.key := by
        simpa [contains] using hcontains
      rw [if_pos hcontains, ih h, ← List.singleton_append, distinctBy_append_absorb]
      simpa using hmem
    · -- a new one goes behind the others, where nothing before it has its key
      have hmem : t.key ∉ g.triples.map Triple.key := by
        simpa [contains] using hcontains
      rw [if_neg hcontains, ih, List.append_assoc]
      · rfl
      · rw [distinctBy_append, h]
        simpa [distinctBy] using hmem

theorem triples_ofList (ts : List Triple) : (ofList ts).triples = distinctBy Triple.key ts :=
  triples_insertAll ts rfl

/-! ## 2. Look-ups -/

def distinctObjects (g : Graph) (s p : Term) : List Term := distinctBy Term.key (g.objects s p)

theorem value?_eq_head?_distinctObjects (g : Graph) (s p : Term) :
    g.value? s p = (g.distinctObjects s p).head? := by
  unfold value? distinctObjects
  cases g.objects s p with
  | nil => rfl
  | cons o rest => rfl

theorem objects_ofList (ts : List Triple) (s p : Term) :
    (ofList ts).objects s p = (⟨ts⟩ : Graph).distinctObjects s p := by
  unfold distinctObjects objects
  rw [triples_ofList]
  apply filterMap_distinctBy
  intro t u o ht
  by_cases hsame : (t.subject.same s && t.predicate.same p) = true
  · rw [if_pos hsame, Option.some.injEq] at ht
    rw [Bool.and_eq_true, Term.same_iff, Term.same_iff] at hsame
    subst ht
    simp [Triple.key, Term.same_iff, hsame.1, hsame.2, and_assoc]
  · rw [if_neg hsame] at ht
    cases ht

/-- The objects that a graph lists are those of the triples from which it was built. -/
theorem distinctObjects_ofList (ts : List Triple) (s p : Term) :
    (ofList ts).distinctObjects s p = (⟨ts⟩ : Graph).distinctObjects s p := by
  rw [distinctObjects, objects_ofList]
  exact distinctBy_of_pairwise (distinctBy_pairwise _ _)

/-! ## 3. Regions -/

def readPredicates : List Term :=
  ["targetClass", "property", "path", "node", "deactivated", "order"].map fun name => .iri (sh name)

/-- A region of nodes that properties and nested shapes do not lead out of, and two graphs that list
the same objects for what is read at its nodes. -/
structure AgreeOn (region : Term → Prop) (g g' : Graph) : Prop where
  property : ∀ s, region s → ∀ o ∈ g.objects s (.iri (sh "property")), region o
  node : ∀ s, region s → ∀ o ∈ g.objects s (.iri (sh "node")), region o
  objects : ∀ s, region s → ∀ p ∈ readPredicates, g'.distinctObjects s p = g.distinctObjects s p

namespace AgreeOn

variable {region : Term → Prop} {g g' : Graph}

theorem value?_eq (h : AgreeOn region g g') {s p : Term} (hs : region s) (hp : p ∈ readPredicates) :
    g'.value? s p = g.value? s p := by
  rw [value?_eq_head?_distinctObjects, value?_eq_head?_distinctObjects, h.objects s hs p hp]

theorem targetsOf_eq (h : AgreeOn region g g') {s : Term} (hs : region s) :
    g'.targetsOf s = g.targetsOf s :=
  h.objects s hs _ (by simp [readPredicates])

theorem pathOf_eq {ε : Type} (h : AgreeOn region g g') {property : Term} (hs : region property) :
    (g'.pathOf property : Logged ε _) = g.pathOf property := by
  unfold pathOf
  rw [h.value?_eq hs (by simp [readPredicates])]

variable [ForeignTypes]

theorem isDeactivated_eq (h : AgreeOn region g g') {property : Term} (hs : region property) :
    g'.isDeactivated property = g.isDeactivated property := by
  unfold isDeactivated
  rw [h.value?_eq hs (by simp [readPredicates])]

theorem orderOf_eq (h : AgreeOn region g g') {property : Term} (hs : region property) :
    g'.orderOf property = g.orderOf property := by
  unfold orderOf
  rw [h.value?_eq hs (by simp [readPredicates])]

/-- The order of the properties depends on what is read at them only. -/
theorem orderedProperties_eq (h : AgreeOn region g g') {s : Term} (hs : region s) :
    g'.orderedProperties s = g.orderedProperties s := by
  have hproperties : distinctBy Term.key (g'.objects s (.iri (sh "property"))) =
      distinctBy Term.key (g.objects s (.iri (sh "property"))) :=
    h.objects s hs _ (by simp [readPredicates])
  have hkeyed : g'.keyedProperties s = g.keyedProperties s := by
    unfold keyedProperties
    rw [hproperties]
    -- the properties belong to the region, so their orders are the same as well
    apply mapM_congr
    intro p hp
    rw [h.orderOf_eq (h.property s hs p (distinctBy_subset _ _ hp))]
  rw [orderedProperties_eq_map, orderedProperties_eq_map, hkeyed]

theorem readProperty_eq (h : AgreeOn region g g') {above : List Term} {property : Term}
    (hs : region property)
    (hbelow : ∀ nested, g.value? property (.iri (sh "node")) = some nested → nested.key ∉ above →
      g'.readBelow (nested.key :: above) nested = g.readBelow (nested.key :: above) nested) :
    g'.readProperty above property = g.readProperty above property := by
  unfold readProperty
  rw [h.pathOf_eq hs, h.isDeactivated_eq hs, h.value?_eq hs (by simp [readPredicates])]
  congr 1
  funext path
  cases hvalue : g.value? property (.iri (sh "node")) with
  | none => rfl
  | some nested =>
    by_cases hmet : nested.key ∈ above
    · simp only [if_pos hmet]
    · simp only [if_neg hmet, hbelow nested hvalue hmet]

/-- Graphs that agree on a region give the same readings at its nodes. -/
theorem readBelow_eq (h : AgreeOn region g g') (above : List Term) {node : Term}
    (hnode : region node) : g'.readBelow above node = g.readBelow above node := by
  -- a nested node is entered only when that leaves fewer objects to meet
  induction hunmet : g.unmet above using Nat.strongRecOn generalizing above node with
  | _ count ih =>
    rw [Graph.readBelow_eq, Graph.readBelow_eq, h.orderedProperties_eq hnode, h.targetsOf_eq hnode]
    cases hproperties : g.orderedProperties node with
    | error e => rfl
    | ok properties =>
      have hcollect : Logged.collect (g'.readProperty above) properties =
          Logged.collect (g.readProperty above) properties := by
        apply Logged.collect_congr
        intro property hproperty
        have hregion : region property :=
          h.property node hnode property (mem_objects_of_orderedProperties hproperties hproperty)
        apply h.readProperty_eq hregion
        intro nested hvalue hmet
        have hlt := unmet_lt hvalue hmet
        exact ih _ (by omega) _ (h.node property hregion nested (mem_objects_of_value? hvalue)) rfl
      show (Logged.collect (g'.readProperty above) properties).andThen _ = _
      rw [hcollect]
      rfl

end AgreeOn

/-! ## 4. What a shape reaches -/

inductive Reaches (g : Graph) (node : Term) : Term → Prop
  | root : g.Reaches node node
  | property {s o : Term} : g.Reaches node s → o ∈ g.objects s (.iri (sh "property")) →
    g.Reaches node o
  | nested {s o : Term} : g.Reaches node s → o ∈ g.objects s (.iri (sh "node")) → g.Reaches node o

/-- What is reached belongs to every region that holds the node and is not left. -/
theorem Reaches.mem_region {g : Graph} {node m : Term} (h : g.Reaches node m) (region : Term → Prop)
    (hnode : region node)
    (hclosed : ∀ s, region s → ∀ o ∈ g.objects s (.iri (sh "property")) ++
      g.objects s (.iri (sh "node")), region o) : region m := by
  induction h with
  | root => exact hnode
  | property _ ho ih => exact hclosed _ ih _ (List.mem_append_left _ ho)
  | nested _ ho ih => exact hclosed _ ih _ (List.mem_append_right _ ho)

/-- A triple that reading a node does not see: its subject is not reached, or its predicate is not
looked up. -/
def Unread (g : Graph) (node : Term) (t : Triple) : Prop :=
  (∀ m, g.Reaches node m → t.subject.same m = false) ∨ t.predicate ∉ readPredicates

/-- A lookup while a shape is read passes over the triples that are not read. -/
theorem Unread.not_selected {g : Graph} {node : Term} {t : Triple} (h : g.Unread node t) {s p : Term}
    (hs : g.Reaches node s) (hp : p ∈ readPredicates) :
    (t.subject.same s && t.predicate.same p) = false := by
  rw [Bool.and_eq_false_iff]
  rcases h with hsubject | hpredicate
  · exact Or.inl (hsubject s hs)
  · right
    rw [Bool.eq_false_iff]
    intro hsame
    -- a predicate that is looked up is an IRI, which is the same as itself only
    obtain ⟨name, _, rfl⟩ := List.mem_map.1 hp
    rw [Term.same_iff, Term.key_iri] at hsame
    apply hpredicate
    cases hterm : t.predicate with
    | iri text =>
      rw [hterm] at hsame
      rwa [← hsame, Term.key_iri] at hp
    | blank label => rw [hterm] at hsame; cases hsame
    | var name => rw [hterm] at hsame; cases hsame
    | literal l => rw [hterm] at hsame; cases hsame

theorem agreeOn_of_inserted {g : Graph} {node : Term} {ts : List Triple}
    (h : Inserted (g.Unread node) g.triples ts) : AgreeOn (g.Reaches node) g (ofList ts) where
  property _ hs _ ho := hs.property ho
  node _ hs _ ho := hs.nested ho
  objects s hs p hp := by
    rw [distinctObjects_ofList]
    unfold distinctObjects objects
    rw [h.filterMap_eq]
    intro t ht
    rw [ht.not_selected hs hp]
    rfl

end Graph

/-- When triples that reading a node does not see are inserted anywhere among those of a graph, the
node is read as before: the same view or the same error, with the same reports. -/
theorem readShape_eq_of_inserted [ForeignTypes] (g : Graph) (node : Term) (ts : List Triple)
    (h : Inserted (g.Unread node) g.triples ts) :
    (Graph.ofList ts).readShape node = g.readShape node :=
  (Graph.agreeOn_of_inserted h).readBelow_eq _ .root

def staffNodes : List Term :=
  [exampleTerm "PersonShape", exampleTerm "GroupShape", .blank "knows", .blank "memberOf",
    .blank "leader"]

/-- The triples of the staff shapes among others: labels and types of nodes that are read, one of them
repeated, and shapes of visitors that refer to persons and order one of their properties. -/
def staffTriplesAmongOthers : List Triple :=
  let shacl (name : String) : Term := .iri (sh name)
  let person := exampleTerm "PersonShape"
  let group := exampleTerm "GroupShape"
  let visitor := exampleTerm "VisitorShape"
  [⟨person, rdfType, shacl "NodeShape"⟩, ⟨visitor, shacl "property", .blank "knows"⟩,
    ⟨person, shacl "targetClass", exampleTerm "Person"⟩,
    ⟨person, shacl "property", .blank "knows"⟩, ⟨person, shacl "property", .blank "memberOf"⟩,
    ⟨visitor, shacl "property", .blank "host"⟩, ⟨.blank "host", shacl "node", person⟩,
    ⟨.blank "host", shacl "order", .literal ⟨"0", none, some (xsd "integer")⟩⟩,
    ⟨.blank "knows", shacl "path", exampleTerm "knows"⟩, ⟨.blank "knows", shacl "node", person⟩,
    ⟨.blank "knows", shacl "name", .literal ⟨"acquaintance", some "en", none⟩⟩,
    ⟨.blank "knows", shacl "deactivated", .literal ⟨"true", none, some (xsd "boolean")⟩⟩,
    ⟨.blank "memberOf", shacl "path", exampleTerm "memberOf"⟩,
    ⟨.blank "memberOf", shacl "node", group⟩, ⟨group, shacl "property", .blank "leader"⟩,
    ⟨person, rdfType, shacl "NodeShape"⟩,
    ⟨.blank "leader", shacl "path", exampleTerm "leader"⟩,
    ⟨.blank "leader", shacl "node", person⟩]

open scoped Standard

theorem readShape_eq_staffGraph :
    Inserted (staffGraph.Unread (exampleTerm "PersonShape")) staffGraph.triples
      staffTriplesAmongOthers ∧
    (Graph.ofList staffTriplesAmongOthers).readShape (exampleTerm "PersonShape") =
      staffGraph.readShape (exampleTerm "PersonShape") := by
  have hclosed : ∀ s ∈ staffNodes, ∀ o ∈ staffGraph.objects s (.iri (sh "property")) ++
      staffGraph.objects s (.iri (sh "node")), o ∈ staffNodes := by decide +kernel
  have hsubject (t : Triple) (ht : ∀ m ∈ staffNodes, t.subject.same m = false) :
      staffGraph.Unread (exampleTerm "PersonShape") t := by
    refine Or.inl fun m hm => ht m ?_
    exact hm.mem_region (· ∈ staffNodes) List.mem_cons_self hclosed
  have hpredicate (t : Triple) (ht : t.predicate ∉ Graph.readPredicates) :
      staffGraph.Unread (exampleTerm "PersonShape") t := Or.inr ht
  have hinserted : Inserted (staffGraph.Unread (exampleTerm "PersonShape")) staffGraph.triples
      staffTriplesAmongOthers := by
    -- the triples from the first to the last, each kept or inserted
    apply Inserted.insert (hpredicate _ (by decide +kernel))
    apply Inserted.insert (hsubject _ (by decide +kernel))
    iterate 3 apply Inserted.keep
    iterate 3 apply Inserted.insert (hsubject _ (by decide +kernel))
    iterate 2 apply Inserted.keep
    apply Inserted.insert (hpredicate _ (by decide +kernel))
    iterate 4 apply Inserted.keep
    apply Inserted.insert (hpredicate _ (by decide +kernel))
    iterate 2 apply Inserted.keep
    exact Inserted.nil
  exact ⟨hinserted, readShape_eq_of_inserted staffGraph (exampleTerm "PersonShape")
    staffTriplesAmongOthers hinserted⟩

end ShaclQuery
