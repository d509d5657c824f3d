import ShaclQuery.Proofs.GraphTable
import ShaclQuery.Proofs.Sorting

/-! # Chains of a view

A view is read by following nested shapes, and nodes may lead back to each other in circles. Reading
ends because a node is entered only when it is not on the way to itself: at most as many readings
stand inside each other as there are nodes that shapes can be read from, and one more for the node
that is not entered again. Along every chain of shapes, from the outermost to one of those nested in
it, identifiers are pairwise different up to the last. The last repeats one exactly where the reader
reports a circle and leaves a stub, and everywhere else it shows all that the graph has for its node.
-/

namespace ShaclQuery

open Vocabulary

/-! ## 1. Reading within a depth -/

/-- What is read at a node that is on the way to itself. -/
def cutReading (node : Term) : Logged OrderError ShapeView :=
  (Logged.note (.cyclicNode node)).andThen fun _ => .ok (.stub node)

namespace Graph

def shapeNodes (g : Graph) (node : Term) : List Term :=
  distinctBy Term.key (node :: g.objectsOf (.iri (sh "node")))

theorem nested_mem_shapeNodes {g : Graph} (node : Term) {property nested : Term}
    (h : g.value? property (.iri (sh "node")) = some nested) :
    ∃ m ∈ g.shapeNodes node, m.key = nested.key := by
  obtain ⟨t, ht, _, hpredicate, hobject⟩ := mem_objects.1 (mem_objects_of_value? h)
  apply exists_mem_distinctBy
  apply List.mem_cons_of_mem
  exact List.mem_filterMap.2 ⟨t, ht, by rw [if_pos hpredicate, hobject]⟩

def unenteredNodes (g : Graph) (node : Term) (above : List Term) : Nat :=
  (g.shapeNodes node).countP fun m => !above.contains m.key

theorem unenteredNodes_lt {g : Graph} {root node : Term} {above : List Term}
    (hnode : ∃ m ∈ g.shapeNodes root, m.key = node.key) (hnew : node.key ∉ above) :
    g.unenteredNodes root (node.key :: above) < g.unenteredNodes root above := by
  obtain ⟨m, hm, hkey⟩ := hnode
  rw [← hkey] at hnew ⊢
  exact countP_unmet_lt Term.key hm hnew

variable [ForeignTypes]

def readPropertyBy (g : Graph) (enter : Term → Option (Logged OrderError ShapeView))
    (property : Term) : Option (Logged OrderError PropertyView) :=
  match g.value? property (.iri (sh "node")) with
  | none => some ((g.pathOf property).andThen fun path =>
      .ok ⟨path, g.isDeactivated property, none⟩)
  | some nested => (enter nested).map fun reading =>
      (g.pathOf property).andThen fun path => reading.andThen fun v =>
        .ok ⟨path, g.isDeactivated property, some v⟩

/-- Reads the shape at a node below nodes with the keys `above`, when at most `depth` readings may
stand inside each other. -/
def readWithin (g : Graph) : Nat → List Term → Term → Option (Logged OrderError ShapeView)
  | 0, _, _ => none
  | depth + 1, above, node =>
    if node.key ∈ above then some (cutReading node)
    else
      match g.orderedProperties node with
      | .error e => some (.fail e)
      | .ok properties =>
        (properties.mapM (g.readPropertyBy (g.readWithin depth (node.key :: above)))).map
          fun readings => (Logged.collect id readings).andThen fun views =>
            .ok ⟨node, g.targetsOf node, .ofList views⟩

theorem readPropertyBy_eq {g : Graph} {enter : Term → Option (Logged OrderError ShapeView)}
    {above : List Term} {property : Term}
    (henter : ∀ nested, g.value? property (.iri (sh "node")) = some nested →
      enter nested = some (if nested.key ∈ above then cutReading nested
        else g.readBelow (nested.key :: above) nested)) :
    g.readPropertyBy enter property = some (g.readProperty above property) := by
  unfold readPropertyBy readProperty
  cases hvalue : g.value? property (.iri (sh "node")) with
  | none => rfl
  | some nested =>
    simp only [henter nested hvalue, Option.map_some]
    by_cases hmet : nested.key ∈ above
    · simp only [if_pos hmet]
      rfl
    · simp only [if_neg hmet]

/-- A depth of one more than the nodes left to enter is enough. -/
theorem readWithin_eq {g : Graph} {root : Term} (depth : Nat) {above : List Term} {node : Term}
    (hnode : ∃ m ∈ g.shapeNodes root, m.key = node.key)
    (hdepth : g.unenteredNodes root above < depth) :
    g.readWithin depth above node = some (if node.key ∈ above then cutReading node
      else g.readBelow (node.key :: above) node) := by
  induction depth generalizing above node with
  | zero => omega
  | succ depth ih =>
    rw [readWithin]
    by_cases hmet : node.key ∈ above
    · rw [if_pos hmet, if_pos hmet]
    · rw [if_neg hmet, if_neg hmet, Graph.readBelow_eq]
      cases g.orderedProperties node with
      | error e => rfl
      | ok properties =>
        -- the node at hand is one of those left, so one reading less is enough below it
        have hlt := unenteredNodes_lt hnode hmet
        have hreadings : properties.mapM
            (g.readPropertyBy (g.readWithin depth (node.key :: above))) =
            some (properties.map (g.readProperty (node.key :: above))) := by
          rw [mapM_congr fun property _ => readPropertyBy_eq fun nested hvalue =>
            ih (nested_mem_shapeNodes root hvalue) (by omega)]
          exact List.mapM_pure
        simp only [hreadings, Option.map_some, Logged.collect_id_map]
        rfl

end Graph

/-! ## 2. Chains of shapes -/

/-- A shape of a view and the shapes around it, the nearest first. -/
structure ViewChain where
  above : List ShapeView
  shape : ShapeView
  deriving DecidableEq, Repr

namespace ViewChain

def keysAbove (c : ViewChain) : List Term := c.above.map (·.id.key)

def repeats (c : ViewChain) : Bool := c.keysAbove.contains c.shape.id.key

end ViewChain

def PropertyViews.chains : PropertyViews → List ShapeView → List ViewChain
  | .nil, _ => []
  | .plain _ _ rest, above => rest.chains above
  | .nested _ _ id targets inner rest, above =>
    ⟨above, ⟨id, targets, inner⟩⟩ ::
      (inner.chains (⟨id, targets, inner⟩ :: above) ++ rest.chains above)

/-- The chains of a view, from the view itself to each shape in it. -/
def ShapeView.chains (v : ShapeView) : List ViewChain := ⟨[], v⟩ :: v.properties.chains [v]

def PropertyView.chains (w : PropertyView) (above : List ShapeView) : List ViewChain :=
  match w.node with
  | none => []
  | some x => ⟨above, x⟩ :: x.properties.chains (x :: above)

theorem PropertyViews.chains_eq_flatMap (views : PropertyViews) (above : List ShapeView) :
    views.chains above = views.toList.flatMap (·.chains above) := by
  induction views with
  | nil => rfl
  | plain path deactivated rest ih => exact ih
  | nested path deactivated id targets inner rest _ ih =>
    rw [chains, toList, List.flatMap_cons, ih]
    rfl

theorem PropertyViews.toList_ofList (views : List PropertyView) : (ofList views).toList = views := by
  induction views with
  | nil => rfl
  | cons w rest ih =>
    obtain ⟨path, deactivated, node⟩ := w
    cases node with
    | none => rw [ofList, toList, ih]
    | some v => rw [ofList, toList, ih]

/-- What passes from a shape to the shapes nested in it passes along all chains. -/
theorem PropertyViews.chains_induction {P : ViewChain → Prop}
    (step : ∀ c, P c → ∀ w ∈ c.shape.properties.toList, ∀ x, w.node = some x →
      P ⟨c.shape :: c.above, x⟩)
    (views : PropertyViews) {above : List ShapeView}
    (h : ∀ w ∈ views.toList, ∀ x, w.node = some x → P ⟨above, x⟩) :
    ∀ c ∈ views.chains above, P c := by
  induction views generalizing above with
  | nil => simp [chains]
  | plain path deactivated rest ih => exact ih fun w hw => h w (List.mem_cons_of_mem _ hw)
  | nested path deactivated id targets inner rest ihInner ihRest =>
    have hshape : P ⟨above, ⟨id, targets, inner⟩⟩ := h _ List.mem_cons_self _ rfl
    intro c hc
    rcases List.mem_cons.1 hc with rfl | hc
    · exact hshape
    · rcases List.mem_append.1 hc with hinner | hrest
      · exact ihInner (step _ hshape) c hinner
      · exact ihRest (fun w hw => h w (List.mem_cons_of_mem _ hw)) c hrest

theorem ShapeView.chains_induction {P : ViewChain → Prop} {v : ShapeView} (root : P ⟨[], v⟩)
    (step : ∀ c, P c → ∀ w ∈ c.shape.properties.toList, ∀ x, w.node = some x →
      P ⟨c.shape :: c.above, x⟩) : ∀ c ∈ v.chains, P c := by
  intro c hc
  rcases List.mem_cons.1 hc with rfl | hc
  · exact root
  · exact PropertyViews.chains_induction step v.properties (step _ root) c hc

def repeatedIds (chains : List ViewChain) : List Term :=
  (chains.filter ViewChain.repeats).map (·.shape.id)

theorem repeatedIds_cons (c : ViewChain) (rest : List ViewChain) :
    repeatedIds (c :: rest) = (if c.repeats then [c.shape.id] else []) ++ repeatedIds rest := by
  unfold repeatedIds
  rw [List.filter_cons]
  split
  · rfl
  · rfl

theorem repeatedIds_flatMap {α : Type} (l : List α) (f : α → List ViewChain) :
    repeatedIds (l.flatMap f) = l.flatMap fun a => repeatedIds (f a) := by
  unfold repeatedIds
  rw [List.filter_flatMap, List.map_flatMap]

/-! ## 3. Reports of circles -/

theorem flatMap_eq_of_forall₂ {α β γ : Type} {f : α → List γ} {f' : β → List γ} {l : List α}
    {m : List β} (h : List.Forall₂ (fun a b => f a = f' b) l m) : l.flatMap f = m.flatMap f' := by
  induction h with
  | nil => rfl
  | cons hfirst _ ih => rw [List.flatMap_cons, List.flatMap_cons, hfirst, ih]

def Notice.cutNode? : Notice → Option Term
  | .cyclicNode node => some node
  | _ => none

namespace Logged

variable {ε α β : Type}

def cuts (x : Logged ε α) : List Term := x.notices.filterMap Notice.cutNode?

theorem cuts_andThen {x : Logged ε α} {a : α} (h : x.result = .ok a) (f : α → Logged ε β) :
    (x.andThen f).cuts = x.cuts ++ (f a).cuts := by
  unfold cuts andThen
  rw [h]
  exact List.filterMap_append

/-- Steps that all succeed report one after the other. -/
theorem cuts_collect {f : α → Logged ε β} {l : List α} {bs : List β}
    (h : (collect f l).result = .ok bs) : (collect f l).cuts = l.flatMap fun a => (f a).cuts := by
  induction l generalizing bs with
  | nil => rfl
  | cons a rest ih =>
    obtain ⟨b, hb, h⟩ := result_andThen_eq_ok.1 h
    obtain ⟨more, hmore, _⟩ := result_andThen_eq_ok.1 h
    rw [collect, cuts_andThen hb, cuts_andThen hmore, ih hmore, List.flatMap_cons]
    show (f a).cuts ++ (_ ++ []) = _
    rw [List.append_nil]

end Logged

theorem Graph.cuts_pathOf {ε : Type} (g : Graph) (property : Term) :
    (g.pathOf property : Logged ε _).cuts = [] := by
  unfold pathOf
  cases g.value? property (.iri (sh "path")) with
  | none => rfl
  | some p =>
    show (if p.isIri = true then _ else _ : Logged ε _).cuts = []
    split
    · rfl
    · rfl

/-! ## 4. What is read -/

namespace Graph

variable [ForeignTypes]

/-- The view of a property below nodes with the keys `above`, and the circles reported for it. -/
inductive PropertyReading (g : Graph) (above : List Term) (property : Term) :
    PropertyView → List Term → Prop
  | plain (hnone : g.value? property (.iri (sh "node")) = none) :
    PropertyReading g above property ⟨g.iriPath? property, g.isDeactivated property, none⟩ []
  | cut {nested : Term} (hnested : g.value? property (.iri (sh "node")) = some nested)
      (hmet : nested.key ∈ above) :
    PropertyReading g above property
      ⟨g.iriPath? property, g.isDeactivated property, some (.stub nested)⟩ [nested]
  | entered {nested : Term} {x : ShapeView}
      (hnested : g.value? property (.iri (sh "node")) = some nested) (hnew : nested.key ∉ above)
      (hread : (g.readBelow (nested.key :: above) nested).result = .ok x) :
    PropertyReading g above property ⟨g.iriPath? property, g.isDeactivated property, some x⟩
      (g.readBelow (nested.key :: above) nested).cuts

variable {g : Graph} {above : List Term}

/-- The ways in which a property can be read, by whether it leads anywhere and whether it comes back. -/
theorem propertyReading_of_readProperty {property : Term} {w : PropertyView}
    (h : (g.readProperty above property).result = .ok w) :
    g.PropertyReading above property w (g.readProperty above property).cuts := by
  obtain ⟨path, hpath, hafter⟩ := Logged.result_andThen_eq_ok.1 h
  unfold readProperty
  -- what is said of a path is never that it is a circle
  rw [Logged.cuts_andThen hpath, cuts_pathOf, List.nil_append]
  rw [pathOf_result] at hpath
  cases hpath
  cases hvalue : g.value? property (.iri (sh "node")) with
  | none =>
    rw [hvalue] at hafter
    cases hafter
    exact .plain hvalue
  | some nested =>
    simp only [hvalue] at hafter
    by_cases hmet : nested.key ∈ above
    · rw [if_pos hmet] at hafter
      cases hafter
      simp only [if_pos hmet]
      exact .cut hvalue hmet
    · rw [if_neg hmet] at hafter
      obtain ⟨x, hread, hok⟩ := Logged.result_andThen_eq_ok.1 hafter
      cases hok
      simp only [if_neg hmet]
      rw [Logged.cuts_andThen hread]
      show g.PropertyReading above property _ (_ ++ [])
      rw [List.append_nil]
      exact .entered hvalue hmet hread

/-- A node that is read is shown with its classes and with a view of each of its properties. The
circles reported are those of the properties. -/
theorem cases_of_readBelow {node : Term} {v : ShapeView}
    (h : (g.readBelow above node).result = .ok v) :
    v.targets = g.targetsOf node ∧ ∃ properties, g.orderedProperties node = .ok properties ∧
      List.Forall₂ (fun property w =>
        g.PropertyReading above property w (g.readProperty above property).cuts)
        properties v.properties.toList ∧
      (g.readBelow above node).cuts =
        properties.flatMap fun property => (g.readProperty above property).cuts := by
  rw [readBelow_eq] at h ⊢
  obtain ⟨properties, hproperties, h⟩ := Logged.result_andThen_eq_ok.1 h
  obtain ⟨views, hviews, h⟩ := Logged.result_andThen_eq_ok.1 h
  cases h
  refine ⟨rfl, properties, hproperties, ?_, ?_⟩
  · rw [PropertyViews.toList_ofList]
    exact (Logged.result_collect_eq_ok hviews).imp fun _ _ hw => propertyReading_of_readProperty hw
  · rw [Logged.cuts_andThen hproperties, Logged.cuts_andThen hviews, Logged.cuts_collect hviews]
    show [] ++ (_ ++ []) = _
    rw [List.nil_append, List.append_nil]

/-! ## 5. Along the chains of a view -/

/-- The shapes around are pairwise different, and the shape itself is a stub if it is one of them
again, and else has been read at its node below them. -/
def ReadAlong (g : Graph) (c : ViewChain) : Prop :=
  c.keysAbove.Nodup ∧
    ((c.shape.id.key ∈ c.keysAbove ∧ c.shape = .stub c.shape.id) ∨
      (c.shape.id.key ∉ c.keysAbove ∧
        (g.readBelow (c.shape.id.key :: c.keysAbove) c.shape.id).result = .ok c.shape))

/-- One step down a chain keeps what is known of it: the nested shape was read below the shapes around
it, or cut off. -/
theorem ReadAlong.step {c : ViewChain} (h : g.ReadAlong c) {w : PropertyView}
    (hw : w ∈ c.shape.properties.toList) {x : ShapeView} (hx : w.node = some x) :
    g.ReadAlong ⟨c.shape :: c.above, x⟩ := by
  rcases h with ⟨hnodup, ⟨_, hstub⟩ | ⟨hnew, hread⟩⟩
  · -- nothing is nested in a stub
    rw [hstub] at hw
    cases hw
  · obtain ⟨_, properties, _, hviews, _⟩ := cases_of_readBelow hread
    obtain ⟨property, _, hproperty⟩ := exists_mem_left_of_mem hviews hw
    refine ⟨List.nodup_cons.2 ⟨hnew, hnodup⟩, ?_⟩
    generalize (g.readProperty _ property).cuts = cuts at hproperty
    cases hproperty with
    | plain _ => cases hx
    | cut _ hmet =>
      cases hx
      exact Or.inl ⟨hmet, rfl⟩
    | entered _ hfresh hbelow =>
      cases hx
      have hid := id_of_readBelow hbelow
      rw [← hid] at hfresh hbelow
      exact Or.inr ⟨hfresh, hbelow⟩

theorem readAlong_of_readShape {node : Term} {v : ShapeView}
    (h : (g.readShape node).result = .ok v) : ∀ c ∈ v.chains, g.ReadAlong c := by
  apply ShapeView.chains_induction
  · have hid : v.id = node := id_of_readBelow h
    refine ⟨List.nodup_nil, Or.inr ⟨List.not_mem_nil, ?_⟩⟩
    show (g.readBelow [v.id.key] v.id).result = .ok v
    rw [hid]
    exact h
  · intro c hc w hw x hx
    exact hc.step hw hx

/-- Below a shape, circles are reported for the chains that end with a repetition. -/
theorem cuts_readBelow {outer : List ShapeView} {v : ShapeView}
    (h : (g.readBelow (v.id.key :: outer.map (·.id.key)) v.id).result = .ok v) :
    (g.readBelow (v.id.key :: outer.map (·.id.key)) v.id).cuts =
      repeatedIds (v.properties.chains (v :: outer)) := by
  -- a nested node is entered only when that leaves fewer objects to meet
  induction hunmet : g.unmet (v.id.key :: outer.map (·.id.key)) using Nat.strongRecOn
    generalizing outer v with
  | _ count ih =>
    obtain ⟨_, properties, _, hviews, hcuts⟩ := cases_of_readBelow h
    rw [hcuts, PropertyViews.chains_eq_flatMap, repeatedIds_flatMap]
    apply flatMap_eq_of_forall₂
    apply hviews.imp
    intro property w hw
    generalize (g.readProperty _ property).cuts = cuts at hw
    cases hw with
    | plain _ => rfl
    | @cut nested _ hmet =>
      have hrepeats : (⟨v :: outer, .stub nested⟩ : ViewChain).repeats = true :=
        List.contains_iff_mem.2 hmet
      show [nested] = repeatedIds [⟨v :: outer, .stub nested⟩]
      rw [repeatedIds_cons, if_pos hrepeats]
      rfl
    | @entered nested x hnested hnew hread =>
      have hlt : g.unmet (nested.key :: (v :: outer).map (·.id.key)) < count := by
        rw [← hunmet]
        exact unmet_lt hnested hnew
      have hid := id_of_readBelow hread
      rw [← hid] at hnew hread hlt ⊢
      have hrepeats : ¬(⟨v :: outer, x⟩ : ViewChain).repeats = true := fun hmem =>
        hnew (List.contains_iff_mem.1 hmem)
      show _ = repeatedIds (⟨v :: outer, x⟩ :: x.properties.chains (x :: v :: outer))
      rw [repeatedIds_cons, if_neg hrepeats]
      exact ih _ hlt hread rfl

end Graph

/-! ## 6. Circles are cut where they close -/

section Readings

variable [ForeignTypes]

/-- A property of a view shows a property of the graph: its path, whether it is switched off, and the
node of the shape nested in it, if it has one. -/
structure Graph.ShowsProperty (g : Graph) (property : Term) (w : PropertyView) : Prop where
  path : w.path = g.iriPath? property
  deactivated : w.deactivated = g.isDeactivated property
  node : w.node.map ShapeView.id = g.value? property (.iri (sh "node"))

theorem Graph.PropertyReading.showsProperty {g : Graph} {above : List Term} {property : Term}
    {w : PropertyView} {cuts : List Term} (h : g.PropertyReading above property w cuts) :
    g.ShowsProperty property w := by
  cases h with
  | plain hnone => exact ⟨rfl, rfl, hnone.symm⟩
  | cut hnested _ => exact ⟨rfl, rfl, hnested.symm⟩
  | entered hnested _ hread =>
    refine ⟨rfl, rfl, ?_⟩
    rw [Option.map_some, id_of_readBelow hread]
    exact hnested.symm

/-- What the shape at the end of a chain shows of the graph. The shapes around it have pairwise
different identifiers. If it repeats one of them it is a stub; otherwise it has all classes that its
node targets, in the order of the graph, and one property for each property of its node. -/
structure Graph.ShowsChain (g : Graph) (c : ViewChain) : Prop where
  distinct : c.keysAbove.Nodup
  stub : c.repeats = true → c.shape = .stub c.shape.id
  targets : c.repeats = false →
    c.shape.targets = distinctBy Term.key (g.objects c.shape.id (.iri (sh "targetClass")))
  properties : c.repeats = false → ∃ properties : List Term,
    properties.Perm (distinctBy Term.key (g.objects c.shape.id (.iri (sh "property")))) ∧
    List.Forall₂ g.ShowsProperty properties c.shape.properties.toList

theorem Graph.ReadAlong.showsChain {g : Graph} {c : ViewChain} (h : g.ReadAlong c) :
    g.ShowsChain c := by
  rcases h with ⟨hnodup, ⟨hmet, hstub⟩ | ⟨hnew, hread⟩⟩
  · have hrepeats : c.repeats = true := List.contains_iff_mem.2 hmet
    refine ⟨hnodup, fun _ => hstub, fun hfalse => ?_, fun hfalse => ?_⟩
    · rw [hrepeats] at hfalse
      cases hfalse
    · rw [hrepeats] at hfalse
      cases hfalse
  · obtain ⟨htargets, properties, hproperties, hviews, _⟩ := cases_of_readBelow hread
    refine ⟨hnodup, fun htrue => absurd (List.contains_iff_mem.1 htrue) hnew, fun _ => htargets,
      fun _ => ⟨properties, perm_of_orderedProperties hproperties, ?_⟩⟩
    exact hviews.imp fun _ _ hw => hw.showsProperty

/-- Every node of every graph is read within a depth of one more than the nodes that shapes can be
read from. When this gives a view, circles are reported for the chains of the view that end with a
repeated identifier, in their order, and for no others; these end with stubs, and all other chains end
with a shape that shows what the graph has for its node. -/
theorem reading_ends_and_cuts_repetitions (g : Graph) (node : Term) :
    g.readWithin ((g.shapeNodes node).length + 1) [] node = some (g.readShape node) ∧
    ∀ v, (g.readShape node).result = .ok v →
      (g.readShape node).cuts = repeatedIds v.chains ∧ ∀ c ∈ v.chains, g.ShowsChain c := by
  constructor
  · have hcount : g.unenteredNodes node [] < (g.shapeNodes node).length + 1 :=
      Nat.lt_succ_of_le List.countP_le_length
    have hnode : ∃ m ∈ g.shapeNodes node, m.key = node.key :=
      exists_mem_distinctBy Term.key _ List.mem_cons_self
    exact Graph.readWithin_eq _ hnode hcount
  · intro v hv
    have hid : v.id = node := Graph.id_of_readBelow hv
    refine ⟨?_, fun c hc => (Graph.readAlong_of_readShape hv c hc).showsChain⟩
    subst hid
    have hbelow : (g.readBelow (v.id.key :: ([] : List ShapeView).map (·.id.key)) v.id).result =
        .ok v := hv
    -- the view itself has nothing around it and repeats nothing
    exact Graph.cuts_readBelow hbelow

end Readings

/-- Books have editors and authors, both persons, and publishers of whose shape nothing is said;
persons have the books they wrote. -/
def libraryGraph : Graph where
  triples :=
    let shacl (name : String) : Term := .iri (sh name)
    let order (n : String) : Term := .literal ⟨n, none, some (xsd "integer")⟩
    let book := exampleTerm "BookShape"
    let person := exampleTerm "PersonShape"
    [⟨book, shacl "targetClass", exampleTerm "Book"⟩,
      ⟨book, shacl "targetClass", exampleTerm "Work"⟩,
      ⟨book, shacl "property", .blank "author"⟩, ⟨book, shacl "property", .blank "publisher"⟩,
      ⟨book, shacl "property", .blank "editor"⟩,
      ⟨.blank "author", shacl "path", exampleTerm "author"⟩,
      ⟨.blank "author", shacl "node", person⟩, ⟨.blank "author", shacl "order", order "2"⟩,
      ⟨.blank "editor", shacl "path", exampleTerm "editor"⟩,
      ⟨.blank "editor", shacl "node", person⟩, ⟨.blank "editor", shacl "order", order "1"⟩,
      ⟨.blank "publisher", shacl "path", exampleTerm "publisher"⟩,
      ⟨.blank "publisher", shacl "node", exampleTerm "PublisherShape"⟩,
      ⟨person, shacl "property", .blank "wrote"⟩,
      ⟨.blank "wrote", shacl "path", exampleTerm "wrote"⟩, ⟨.blank "wrote", shacl "node", book⟩]

def writtenBooks : PropertyViews :=
  .nested (some (exampleTerm "wrote")) false (exampleTerm "BookShape") [] .nil .nil

def libraryView : ShapeView where
  id := exampleTerm "BookShape"
  targets := [exampleTerm "Book", exampleTerm "Work"]
  properties :=
    .nested (some (exampleTerm "editor")) false (exampleTerm "PersonShape") [] writtenBooks
      (.nested (some (exampleTerm "author")) false (exampleTerm "PersonShape") [] writtenBooks
        (.nested (some (exampleTerm "publisher")) false (exampleTerm "PublisherShape") [] .nil .nil))

open scoped Standard

theorem reading_ends_libraryGraph :
    (libraryGraph.readShape (exampleTerm "BookShape")).result = .ok libraryView ∧
    libraryGraph.readWithin ((libraryGraph.shapeNodes (exampleTerm "BookShape")).length + 1) []
      (exampleTerm "BookShape") = some (libraryGraph.readShape (exampleTerm "BookShape")) ∧
    (libraryGraph.readShape (exampleTerm "BookShape")).cuts = repeatedIds libraryView.chains ∧
    ∀ c ∈ libraryView.chains, libraryGraph.ShowsChain c := by
  have hview : (libraryGraph.readShape (exampleTerm "BookShape")).result = .ok libraryView := by
    decide +kernel
  have hreading := reading_ends_and_cuts_repetitions libraryGraph (exampleTerm "BookShape")
  exact ⟨hview, hreading.1, hreading.2 libraryView hview⟩

-- persons are read twice, since neither editor nor author is nested in the other, and the publisher is
-- as empty as a stub without being one
example : libraryView.chains.map (·.repeats) = [false, false, true, false, true, false] := by
  decide +kernel

end ShaclQuery
