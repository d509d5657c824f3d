import ShaclQuery.Proofs.LivePaths
import ShaclQuery.Proofs.Sorting
import ShaclQuery.Shape.Reading
import ShaclQuery.Term.Moment

/-! # The shape table of a graph

A graph can be read in two ways. The reader makes a finite view of a node and puts a stub wherever a
node is met again on the way to itself. The table of the graph has one shape for every node, and
nested shapes are referred to by position, in circles if the graph has circles. This file shows that
queries compiled from the view and from the table are the same and make the same reports: both cut a
nested shape off at the same places, since the keys on the way through the table are those of the
nodes on the way through the graph.
-/

namespace ShaclQuery

open Vocabulary

/-! ## 1. Steps that succeed -/

namespace Logged

variable {ε α β : Type}

theorem result_andThen_eq_ok {x : Logged ε α} {f : α → Logged ε β} {b : β} :
    (x.andThen f).result = .ok b ↔ ∃ a, x.result = .ok a ∧ (f a).result = .ok b := by
  unfold andThen
  cases x.result with
  | error e => simp
  | ok a => simp

theorem result_andThen_eq_bind (x : Logged ε α) (f : α → Logged ε β) :
    (x.andThen f).result = x.result >>= fun a => (f a).result := by
  unfold andThen
  cases x.result with
  | error e => rfl
  | ok a => rfl

theorem result_collect (f : α → Logged ε β) (l : List α) :
    (collect f l).result = l.mapM fun a => (f a).result := by
  induction l with
  | nil => rfl
  | cons a rest ih =>
    rw [collect, List.mapM_cons, ← ih]
    unfold andThen
    cases (f a).result with
    | error e => rfl
    | ok b =>
      cases (collect f rest).result with
      | error e => rfl
      | ok more => rfl

theorem result_collect_eq_ok {f : α → Logged ε β} {l : List α} {bs : List β}
    (h : (collect f l).result = .ok bs) : List.Forall₂ (fun a b => (f a).result = .ok b) l bs := by
  rw [result_collect] at h
  exact mapM_eq_ok_iff.1 h

theorem collect_congr {f f' : α → Logged ε β} {l : List α} (h : ∀ a ∈ l, f a = f' a) :
    collect f l = collect f' l := by
  induction l with
  | nil => rfl
  | cons a rest ih =>
    rw [collect, collect, h a List.mem_cons_self, ih fun b hb => h b (List.mem_cons_of_mem a hb)]

theorem collect_id_map (f : α → Logged ε β) (l : List α) : collect id (l.map f) = collect f l := by
  induction l with
  | nil => rfl
  | cons a rest ih => rw [List.map_cons, collect, collect, ih]; rfl

end Logged

theorem mapM_congr {m : Type → Type} [Monad m] [LawfulMonad m] {α β : Type} {f f' : α → m β}
    {l : List α} (h : ∀ a ∈ l, f a = f' a) : l.mapM f = l.mapM f' := by
  induction l with
  | nil => rfl
  | cons a rest ih =>
    rw [List.mapM_cons, List.mapM_cons, h a List.mem_cons_self,
      ih fun b hb => h b (List.mem_cons_of_mem a hb)]

/-! ## 2. Look-ups by the key of a node -/

namespace Graph

theorem objects_congr (g : Graph) {s s' : Term} (h : s.key = s'.key) (p : Term) :
    g.objects s p = g.objects s' p := by
  unfold objects Term.same
  rw [h]

theorem targetsOf_congr (g : Graph) {s s' : Term} (h : s.key = s'.key) :
    g.targetsOf s = g.targetsOf s' := by
  rw [targetsOf, targetsOf, g.objects_congr h]

def nodesWith (g : Graph) (node : Term) : List Term :=
  distinctBy Term.key (node :: g.triples.flatMap fun t => [t.subject, t.object])

def position (nodes : List Term) (node : Term) : Nat := nodes.findIdx (·.same node)

theorem exists_getElem?_position {nodes : List Term} {node : Term}
    (h : ∃ m ∈ nodes, m.key = node.key) :
    ∃ m, nodes[position nodes node]? = some m ∧ m.key = node.key := by
  obtain ⟨m, hm, hkey⟩ := h
  have hlt : position nodes node < nodes.length :=
    List.findIdx_lt_length_of_exists ⟨m, hm, Term.same_iff.2 hkey⟩
  have hfound : (nodes[position nodes node]).same node = true :=
    List.findIdx_getElem (p := fun m : Term => m.same node) (w := hlt)
  exact ⟨_, List.getElem?_eq_getElem hlt, Term.same_iff.1 hfound⟩

theorem node_mem_nodesWith (g : Graph) (node : Term) :
    ∃ m ∈ g.nodesWith node, m.key = node.key :=
  exists_mem_distinctBy Term.key _ List.mem_cons_self

theorem object_mem_nodesWith {g : Graph} (node : Term) {s p o : Term}
    (h : g.value? s p = some o) : ∃ m ∈ g.nodesWith node, m.key = o.key := by
  obtain ⟨t, ht, _, _, rfl⟩ := mem_objects.1 (mem_objects_of_value? h)
  apply exists_mem_distinctBy
  exact List.mem_cons_of_mem _ (List.mem_flatMap.2 ⟨t, ht, by simp⟩)

/-! ## 3. The table -/

def iriPath? (g : Graph) (property : Term) : Option Term :=
  (g.value? property (.iri (sh "path"))).filter Term.isIri

theorem pathOf_result {ε : Type} (g : Graph) (property : Term) :
    (g.pathOf property : Logged ε _).result = .ok (g.iriPath? property) := by
  unfold pathOf iriPath?
  cases g.value? property (.iri (sh "path")) with
  | none => rfl
  | some p =>
    by_cases hiri : p.isIri = true
    · rw [Option.filter_some, if_pos hiri]
      show (if p.isIri = true then _ else _ : Logged ε _).result = _
      rw [if_pos hiri]
      rfl
    · rw [Option.filter_some, if_neg hiri]
      show (if p.isIri = true then _ else _ : Logged ε _).result = _
      rw [if_neg hiri]
      rfl

variable [ForeignTypes]

theorem orderedProperties_congr (g : Graph) {s s' : Term} (h : s.key = s'.key) :
    g.orderedProperties s = g.orderedProperties s' := by
  rw [orderedProperties, orderedProperties, g.objects_congr h]

def propertyShape (g : Graph) (nodes : List Term) (property : Term) : PropertyShape :=
  ⟨g.iriPath? property, g.isDeactivated property,
    (g.value? property (.iri (sh "node"))).map (position nodes)⟩

/-- The shape at a node. Properties that cannot be put in order are left out; no view can be read
through such a node. -/
def nodeShape (g : Graph) (nodes : List Term) (node : Term) : NodeShape :=
  ⟨some node, g.targetsOf node,
    ((g.orderedProperties node).toOption.getD []).map (g.propertyShape nodes)⟩

def shapeTable (g : Graph) (nodes : List Term) : ShapeTable := nodes.map (g.nodeShape nodes)

theorem getElem?_shapeTable {g : Graph} {nodes : List Term} {i : Nat} {m : Term}
    (h : nodes[i]? = some m) : (g.shapeTable nodes)[i]? = some (g.nodeShape nodes m) := by
  rw [shapeTable, List.getElem?_map, h]
  rfl

theorem key_shapeTable {g : Graph} {nodes : List Term} {i : Nat} {m : Term}
    (h : nodes[i]? = some m) : (g.shapeTable nodes).key i = .named m.key := by
  unfold ShapeTable.key
  rw [getElem?_shapeTable h]
  rfl

/-! ## 4. What the reader gives -/

def readProperty (g : Graph) (above : List Term) (property : Term) :
    Logged OrderError PropertyView :=
  (g.pathOf property).andThen fun path =>
    match g.value? property (.iri (sh "node")) with
    | none => .ok ⟨path, g.isDeactivated property, none⟩
    | some nested =>
      if nested.key ∈ above then
        (Logged.note (.cyclicNode nested)).andThen fun _ =>
          .ok ⟨path, g.isDeactivated property, some (.stub nested)⟩
      else
        (g.readBelow (nested.key :: above) nested).andThen fun v =>
          .ok ⟨path, g.isDeactivated property, some v⟩

theorem readBelow_eq (g : Graph) (above : List Term) (node : Term) :
    g.readBelow above node =
      (Logged.ofExcept (g.orderedProperties node)).andThen fun properties =>
        (Logged.collect (g.readProperty above) properties).andThen fun views =>
          .ok ⟨node, g.targetsOf node, .ofList views⟩ := by
  rw [readBelow]
  congr 1
  funext properties
  congr 2
  funext property
  unfold readProperty
  congr 1
  funext path
  split <;> simp_all

theorem id_of_readBelow {g : Graph} {above : List Term} {node : Term} {v : ShapeView}
    (h : (g.readBelow above node).result = .ok v) : v.id = node := by
  rw [readBelow_eq] at h
  obtain ⟨properties, _, h⟩ := Logged.result_andThen_eq_ok.1 h
  obtain ⟨views, _, h⟩ := Logged.result_andThen_eq_ok.1 h
  cases h
  rfl

end Graph

def PropertyView.descent (w : PropertyView) (above : List Term) : Descent :=
  match w.node with
  | none => .none
  | some v =>
    if above.contains v.id.key then .cyclic (some v.id)
    else .shape ⟨v.targets, v.properties.branches (v.id.key :: above)⟩

theorem PropertyView.descent_some (path : Option Term) (deactivated : Bool) (v : ShapeView)
    (above : List Term) :
    (⟨path, deactivated, some v⟩ : PropertyView).descent above =
      if above.contains v.id.key then .cyclic (some v.id)
      else .shape ⟨v.targets, v.properties.branches (v.id.key :: above)⟩ := rfl

/-- The branches of a view are those of its active properties, one by one. -/
theorem PropertyViews.branches_ofList (views : List PropertyView) (above : List Term) :
    (ofList views).branches above =
      .ofList ((views.filter (!·.deactivated)).map fun w => (w.path, w.descent above)) := by
  induction views with
  | nil => rfl
  | cons w rest ih =>
    obtain ⟨path, deactivated, node⟩ := w
    cases deactivated with
    | true =>
      -- a property that is switched off is in neither list
      cases node with
      | none => exact ih
      | some v => exact ih
    | false =>
      cases node with
      | none =>
        show Branches.leaf path ((ofList rest).branches above) = _
        rw [ih]
        rfl
      | some v =>
        show (if above.contains v.id.key then
          Branches.cyclic path (some v.id) ((ofList rest).branches above)
          else .nested path v.targets (v.properties.branches (v.id.key :: above))
            ((ofList rest).branches above)) = _
        rw [ih, List.filter_cons_of_pos rfl, List.map_cons, PropertyView.descent_some]
        by_cases habove : above.contains v.id.key = true
        · rw [if_pos habove, if_pos habove]
          rfl
        · rw [if_neg habove, if_neg habove]
          rfl

/-! ## 5. Reports up to sameness of terms

The two ways of reading name a cut-off shape by terms that are the same but may differ in the letter
case of a language tag. What is reported does not show the difference. -/

/-- The notice with the key of a cut-off shape in its place. -/
def Notice.keyed : Notice → Notice
  | .truncated shape path => .truncated (shape.map Term.key) path
  | n => n

theorem Notice.line_keyed (n : Notice) : n.keyed.line = n.line := by
  cases n with
  | truncated shape path =>
    -- a line shows the text of a term, which the key keeps
    cases shape with
    | none => rfl
    | some t => cases t <;> rfl
  | unsupportedPath path property => exact congrArg line rfl
  | cyclicNode node => exact congrArg line rfl
  | compiled shape form => exact congrArg line rfl
  | illFormed => exact congrArg line rfl

namespace Logged

variable {ε α β : Type}

def mapNotices (f : Notice → Notice) (x : Logged ε α) : Logged ε α := ⟨x.notices.map f, x.result⟩

theorem mapNotices_andThen (f : Notice → Notice) (x : Logged ε α) (k : α → Logged ε β) :
    (x.andThen k).mapNotices f = (x.mapNotices f).andThen fun a => (k a).mapNotices f := by
  unfold andThen mapNotices
  cases x.result with
  | error e => rfl
  | ok a => simp only [List.map_append]

/-- What is seen of a computation: the lines of its log, and its result or error. -/
def report (x : Logged ε α) : List String × Except ε α := (x.notices.map Notice.line, x.result)

theorem report_keyed (x : Logged ε α) : (x.mapNotices Notice.keyed).report = x.report := by
  unfold report mapNotices
  rw [List.map_map, show Notice.line ∘ Notice.keyed = Notice.line from funext Notice.line_keyed]

end Logged

def Branches.keyed : Branches → Branches
  | .nil => .nil
  | .leaf path rest => .leaf path rest.keyed
  | .cyclic path shape rest => .cyclic path (shape.map Term.key) rest.keyed
  | .nested path targets inner rest => .nested path targets inner.keyed rest.keyed

def Unfolding.keyed (u : Unfolding) : Unfolding := ⟨u.targets, u.branches.keyed⟩

def Descent.keyed : Descent → Descent
  | .none => .none
  | .cyclic id => .cyclic (id.map Term.key)
  | .shape u => .shape u.keyed

namespace Branches

theorem keyed_ofList (l : List (Option Term × Descent)) :
    (ofList l).keyed = ofList (l.map fun x => (x.1, x.2.keyed)) := by
  fun_induction ofList l with
  | case1 => rfl
  | case2 path rest ih => rw [keyed, ih]; rfl
  | case3 path shape rest ih => rw [keyed, ih]; rfl
  | case4 path u rest ih => rw [keyed, ih]; rfl

/-- Identifiers only show in the notices of the pattern. -/
theorem patterns_keyed (b : Branches) (focus : Focus) (objectPrefix : String) (i : Nat) :
    b.keyed.patterns focus objectPrefix i =
      (b.patterns focus objectPrefix i).mapNotices Notice.keyed := by
  induction b generalizing focus objectPrefix i with
  | nil => rfl
  | leaf path rest ih =>
    rw [keyed, patterns, patterns, Logged.mapNotices_andThen, ih]
    rfl
  | cyclic path shape rest ih =>
    rw [keyed, patterns, patterns, Logged.mapNotices_andThen]
    simp only [Logged.mapNotices_andThen, ih]
    rfl
  | nested path targets inner rest ihInner ihRest =>
    rw [keyed, patterns, patterns, Logged.mapNotices_andThen, ihInner]
    simp only [Logged.mapNotices_andThen, ihRest]
    rfl

theorem walk_keyed {ε : Type} (b : Branches) (focus : Focus) (objectPrefix : String) (i : Nat) :
    (b.keyed.walk focus objectPrefix i : Logged ε _) =
      (b.walk focus objectPrefix i).mapNotices Notice.keyed := by
  induction b generalizing focus objectPrefix i with
  | nil => rfl
  | leaf path rest ih =>
    rw [keyed, walk, walk, Logged.mapNotices_andThen, ih]
    rfl
  | cyclic path shape rest ih =>
    rw [keyed, walk, walk, Logged.mapNotices_andThen]
    simp only [Logged.mapNotices_andThen, ih]
    rfl
  | nested path targets inner rest ihInner ihRest =>
    rw [keyed, walk, walk, Logged.mapNotices_andThen, ihInner]
    simp only [Logged.mapNotices_andThen, ihRest]
    rfl

end Branches

namespace Unfolding

variable {ε : Type}

theorem wherePattern_keyed (u : Unfolding) (focus : Focus) (objectPrefix : String) :
    u.keyed.wherePattern focus objectPrefix =
      (u.wherePattern focus objectPrefix).mapNotices Notice.keyed := by
  rw [wherePattern, wherePattern, Logged.mapNotices_andThen, keyed, Branches.patterns_keyed]
  rfl

theorem template_keyed (u : Unfolding) (focus : Focus) (objectPrefix : String) :
    (u.keyed.template focus objectPrefix : Logged ε _) =
      (u.template focus objectPrefix).mapNotices Notice.keyed := by
  rw [template, template, Logged.mapNotices_andThen, keyed, Branches.walk_keyed]
  rfl

theorem compile_keyed (u : Unfolding) (subjectVariable : Option String) (focusNode : Option Term)
    (objectPrefix : String) :
    u.keyed.compile subjectVariable focusNode objectPrefix =
      (u.compile subjectVariable focusNode objectPrefix).mapNotices Notice.keyed := by
  rw [compile, compile, Logged.mapNotices_andThen]
  simp only [Logged.mapNotices_andThen, wherePattern_keyed, template_keyed]
  rfl

end Unfolding

/-! ## 6. View and table agree -/

namespace Graph

variable [ForeignTypes] {g : Graph} {nodes : List Term}

/-- A property of a view and the property of the table have the same path, are switched off alike,
and lead to the same below nodes with the keys `above`. -/
structure Agrees (g : Graph) (nodes above : List Term) (property : Term) (w : PropertyView) :
    Prop where
  path : w.path = g.iriPath? property
  deactivated : w.deactivated = g.isDeactivated property
  descent : (w.descent above).keyed =
    ((g.shapeTable nodes).descent (above.map .named) (g.propertyShape nodes property)).keyed

/-- A property that is read agrees with that of the table, provided the shapes nested below do. -/
theorem agrees_of_readProperty
    (hnodes : ∀ s p o, g.value? s p = some o → ∃ m ∈ nodes, m.key = o.key) {above : List Term}
    {property : Term} {w : PropertyView} (h : (g.readProperty above property).result = .ok w)
    (hbelow : ∀ nested v, g.value? property (.iri (sh "node")) = some nested →
      nested.key ∉ above → (g.readBelow (nested.key :: above) nested).result = .ok v →
      (⟨v.targets, v.properties.branches (nested.key :: above)⟩ : Unfolding).keyed =
        ((g.shapeTable nodes).unfoldBelow (above.map .named) (position nodes nested)).keyed) :
    g.Agrees nodes above property w := by
  obtain ⟨path, hpath, h⟩ := Logged.result_andThen_eq_ok.1 h
  rw [pathOf_result] at hpath
  cases hpath
  cases hvalue : g.value? property (.iri (sh "node")) with
  | none =>
    rw [hvalue] at h
    cases h
    refine ⟨rfl, rfl, ?_⟩
    rw [ShapeTable.descent, propertyShape, hvalue]
    rfl
  | some nested =>
    simp only [hvalue] at h
    -- the table has a shape for the nested node, of the same key
    obtain ⟨m, hm, hkey⟩ := exists_getElem?_position (hnodes _ _ _ hvalue)
    have htable : (above.map ShapeKey.named).contains
        ((g.shapeTable nodes).key (position nodes nested)) = above.contains nested.key := by
      rw [key_shapeTable hm, hkey, Bool.eq_iff_iff]
      simp
    have hdescent : (g.shapeTable nodes).descent (above.map .named) (g.propertyShape nodes property) =
        if above.contains nested.key then .cyclic (some m)
        else .shape ((g.shapeTable nodes).unfoldBelow (above.map .named) (position nodes nested)) := by
      simp only [ShapeTable.descent, propertyShape, hvalue, Option.map_some, Option.getD_some,
        getElem?_shapeTable hm, htable]
      rfl
    by_cases hmet : nested.key ∈ above
    · rw [if_pos hmet] at h
      cases h
      have hcontains : above.contains nested.key = true := List.contains_iff_mem.2 hmet
      refine ⟨rfl, rfl, ?_⟩
      simp only [hdescent, PropertyView.descent_some, ShapeView.stub, hcontains, if_true]
      change Descent.cyclic (some nested.key) = .cyclic (some m.key)
      rw [hkey]
    · rw [if_neg hmet] at h
      obtain ⟨v, hv, h⟩ := Logged.result_andThen_eq_ok.1 h
      cases h
      have hcontains : above.contains nested.key = false := by
        rw [Bool.eq_false_iff]
        exact fun hmem => hmet (List.contains_iff_mem.1 hmem)
      refine ⟨rfl, rfl, ?_⟩
      simp only [hdescent, PropertyView.descent_some, id_of_readBelow hv, hcontains,
        Bool.false_eq_true, if_false]
      exact congrArg Descent.shape (hbelow nested v hvalue hmet hv)

theorem branches_of_forall₂_agrees {above properties : List Term} {views : List PropertyView}
    (hforall : List.Forall₂ (g.Agrees nodes above) properties views) :
    ((views.filter (!·.deactivated)).map fun w => (w.path, (w.descent above).keyed)) =
      (((properties.map (g.propertyShape nodes)).filter (!·.deactivated)).map fun p =>
        (p.path, ((g.shapeTable nodes).descent (above.map .named) p).keyed)) := by
  induction hforall with
  | nil => rfl
  | @cons property w properties views h _ ih =>
    have hsame : (g.propertyShape nodes property).deactivated = w.deactivated := h.deactivated.symm
    rw [List.map_cons, List.filter_cons, List.filter_cons, hsame]
    cases w.deactivated with
    | true => exact ih
    | false =>
      simp only [Bool.not_false, if_true, List.map_cons]
      rw [ih, h.path, h.descent]
      rfl

/-- What is read below a node unfolds as the shape of the node in the table does. -/
theorem keyed_unfoldBelow_of_readBelow
    (hnodes : ∀ s p o, g.value? s p = some o → ∃ m ∈ nodes, m.key = o.key) {outer : List Term}
    {node m : Term} {v : ShapeView} {i : Nat} (hm : nodes[i]? = some m) (hkey : m.key = node.key)
    (hfresh : node.key ∉ outer) (hread : (g.readBelow (node.key :: outer) node).result = .ok v) :
    (⟨v.targets, v.properties.branches (node.key :: outer)⟩ : Unfolding).keyed =
      ((g.shapeTable nodes).unfoldBelow (outer.map .named) i).keyed := by
  -- reading enters a node only when that leaves fewer objects to meet
  induction hunmet : g.unmet (node.key :: outer) using Nat.strongRecOn
    generalizing outer node m v i with
  | _ count ih =>
    rw [readBelow_eq] at hread
    obtain ⟨properties, hproperties, hread⟩ := Logged.result_andThen_eq_ok.1 hread
    obtain ⟨views, hviews, hread⟩ := Logged.result_andThen_eq_ok.1 hread
    cases hread
    have hshape := getElem?_shapeTable (g := g) hm
    obtain ⟨hi, hentry⟩ := List.getElem?_eq_some_iff.1 hshape
    have hposition : (g.shapeTable nodes).key i = .named node.key := by
      rw [key_shapeTable hm, hkey]
    have hnew : (g.shapeTable nodes).key i ∉ outer.map ShapeKey.named := by
      rw [hposition]
      simpa using hfresh
    have hactive : (g.nodeShape nodes m).active =
        (properties.map (g.propertyShape nodes)).filter (!·.deactivated) := by
      rw [NodeShape.active, nodeShape, g.orderedProperties_congr hkey,
        show g.orderedProperties node = .ok properties from hproperties]
      rfl
    -- nested nodes that are entered agree by induction, and the others are cut off in both
    have hforall : List.Forall₂ (g.Agrees nodes (node.key :: outer)) properties views := by
      apply (Logged.result_collect_eq_ok hviews).imp
      intro property w hw
      apply agrees_of_readProperty hnodes hw
      intro nested v' hvalue hmet hv'
      obtain ⟨m', hm', hkey'⟩ := exists_getElem?_position (hnodes _ _ _ hvalue)
      have hlt := unmet_lt hvalue hmet
      exact ih _ (by omega) hm' hkey' hmet hv' rfl
    rw [ShapeTable.unfoldBelow_eq hi hnew, hentry, hposition]
    unfold Unfolding.keyed
    simp only [PropertyViews.branches_ofList, Branches.keyed_ofList, List.map_map, hactive]
    have hbranches := branches_of_forall₂_agrees hforall
    have htargets : g.targetsOf node = (g.nodeShape nodes m).targets :=
      (g.targetsOf_congr hkey).symm
    exact congrArg₂ Unfolding.mk htargets (congrArg Branches.ofList hbranches)

/-- A view and the table of its graph unfold alike. -/
theorem keyed_unfold_of_readShape {node : Term} {v : ShapeView}
    (h : (g.readShape node).result = .ok v) :
    v.unfold.keyed = ((g.shapeTable (g.nodesWith node)).unfold
      (position (g.nodesWith node) node)).keyed := by
  obtain ⟨m, hm, hkey⟩ := exists_getElem?_position (g.node_mem_nodesWith node)
  have hnodes (s p o : Term) (hvalue : g.value? s p = some o) :
      ∃ m ∈ g.nodesWith node, m.key = o.key := object_mem_nodesWith node hvalue
  have hbelow := keyed_unfoldBelow_of_readBelow hnodes hm hkey List.not_mem_nil h
  rw [ShapeView.unfold, id_of_readBelow h]
  exact hbelow

end Graph

/-- Whenever a node is read into a view, pattern, template and compiled query of the view are those of
the node's shape in the table of the graph, with the same lines in the log. The stubs of the view
stand only where the table is not followed either. -/
theorem view_reports_eq_table_reports [ForeignTypes] (g : Graph) (node : Term) (v : ShapeView)
    (h : (g.readShape node).result = .ok v) (focus : Focus) (objectPrefix : String) :
    let nodes := g.nodesWith node
    let u := (g.shapeTable nodes).unfold (Graph.position nodes node)
    (v.unfold.wherePattern focus objectPrefix).report =
      (u.wherePattern focus objectPrefix).report ∧
    (v.unfold.template focus objectPrefix : Logged UnionError _).report =
      (u.template focus objectPrefix : Logged UnionError _).report ∧
    ∀ subjectVariable focusNode,
      (v.unfold.compile subjectVariable focusNode objectPrefix).report =
        (u.compile subjectVariable focusNode objectPrefix).report := by
  intro nodes u
  have hkeyed : v.unfold.keyed = u.keyed := Graph.keyed_unfold_of_readShape h
  refine ⟨?_, ?_, fun subjectVariable focusNode => ?_⟩
  · rw [← Logged.report_keyed, ← Unfolding.wherePattern_keyed, hkeyed,
      Unfolding.wherePattern_keyed, Logged.report_keyed]
  · rw [← Logged.report_keyed, ← Unfolding.template_keyed, hkeyed, Unfolding.template_keyed,
      Logged.report_keyed]
  · rw [← Logged.report_keyed, ← Unfolding.compile_keyed, hkeyed, Unfolding.compile_keyed,
      Logged.report_keyed]

/-- Persons are members of groups, which are led by persons. A property of persons that would lead
back to persons at once is switched off. -/
def staffGraph : Graph where
  triples :=
    let shacl (name : String) : Term := .iri (sh name)
    let person := exampleTerm "PersonShape"
    let group := exampleTerm "GroupShape"
    [⟨person, shacl "targetClass", exampleTerm "Person"⟩,
      ⟨person, shacl "property", .blank "knows"⟩, ⟨person, shacl "property", .blank "memberOf"⟩,
      ⟨.blank "knows", shacl "path", exampleTerm "knows"⟩, ⟨.blank "knows", shacl "node", person⟩,
      ⟨.blank "knows", shacl "deactivated", .literal ⟨"true", none, some (xsd "boolean")⟩⟩,
      ⟨.blank "memberOf", shacl "path", exampleTerm "memberOf"⟩,
      ⟨.blank "memberOf", shacl "node", group⟩, ⟨group, shacl "property", .blank "leader"⟩,
      ⟨.blank "leader", shacl "path", exampleTerm "leader"⟩,
      ⟨.blank "leader", shacl "node", person⟩]

def staffView : ShapeView where
  id := exampleTerm "PersonShape"
  targets := [exampleTerm "Person"]
  properties :=
    .nested (some (exampleTerm "knows")) true (exampleTerm "PersonShape") [] .nil
      (.nested (some (exampleTerm "memberOf")) false (exampleTerm "GroupShape") []
        (.nested (some (exampleTerm "leader")) false (exampleTerm "PersonShape") [] .nil .nil) .nil)

open scoped Standard

theorem view_reports_staffGraph :
    (staffGraph.readShape (exampleTerm "PersonShape")).result = .ok staffView ∧
    let nodes := staffGraph.nodesWith (exampleTerm "PersonShape")
    let u := (staffGraph.shapeTable nodes).unfold
      (Graph.position nodes (exampleTerm "PersonShape"))
    (staffView.unfold.wherePattern ⟨.var "x", "x"⟩ "").report =
      (u.wherePattern ⟨.var "x", "x"⟩ "").report ∧
    (staffView.unfold.template ⟨.var "x", "x"⟩ "" : Logged UnionError _).report =
      (u.template ⟨.var "x", "x"⟩ "" : Logged UnionError _).report ∧
    ∀ subjectVariable focusNode,
      (staffView.unfold.compile subjectVariable focusNode "").report =
        (u.compile subjectVariable focusNode "").report := by
  have hview : (staffGraph.readShape (exampleTerm "PersonShape")).result = .ok staffView := by
    decide +kernel
  exact ⟨hview, view_reports_eq_table_reports staffGraph (exampleTerm "PersonShape") staffView
    hview ⟨.var "x", "x"⟩ ""⟩

end ShaclQuery
