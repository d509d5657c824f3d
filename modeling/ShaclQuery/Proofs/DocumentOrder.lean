import ShaclQuery.Proofs.Locality
import ShaclQuery.Proofs.ReadingErrors
import ShaclQuery.Proofs.ViewChains

/-! # The order of a document

A graph answers look-ups in the order in which its triples came. When each property has one value for
what is read of it and the sort keys of a shape's properties are different numbers, that order is lost
on the reader: sorting can put the properties in one way only, and a first value is the only one. Two
graphs with the same triples then have the same views, but for the order of the classes that a shape
targets.
-/

namespace ShaclQuery

open Vocabulary

/-! ## 1. Results that correspond -/

inductive ResultsAlike {ε α β : Type} (R : α → β → Prop) : Except ε α → Except ε β → Prop
  | ok {a : α} {b : β} : R a b → ResultsAlike R (.ok a) (.ok b)
  | error (e : ε) : ResultsAlike R (.error e) (.error e)

namespace Logged

variable {ε α α' β β' : Type} {R : α → α' → Prop} {S : β → β' → Prop}

theorem resultsAlike_andThen {x : Logged ε α} {x' : Logged ε α'} {f : α → Logged ε β}
    {f' : α' → Logged ε β'} (h : ResultsAlike R x.result x'.result)
    (hf : ∀ a a', R a a' → ResultsAlike S (f a).result (f' a').result) :
    ResultsAlike S (x.andThen f).result (x'.andThen f').result := by
  obtain ⟨notices, result⟩ := x
  obtain ⟨notices', result'⟩ := x'
  cases h with
  | ok ha => exact hf _ _ ha
  | error e => exact .error e

theorem resultsAlike_collect {f : α → Logged ε β} {f' : α' → Logged ε β'} {l : List α}
    {l' : List α'} (h : List.Forall₂ (fun a a' => ResultsAlike S (f a).result (f' a').result) l l') :
    ResultsAlike (List.Forall₂ S) (collect f l).result (collect f' l').result := by
  induction h with
  | nil => exact .ok .nil
  | cons hfirst _ ih =>
    apply resultsAlike_andThen hfirst
    intro b b' hb
    apply resultsAlike_andThen ih
    intro bs bs' hbs
    exact .ok (.cons hb hbs)

end Logged

/-! ## 2. Views that differ in the order of classes -/

/-- Properties in the same order, with the same paths, switched off alike and with shapes nested in
them that differ in the order of their target classes only. -/
inductive PropertyViews.Alike : PropertyViews → PropertyViews → Prop
  | nil : Alike .nil .nil
  | plain (path : Option Term) (deactivated : Bool) {rest rest' : PropertyViews} :
    Alike rest rest' → Alike (.plain path deactivated rest) (.plain path deactivated rest')
  | nested (path : Option Term) (deactivated : Bool) {id id' : Term} {targets targets' : List Term}
      {inner inner' rest rest' : PropertyViews} :
    id.key = id'.key → (targets.map Term.key).Perm (targets'.map Term.key) → Alike inner inner' →
    Alike rest rest' →
    Alike (.nested path deactivated id targets inner rest)
      (.nested path deactivated id' targets' inner' rest')

/-- The same view but for the order of the target classes of each shape. -/
structure ShapeView.Alike (v v' : ShapeView) : Prop where
  id : v.id.key = v'.id.key
  targets : (v.targets.map Term.key).Perm (v'.targets.map Term.key)
  properties : v.properties.Alike v'.properties

structure PropertyView.Alike (w w' : PropertyView) : Prop where
  path : w.path = w'.path
  deactivated : w.deactivated = w'.deactivated
  node : Option.Rel ShapeView.Alike w.node w'.node

theorem PropertyViews.alike_ofList {views views' : List PropertyView}
    (h : List.Forall₂ PropertyView.Alike views views') : (ofList views).Alike (ofList views') := by
  induction h with
  | nil => exact .nil
  | @cons w w' _ _ hw _ ih =>
    obtain ⟨path, deactivated, node⟩ := w
    obtain ⟨path', deactivated', node'⟩ := w'
    obtain ⟨rfl, rfl, hnode⟩ := hw
    cases hnode with
    | none => exact .plain _ _ ih
    | some hv => exact .nested _ _ hv.id hv.targets hv.properties ih

/-! ## 3. Look-ups in graphs with the same triples -/

theorem Term.order_key [ForeignTypes] (t : Term) : t.key.order = t.order := by
  cases t <;> rfl

theorem Term.isTrue_key [ForeignTypes] (t : Term) : t.key.isTrue = t.isTrue := by
  cases t <;> rfl

/-- What does not look beyond the key of a term cannot tell terms with the same key apart. -/
theorem map_eq_of_map_key_eq {γ : Type} {f : Term → γ} (hf : ∀ t : Term, f t.key = f t)
    {t t' : Option Term} (h : t.map Term.key = t'.map Term.key) : t.map f = t'.map f := by
  have hkey (t : Option Term) : (t.map Term.key).map f = t.map f := by
    cases t with
    | none => rfl
    | some t => exact congrArg some (hf t)
  rw [← hkey t, h, hkey]

theorem filter_isIri_eq_of_map_key_eq {t t' : Option Term}
    (h : t.map Term.key = t'.map Term.key) : t.filter Term.isIri = t'.filter Term.isIri := by
  have hkey (t : Option Term) : (t.map Term.key).filter Term.isIri = t.filter Term.isIri := by
    rcases t with _ | t
    · rfl
    · cases t <;> rfl
  rw [← hkey t, h, hkey]

namespace Graph

def SameTriples (g g' : Graph) : Prop := ∀ t, g.contains t = g'.contains t

theorem contains_iff {g : Graph} {s p o : Term} :
    g.contains ⟨s, p, o⟩ = true ↔ o.key ∈ (g.objects s p).map Term.key := by
  simp only [contains, List.any_eq_true, beq_iff_eq, Triple.key, Triple.mk.injEq, List.mem_map,
    mem_objects, Term.same_iff]
  constructor
  · rintro ⟨t, ht, hs, hp, ho⟩
    exact ⟨t.object, ⟨t, ht, hs, hp, rfl⟩, ho⟩
  · rintro ⟨_, ⟨t, ht, hs, hp, rfl⟩, ho⟩
    exact ⟨t, ht, hs, hp, ho⟩

theorem contains_ofList (ts : List Triple) (t : Triple) :
    (ofList ts).contains t = true ↔ t.key ∈ ts.map Triple.key := by
  have hmem : (ofList ts).contains t = true ↔ t.key ∈ (ofList ts).triples.map Triple.key := by
    simp [contains]
  rw [hmem, triples_ofList, mem_map_distinctBy]

/-- Inserting triples in another order leaves the same triples. -/
theorem sameTriples_ofList {ts ts' : List Triple} (h : ts.Perm ts') :
    (ofList ts).SameTriples (ofList ts') := by
  intro t
  rw [Bool.eq_iff_iff, contains_ofList, contains_ofList, (h.map Triple.key).mem_iff]

namespace SameTriples

variable {g g' : Graph}

theorem mem_objects_iff (h : g.SameTriples g') {s s' : Term} (hs : s.key = s'.key) (p k : Term) :
    k ∈ (g.objects s p).map Term.key ↔ k ∈ (g'.objects s' p).map Term.key := by
  rw [← g'.objects_congr hs]
  constructor
  · intro hk
    obtain ⟨o, _, rfl⟩ := List.mem_map.1 hk
    rwa [← contains_iff, ← h, contains_iff]
  · intro hk
    obtain ⟨o, _, rfl⟩ := List.mem_map.1 hk
    rwa [← contains_iff, h, contains_iff]

theorem perm_distinct (h : g.SameTriples g') {s s' : Term} (hs : s.key = s'.key) (p : Term) :
    ((distinctBy Term.key (g.objects s p)).map Term.key).Perm
      ((distinctBy Term.key (g'.objects s' p)).map Term.key) := by
  rw [List.perm_ext_iff_of_nodup (nodup_map_distinctBy _ _) (nodup_map_distinctBy _ _)]
  intro k
  rw [mem_map_distinctBy, mem_map_distinctBy, h.mem_objects_iff hs]

/-- Where a subject has one object at most, the first object is the same. -/
theorem value?_key_eq (h : g.SameTriples g') {s s' p : Term} (hs : s.key = s'.key)
    (hsingle : ∀ a ∈ g.objects s p, ∀ b ∈ g.objects s p, a.key = b.key) :
    (g.value? s p).map Term.key = (g'.value? s' p).map Term.key := by
  have hmem := h.mem_objects_iff hs p
  unfold value?
  cases hl : g.objects s p with
  | nil =>
    rw [hl] at hmem
    cases hl' : g'.objects s' p with
    | nil => rfl
    | cons b rest' =>
      rw [hl'] at hmem
      exact absurd ((hmem b.key).2 List.mem_cons_self) List.not_mem_nil
  | cons a rest =>
    rw [hl] at hmem hsingle
    cases hl' : g'.objects s' p with
    | nil =>
      rw [hl'] at hmem
      exact absurd ((hmem a.key).1 List.mem_cons_self) List.not_mem_nil
    | cons b rest' =>
      rw [hl'] at hmem
      obtain ⟨o, ho, hkey⟩ := List.mem_map.1 ((hmem b.key).2 List.mem_cons_self)
      show some a.key = some b.key
      rw [← hkey, hsingle a List.mem_cons_self o ho]

end SameTriples

/-! ## 4. One way to sort -/

variable [ForeignTypes]

/-- Each property of each shape that is read has one value at most for what is read of it, and any two
properties of a shape have sort keys that are different numbers. -/
structure FixesOrder (g : Graph) (node : Term) : Prop where
  single : ∀ s, g.Reads node s → ∀ p ∈ g.objects s (.iri (sh "property")),
    ∀ name ∈ ["path", "node", "deactivated", "order"], ∀ a ∈ g.objects p (.iri (sh name)),
      ∀ b ∈ g.objects p (.iri (sh name)), a.key = b.key
  -- a `nan` is neither smaller nor larger than another key
  comparable : ∀ s, g.Reads node s → ∀ p ∈ g.objects s (.iri (sh "property")),
    ∀ q ∈ g.objects s (.iri (sh "property")), p.key ≠ q.key → ∀ x y, g.orderOf p = .ok x →
      g.orderOf q = .ok y → x.lt y = true ∨ y.lt x = true

variable {g g' : Graph} {node : Term}

theorem orderOf_eq_getD (g : Graph) (p : Term) :
    g.orderOf p = ((g.value? p (.iri (sh "order"))).map Term.order).getD
      (.ok (.infinity false)) := by
  unfold orderOf
  cases g.value? p (.iri (sh "order")) with
  | none => rfl
  | some t => rfl

theorem isDeactivated_eq_getD (g : Graph) (p : Term) :
    g.isDeactivated p = ((g.value? p (.iri (sh "deactivated"))).map Term.isTrue).getD false := by
  unfold isDeactivated
  cases g.value? p (.iri (sh "deactivated")) with
  | none => rfl
  | some t => rfl

def mark (g : Graph) (p : Term) : Int × Term := (g.placeOf p, p.key)

theorem placeOf_eq_of_orderOf_eq {p p' : Term} (h : g.orderOf p = g'.orderOf p') :
    g.placeOf p = g'.placeOf p' := by
  rw [placeOf, placeOf, h]

theorem mem_marks_iff {s : Term} {properties : List Term}
    (h : g.orderedProperties s = .ok properties) (m : Int × Term) :
    m ∈ properties.map g.mark ↔ ∃ p ∈ g.objects s (.iri (sh "property")), g.mark p = m := by
  rw [List.mem_map]
  constructor
  · rintro ⟨p, hp, rfl⟩
    exact ⟨p, mem_objects_of_orderedProperties h hp, rfl⟩
  · rintro ⟨p, hp, rfl⟩
    -- of properties that are the same term, the first is kept
    obtain ⟨q, hq, hkey⟩ := exists_mem_distinctBy Term.key _ hp
    refine ⟨q, (perm_of_orderedProperties h).mem_iff.2 hq, ?_⟩
    rw [mark, mark, hkey, placeOf_eq_of_orderOf_eq (g.orderOf_congr hkey)]

theorem nodup_marks {s : Term} {properties : List Term}
    (h : g.orderedProperties s = .ok properties) : (properties.map g.mark).Nodup := by
  have hkeys := nodup_keys_of_orderedProperties h
  exact List.pairwise_map.2 ((List.pairwise_map.1 hkeys).imp fun hne heq =>
    hne (congrArg Prod.snd heq))

namespace FixesOrder

theorem value?_key_eq (h : g.FixesOrder node) (hsame : g.SameTriples g') {s p p' : Term}
    (hs : g.Reads node s) (hp : p ∈ g.objects s (.iri (sh "property"))) (hkey : p.key = p'.key)
    {name : String} (hname : name ∈ ["path", "node", "deactivated", "order"]) :
    (g.value? p (.iri (sh name))).map Term.key = (g'.value? p' (.iri (sh name))).map Term.key :=
  hsame.value?_key_eq hkey (h.single s hs p hp name hname)

theorem orderOf_eq (h : g.FixesOrder node) (hsame : g.SameTriples g') {s p p' : Term}
    (hs : g.Reads node s) (hp : p ∈ g.objects s (.iri (sh "property"))) (hkey : p.key = p'.key) :
    g.orderOf p = g'.orderOf p' := by
  rw [orderOf_eq_getD, orderOf_eq_getD,
    map_eq_of_map_key_eq Term.order_key (h.value?_key_eq hsame hs hp hkey (by simp))]

theorem exists_places_ne (h : g.FixesOrder node) {s p q : Term} (hs : g.Reads node s)
    (hp : p ∈ g.objects s (.iri (sh "property"))) (hq : q ∈ g.objects s (.iri (sh "property")))
    (hne : p.key ≠ q.key) {x y : Number.Double} (hx : g.orderOf p = .ok x)
    (hy : g.orderOf q = .ok y) : ∃ a b, x.place = some a ∧ y.place = some b ∧ a ≠ b := by
  rcases h.comparable s hs p hp q hq hne x y hx hy with hlt | hlt
  · obtain ⟨a, b, ha, hb, hlt⟩ := Number.Double.lt_iff.1 hlt
    exact ⟨a, b, ha, hb, by omega⟩
  · obtain ⟨b, a, hb, ha, hlt⟩ := Number.Double.lt_iff.1 hlt
    exact ⟨a, b, ha, hb, by omega⟩

/-- Different numbers as keys compare like their places, so that sorting meets no ties. -/
theorem lt_iff_placeOf_lt (h : g.FixesOrder node) {s p q : Term} (hs : g.Reads node s)
    (hp : p ∈ g.objects s (.iri (sh "property"))) (hq : q ∈ g.objects s (.iri (sh "property")))
    {x y : Number.Double} (hx : g.orderOf p = .ok x) (hy : g.orderOf q = .ok y) :
    x.lt y = true ↔ g.placeOf p < g.placeOf q := by
  rw [placeOf_eq hx, placeOf_eq hy, Number.Double.lt_iff]
  by_cases hkey : p.key = q.key
  · -- a sort key is not smaller than itself, be it a number or not
    obtain rfl : x = y := by
      rw [g.orderOf_congr hkey, hy] at hx
      exact (Except.ok.inj hx).symm
    constructor
    · rintro ⟨a, b, ha, hb, hlt⟩
      rw [ha, Option.some.injEq] at hb
      omega
    · intro hlt
      omega
  · obtain ⟨a, b, ha, hb, _⟩ := h.exists_places_ne hs hp hq hkey hx hy
    rw [ha, hb]
    simp

theorem exists_counterpart (h : g.FixesOrder node) (hsame : g.SameTriples g') {s s' p' : Term}
    (hs : g.Reads node s) (hkey : s.key = s'.key)
    (hp' : p' ∈ g'.objects s' (.iri (sh "property"))) :
    ∃ p ∈ g.objects s (.iri (sh "property")), p.key = p'.key ∧ g.orderOf p = g'.orderOf p' := by
  have hmem := (hsame.mem_objects_iff hkey _ _).2 (List.mem_map_of_mem hp')
  obtain ⟨p, hp, hkey'⟩ := List.mem_map.1 hmem
  exact ⟨p, hp, hkey', h.orderOf_eq hsame hs hp hkey'⟩

theorem exists_mark_iff (h : g.FixesOrder node) (hsame : g.SameTriples g') {s s' : Term}
    (hs : g.Reads node s) (hkey : s.key = s'.key) (m : Int × Term) :
    (∃ p ∈ g.objects s (.iri (sh "property")), g.mark p = m) ↔
      ∃ p' ∈ g'.objects s' (.iri (sh "property")), g'.mark p' = m := by
  constructor
  · rintro ⟨p, hp, rfl⟩
    have hmem := (hsame.mem_objects_iff hkey _ _).1 (List.mem_map_of_mem hp)
    obtain ⟨p', hp', hkey'⟩ := List.mem_map.1 hmem
    refine ⟨p', hp', ?_⟩
    rw [mark, mark, hkey', placeOf_eq_of_orderOf_eq (h.orderOf_eq hsame hs hp hkey'.symm)]
  · rintro ⟨p', hp', rfl⟩
    obtain ⟨p, hp, hkey', horder⟩ := h.exists_counterpart hsame hs hkey hp'
    exact ⟨p, hp, by rw [mark, mark, hkey', placeOf_eq_of_orderOf_eq horder]⟩

theorem rising_of_sameTriples (h : g.FixesOrder node) (hsame : g.SameTriples g') {s s' : Term}
    (hs : g.Reads node s) (hkey : s.key = s'.key) {properties' : List Term}
    (hproperties' : g'.orderedProperties s' = .ok properties') :
    Rising g'.placeOf properties' := by
  apply rising_orderedProperties hproperties'
  intro p' hp' q' hq' x y hx hy
  obtain ⟨p, hp, _, horder⟩ := h.exists_counterpart hsame hs hkey hp'
  obtain ⟨q, hq, _, horder'⟩ := h.exists_counterpart hsame hs hkey hq'
  rw [← placeOf_eq_of_orderOf_eq horder, ← placeOf_eq_of_orderOf_eq horder']
  exact h.lt_iff_placeOf_lt hs hp hq (horder.trans hx) (horder'.trans hy)

/-- Marks in rising order leave one way to list them, since no two have the same place. -/
theorem map_mark_eq (h : g.FixesOrder node) (hsame : g.SameTriples g') {s s' : Term}
    (hs : g.Reads node s) (hkey : s.key = s'.key) {properties properties' : List Term}
    (hproperties : g.orderedProperties s = .ok properties)
    (hproperties' : g'.orderedProperties s' = .ok properties') :
    properties.map g.mark = properties'.map g'.mark := by
  have hperm : (properties.map g.mark).Perm (properties'.map g'.mark) := by
    rw [List.perm_ext_iff_of_nodup (nodup_marks hproperties) (nodup_marks hproperties')]
    intro m
    rw [mem_marks_iff hproperties, mem_marks_iff hproperties', h.exists_mark_iff hsame hs hkey]
  -- two properties with one place are one property, so that sorted lists of them cannot differ
  have hplace : ∀ a b : Int × Term, a ∈ properties.map g.mark → b ∈ properties'.map g'.mark →
      a.1 ≤ b.1 → b.1 ≤ a.1 → a = b := by
    intro a b ha hb hab hba
    obtain ⟨p, hp, rfl⟩ := (mem_marks_iff hproperties a).1 ha
    obtain ⟨q, hq, rfl⟩ := (mem_marks_iff hproperties b).1 (hperm.mem_iff.2 hb)
    have hplaces : g.placeOf p = g.placeOf q := Int.le_antisymm hab hba
    by_cases hne : p.key = q.key
    · rw [mark, mark, hplaces, hne]
    · have horders := (g.orderedProperties_isOk_iff s).1 ⟨properties, hproperties⟩
      obtain ⟨x, hx⟩ := horders p hp
      obtain ⟨y, hy⟩ := horders q hq
      obtain ⟨a, b, ha, hb, hab⟩ := h.exists_places_ne hs hp hq hne hx hy
      rw [placeOf_eq hx, placeOf_eq hy, ha, hb] at hplaces
      exact absurd hplaces hab
  exact List.Perm.eq_of_pairwise hplace
    (List.pairwise_map.2 (h.rising_of_sameTriples (fun _ => rfl) hs rfl hproperties))
    (List.pairwise_map.2 (h.rising_of_sameTriples hsame hs hkey hproperties')) hperm

/-- Sorting forgets the order of insertion. -/
theorem orderedProperties_alike (h : g.FixesOrder node) (hsame : g.SameTriples g') {s s' : Term}
    (hs : g.Reads node s) (hkey : s.key = s'.key) :
    ResultsAlike
      (List.Forall₂ fun p p' => p ∈ g.objects s (.iri (sh "property")) ∧ p.key = p'.key)
      (g.orderedProperties s) (g'.orderedProperties s') := by
  have hisOk : (∃ properties, g.orderedProperties s = .ok properties) ↔
      ∃ properties', g'.orderedProperties s' = .ok properties' := by
    rw [orderedProperties_isOk_iff, orderedProperties_isOk_iff]
    constructor
    · intro horders p' hp'
      obtain ⟨p, hp, _, horder⟩ := h.exists_counterpart hsame hs hkey hp'
      rw [← horder]
      exact horders p hp
    · intro horders p hp
      have hmem := (hsame.mem_objects_iff hkey _ _).1 (List.mem_map_of_mem hp)
      obtain ⟨p', hp', hkey'⟩ := List.mem_map.1 hmem
      rw [h.orderOf_eq hsame hs hp hkey'.symm]
      exact horders p' hp'
  cases hproperties : g.orderedProperties s with
  | ok properties =>
    obtain ⟨properties', hproperties'⟩ := hisOk.1 ⟨properties, hproperties⟩
    rw [hproperties']
    have hmarks := congrArg (List.map Prod.snd) (h.map_mark_eq hsame hs hkey hproperties hproperties')
    rw [List.map_map, List.map_map, ← List.forall₂_eq_eq_eq, List.forall₂_map_left_iff,
      List.forall₂_map_right_iff] at hmarks
    exact .ok ((List.forall₂_and_left _ _).2
      ⟨fun p hp => mem_objects_of_orderedProperties hproperties hp, hmarks⟩)
  | error e =>
    cases hproperties' : g'.orderedProperties s' with
    | ok properties' =>
      obtain ⟨properties, hok⟩ := hisOk.2 ⟨properties', hproperties'⟩
      rw [hproperties] at hok
      cases hok
    | error e' =>
      -- there is one way only in which sorting fails
      cases e
      cases e'
      exact .error _

/-! ## 5. Readings -/

theorem pathOf_alike (h : g.FixesOrder node) (hsame : g.SameTriples g') {s p p' : Term}
    (hs : g.Reads node s) (hp : p ∈ g.objects s (.iri (sh "property"))) (hkey : p.key = p'.key) :
    ResultsAlike Eq (g.pathOf p : Logged OrderError _).result (g'.pathOf p').result := by
  rw [pathOf_result, pathOf_result]
  exact .ok (filter_isIri_eq_of_map_key_eq (h.value?_key_eq hsame hs hp hkey (by simp)))

/-- One property is read alike, provided the shapes nested below are. -/
theorem readProperty_alike (h : g.FixesOrder node) (hsame : g.SameTriples g') {above : List Term}
    {s p p' : Term} (hs : g.Reads node s) (hp : p ∈ g.objects s (.iri (sh "property")))
    (hkey : p.key = p'.key)
    (hbelow : ∀ m m', g.value? p (.iri (sh "node")) = some m → m.key = m'.key → m.key ∉ above →
      ResultsAlike ShapeView.Alike (g.readBelow (m.key :: above) m).result
        (g'.readBelow (m.key :: above) m').result) :
    ResultsAlike PropertyView.Alike (g.readProperty above p).result
      (g'.readProperty above p').result := by
  have hdeactivated : g.isDeactivated p = g'.isDeactivated p' := by
    rw [isDeactivated_eq_getD, isDeactivated_eq_getD,
      map_eq_of_map_key_eq Term.isTrue_key (h.value?_key_eq hsame hs hp hkey (by simp))]
  have hnode : (g.value? p (.iri (sh "node"))).map Term.key =
      (g'.value? p' (.iri (sh "node"))).map Term.key :=
    h.value?_key_eq hsame hs hp hkey (by simp)
  apply Logged.resultsAlike_andThen (h.pathOf_alike hsame hs hp hkey)
  rintro path _ rfl
  rw [hdeactivated]
  cases hvalue : g.value? p (.iri (sh "node")) with
  | none =>
    rw [hvalue] at hnode
    rw [Option.map_eq_none_iff.1 hnode.symm]
    exact .ok ⟨rfl, rfl, .none⟩
  | some m =>
    rw [hvalue] at hnode
    obtain ⟨m', hvalue', hm⟩ := Option.map_eq_some_iff.1 hnode.symm
    simp only [hvalue', hm]
    by_cases hmet : m.key ∈ above
    · -- both are cut off here
      simp only [if_pos hmet]
      exact .ok ⟨rfl, rfl, .some ⟨hm.symm, List.Perm.refl [], .nil⟩⟩
    · simp only [if_neg hmet]
      apply Logged.resultsAlike_andThen (hbelow m m' hvalue hm.symm hmet)
      intro v v' hv
      exact .ok ⟨rfl, rfl, .some hv⟩

/-- By induction along the reading, which ends for the first graph and takes the same turns for the
second. -/
theorem readBelow_alike (h : g.FixesOrder node) (hsame : g.SameTriples g') (above : List Term)
    {s s' : Term} (hs : g.Reads node s) (hkey : s.key = s'.key) :
    ResultsAlike ShapeView.Alike (g.readBelow above s).result (g'.readBelow above s').result := by
  -- a nested node is entered only when that leaves fewer objects to meet
  induction hunmet : g.unmet above using Nat.strongRecOn generalizing above s s' with
  | _ count ih =>
    rw [readBelow_eq, readBelow_eq]
    apply Logged.resultsAlike_andThen (h.orderedProperties_alike hsame hs hkey)
    intro properties properties' hproperties
    have hviews : ResultsAlike (List.Forall₂ PropertyView.Alike)
        (Logged.collect (g.readProperty above) properties).result
        (Logged.collect (g'.readProperty above) properties').result := by
      apply Logged.resultsAlike_collect
      apply hproperties.imp
      rintro p p' ⟨hp, hkey'⟩
      apply h.readProperty_alike hsame hs hp hkey'
      intro m m' hm hkey'' hmet
      have hlt := unmet_lt hm hmet
      exact ih _ (by omega) _ (hs.nested hp hm) hkey'' rfl
    apply Logged.resultsAlike_andThen hviews
    intro views views' hviews
    exact .ok ⟨hkey, hsame.perm_distinct hkey _, PropertyViews.alike_ofList hviews⟩

end FixesOrder

end Graph

/-- Let each property of each shape that is read at a node have one value at most for what is read of
it, and let the sort keys of any two properties of a shape be different numbers. Then any graph with the
same triples, whatever their order, is read alike at the node: with the same error, or with the same
view but for the order of target classes. It is a view when every property has a sort key. -/
theorem readShape_alike_of_sameTriples [ForeignTypes] (g g' : Graph) (node : Term)
    (h : g.FixesOrder node) (hsame : g.SameTriples g') :
    ResultsAlike ShapeView.Alike (g.readShape node).result (g'.readShape node).result ∧
    ((∀ s, g.Reads node s → ∀ p ∈ g.objects s (.iri (sh "property")), ∃ x, g.orderOf p = .ok x) →
      ∃ v v', (g.readShape node).result = .ok v ∧ (g'.readShape node).result = .ok v' ∧
        v.Alike v') := by
  have halike : ResultsAlike ShapeView.Alike (g.readShape node).result (g'.readShape node).result :=
    h.readBelow_alike hsame [node.key] .root rfl
  refine ⟨halike, fun horders => ?_⟩
  obtain ⟨v, hv⟩ := (g.readShape_isOk_iff node).2 horders
  rw [hv] at halike
  generalize (g'.readShape node).result = result' at halike ⊢
  cases halike with
  | ok hviews => exact ⟨v, _, hv, rfl, hviews⟩

def libraryShapes : List Term :=
  [exampleTerm "BookShape", exampleTerm "PersonShape", exampleTerm "PublisherShape"]

open scoped Standard

theorem readShape_alike_library :
    (Graph.ofList libraryGraph.triples).FixesOrder (exampleTerm "BookShape") ∧
    (Graph.ofList libraryGraph.triples).SameTriples (Graph.ofList libraryGraph.triples.reverse) ∧
    ∃ v v', ((Graph.ofList libraryGraph.triples).readShape (exampleTerm "BookShape")).result = .ok v ∧
      ((Graph.ofList libraryGraph.triples.reverse).readShape (exampleTerm "BookShape")).result = .ok v' ∧
      v.Alike v' := by
  -- the list is closed under nesting, so that there is nothing else to look at
  have hreads : ∀ s, (Graph.ofList libraryGraph.triples).Reads (exampleTerm "BookShape") s →
      s ∈ libraryShapes := by
    intro s hs
    exact hs.mem_of_closed (· ∈ libraryShapes) List.mem_cons_self (by decide +kernel)
  have hsingle : ∀ s ∈ libraryShapes,
      ∀ p ∈ (Graph.ofList libraryGraph.triples).objects s (.iri (sh "property")),
      ∀ name ∈ ["path", "node", "deactivated", "order"],
      ∀ a ∈ (Graph.ofList libraryGraph.triples).objects p (.iri (sh name)),
      ∀ b ∈ (Graph.ofList libraryGraph.triples).objects p (.iri (sh name)), a.key = b.key := by
    decide +kernel
  have hcomparable : ∀ s ∈ libraryShapes,
      ∀ p ∈ (Graph.ofList libraryGraph.triples).objects s (.iri (sh "property")),
      ∀ q ∈ (Graph.ofList libraryGraph.triples).objects s (.iri (sh "property")), p.key ≠ q.key →
      ∀ x ∈ ((Graph.ofList libraryGraph.triples).orderOf p).toOption,
      ∀ y ∈ ((Graph.ofList libraryGraph.triples).orderOf q).toOption,
        x.lt y = true ∨ y.lt x = true := by
    decide +kernel
  have hkeyed : ∀ s ∈ libraryShapes,
      ∀ p ∈ (Graph.ofList libraryGraph.triples).objects s (.iri (sh "property")),
      ((Graph.ofList libraryGraph.triples).orderOf p).isOk = true := by
    decide +kernel
  have hfixes : (Graph.ofList libraryGraph.triples).FixesOrder (exampleTerm "BookShape") := by
    refine ⟨fun s hs => hsingle s (hreads s hs), fun s hs p hp q hq hne x y hx hy => ?_⟩
    exact hcomparable s (hreads s hs) p hp q hq hne x (by rw [hx]; rfl) y (by rw [hy]; rfl)
  have hsame := Graph.sameTriples_ofList (List.reverse_perm libraryGraph.triples).symm
  refine ⟨hfixes, hsame, (readShape_alike_of_sameTriples _ _ _ hfixes hsame).2 fun s hs p hp => ?_⟩
  have hisOk := hkeyed s (hreads s hs) p hp
  cases horder : (Graph.ofList libraryGraph.triples).orderOf p with
  | ok x => exact ⟨x, rfl⟩
  | error e =>
    rw [horder] at hisOk
    cases hisOk

-- the classes change places, the properties do not
example : ((Graph.ofList libraryGraph.triples.reverse).readShape (exampleTerm "BookShape")).result =
    .ok { libraryView with targets := [exampleTerm "Work", exampleTerm "Book"] } := by
  decide +kernel

end ShaclQuery
