import ShaclQuery.Proofs.Locality

/-! # Properties in the order of their sort keys

The sort key of a property is the number that its `sh:order` gives, and infinity when it gives none.
Unless a key is a `nan`, any two keys can be compared, and the properties of a shape come with their keys
rising. Properties whose keys are equal stay in the order of the document, among them all properties
without a usable `sh:order`, which follow the properties that have a finite one.
-/

namespace ShaclQuery

open Number Vocabulary

/-! ## 1. Sort keys -/

/-- At most as large. A `nan` is not comparable, not even with itself. -/
def Number.Double.le (a b : Double) : Bool :=
  match a.place, b.place with
  | some x, some y => x ≤ y
  | _, _ => false

theorem Number.Double.exists_place {x : Double} (h : x ≠ .nan) : ∃ a, x.place = some a := by
  rcases x with _ | ⟨_ | _, rank⟩
  · exact absurd rfl h
  · exact ⟨_, rfl⟩
  · exact ⟨_, rfl⟩

theorem Number.Double.le_iff {a b : Double} :
    a.le b = true ↔ ∃ x y, a.place = some x ∧ b.place = some y ∧ x ≤ y := by
  unfold le
  cases a.place with
  | none => simp
  | some x =>
    cases b.place with
    | none => simp
    | some y => simp

/-- A finite number is below infinity. -/
theorem Number.Double.infinity_le_eq_false {x : Double} (hfinite : x.isInfinite = false) :
    (infinity false).le x = false := by
  rcases x with _ | ⟨negative, rank⟩
  · rfl
  · have hrank : rank < infinityRank := by simpa [isInfinite] using hfinite
    rw [Bool.eq_false_iff, Ne, le_iff]
    rintro ⟨a, b, ha, hb, hle⟩
    cases ha
    cases negative with
    | false =>
      cases hb
      omega
    | true =>
      cases hb
      omega

def Value.number? : Value → Option Double
  | .integer n => some (.ofInt n)
  | .decimal d => d.toDouble?
  | .double x => some x
  | .boolean b => some (.ofInt (if b then 1 else 0))
  | .date _ | .foreign _ => none
  | .text s => readDouble s.toList
  | .octets os => if os.all (· < 128) then readDouble (os.map Char.ofNat) else none

/-- A value that gives no number counts as infinite. -/
theorem Value.number?_of_order {v : Value} {x : Double} (h : v.order = .ok x) :
    v.number?.getD (.infinity false) = x := by
  cases v with
  | integer n =>
    simp only [order] at h
    split at h
    · cases h
    · exact Except.ok.inj h
  | decimal d => exact Except.ok.inj h
  | double y => exact Except.ok.inj h
  | boolean b => exact Except.ok.inj h
  | date d => exact Except.ok.inj h
  | foreign canonical => exact Except.ok.inj h
  | text s => exact Except.ok.inj h
  | octets os =>
    rw [← Except.ok.inj h, number?]
    split
    · rfl
    · rfl

section Keys

variable [ForeignTypes]

/-- The number that a term is read as. Only literals are, by their text where they have no value. -/
def Term.number? : Term → Option Double
  | .literal l =>
    match l.value? with
    | some v => v.number?
    | none => readDouble l.text.toList
  | _ => none

namespace Graph

def usableOrder? (g : Graph) (property : Term) : Option Double :=
  (g.value? property (.iri (sh "order"))).bind Term.number?

def sortKey (g : Graph) (property : Term) : Double :=
  (g.usableOrder? property).getD (.infinity false)

def KeyLe (g : Graph) (p q : Term) : Prop := (g.sortKey p).le (g.sortKey q) = true

end Graph

theorem Term.number?_of_order {t : Term} {x : Double} (h : t.order = .ok x) :
    t.number?.getD (.infinity false) = x := by
  cases t with
  | literal l =>
    simp only [order] at h
    simp only [number?]
    cases hvalue : l.value? with
    | none =>
      rw [hvalue] at h
      exact Except.ok.inj h
    | some v =>
      rw [hvalue] at h
      exact Value.number?_of_order h
  | iri text => exact Except.ok.inj h
  | blank label => exact Except.ok.inj h
  | var name => exact Except.ok.inj h

namespace Graph

variable {g : Graph} {shape : Term} {properties : List Term}

theorem sortKey_of_orderOf {p : Term} {x : Double} (h : g.orderOf p = .ok x) : g.sortKey p = x := by
  unfold orderOf at h
  unfold sortKey usableOrder?
  cases hvalue : g.value? p (.iri (sh "order")) with
  | none =>
    rw [hvalue] at h
    exact Except.ok.inj h
  | some t =>
    rw [hvalue] at h
    exact Term.number?_of_order h

/-- Without a usable `sh:order` the sort key is infinity. -/
theorem sortKey_of_unusable {p : Term} (h : g.usableOrder? p = none) :
    g.sortKey p = .infinity false := by
  rw [sortKey, h, Option.getD_none]

/-- Properties that could be put in order have their sort keys. -/
theorem orderOf_of_mem (h : g.orderedProperties shape = .ok properties) {p : Term}
    (hp : p ∈ g.objects shape (.iri (sh "property"))) : g.orderOf p = .ok (g.sortKey p) := by
  obtain ⟨x, hx⟩ := (g.orderedProperties_isOk_iff shape).1 ⟨properties, h⟩ p hp
  rw [hx, sortKey_of_orderOf hx]

theorem KeyLe.trans {p q r : Term} (hpq : g.KeyLe p q) (hqr : g.KeyLe q r) : g.KeyLe p r := by
  obtain ⟨x, y, hx, hy, hxy⟩ := Double.le_iff.1 hpq
  obtain ⟨y', z, hy', hz, hyz⟩ := Double.le_iff.1 hqr
  rw [hy, Option.some.injEq] at hy'
  exact Double.le_iff.2 ⟨x, z, hx, hz, by omega⟩

/-! ## 2. Keys that can be compared -/

def NoNan (g : Graph) (shape : Term) : Prop :=
  ∀ p ∈ g.objects shape (.iri (sh "property")), g.sortKey p ≠ .nan

theorem NoNan.place_sortKey (hnan : g.NoNan shape) (h : g.orderedProperties shape = .ok properties)
    {p : Term} (hp : p ∈ g.objects shape (.iri (sh "property"))) :
    (g.sortKey p).place = some (g.placeOf p) := by
  obtain ⟨a, ha⟩ := Double.exists_place (hnan p hp)
  rw [placeOf_eq (orderOf_of_mem h hp), ha]
  rfl

theorem NoNan.keysPlaced (hnan : g.NoNan shape) (h : g.orderedProperties shape = .ok properties) :
    g.KeysPlaced shape := by
  intro p hp q hq x y hx hy
  rw [← sortKey_of_orderOf hx, ← sortKey_of_orderOf hy, Double.lt_iff, hnan.place_sortKey h hp,
    hnan.place_sortKey h hq]
  simp

theorem NoNan.keyLe_iff (hnan : g.NoNan shape) (h : g.orderedProperties shape = .ok properties)
    {p q : Term} (hp : p ∈ g.objects shape (.iri (sh "property")))
    (hq : q ∈ g.objects shape (.iri (sh "property"))) :
    g.KeyLe p q ↔ g.placeOf p ≤ g.placeOf q := by
  unfold KeyLe
  rw [Double.le_iff, hnan.place_sortKey h hp, hnan.place_sortKey h hq]
  simp

end Graph

end Keys

/-! ## 3. Places in lists -/

theorem pair_sublist_filter_iff {α : Type} {P : α → Bool} {a b : α} (ha : P a = true)
    (hb : P b = true) (l : List α) : [a, b].Sublist (l.filter P) ↔ [a, b].Sublist l := by
  constructor
  · intro h
    exact h.trans List.filter_sublist
  · intro h
    have hfilter := h.filter P
    rwa [List.filter_cons_of_pos ha, List.filter_cons_of_pos hb] at hfilter

theorem pair_sublist_of_pairwise {α : Type} {R : α → α → Prop} {l : List α} (h : l.Pairwise R)
    {a b : α} (ha : a ∈ l) (hb : b ∈ l) (hne : a ≠ b) (hnot : ¬R b a) : [a, b].Sublist l := by
  obtain ⟨front, back, rfl⟩ := List.append_of_mem ha
  obtain ⟨_, _, hfront⟩ := List.pairwise_append.1 h
  rcases List.mem_append.1 hb with hb | hb
  · exact absurd (hfront b hb a List.mem_cons_self) hnot
  · rcases List.mem_cons.1 hb with heq | hb
    · exact absurd heq.symm hne
    · exact ((List.singleton_sublist.2 hb).cons_cons a).trans (List.sublist_append_right front _)

theorem filter_eq_filter_filter {α : Type} {P Q : α → Bool} {l : List α}
    (h : ∀ a ∈ l, P a = true → Q a = true) : l.filter P = (l.filter Q).filter P := by
  rw [List.filter_filter]
  apply List.filter_congr
  intro a ha
  cases hP : P a with
  | false => rfl
  | true => rw [h a ha hP, Bool.and_self]

/-! ## 4. The order of properties -/

section Order

variable [ForeignTypes]

namespace Graph

/-- Properties in the order of their sort keys, and in that of a document where the keys are equal. -/
structure SortedStably (g : Graph) (document properties : List Term) : Prop where
  total : ∀ p ∈ properties, ∀ q ∈ properties, g.KeyLe p q ∨ g.KeyLe q p
  trans : ∀ p q r, g.KeyLe p q → g.KeyLe q r → g.KeyLe p r
  rising : properties.Pairwise g.KeyLe
  ties : ∀ p q, g.KeyLe p q → g.KeyLe q p →
    ([p, q].Sublist properties ↔ [p, q].Sublist document)
  -- properties without a usable `sh:order` follow those with a finite one, as the document has them
  last : ∀ p ∈ properties, ∀ q ∈ properties, ∀ x, g.usableOrder? p = some x →
    x.isInfinite = false → g.usableOrder? q = none → [p, q].Sublist properties
  unordered : properties.filter (g.usableOrder? · = none) =
    document.filter (g.usableOrder? · = none)

variable {g : Graph} {shape : Term} {properties : List Term}

theorem mem_orderedProperties_iff (h : g.orderedProperties shape = .ok properties) {p : Term} :
    p ∈ properties ↔ p ∈ g.distinctObjects shape (.iri (sh "property")) :=
  (perm_of_orderedProperties h).mem_iff

theorem NoNan.total (hnan : g.NoNan shape) (h : g.orderedProperties shape = .ok properties)
    {p q : Term} (hp : p ∈ properties) (hq : q ∈ properties) : g.KeyLe p q ∨ g.KeyLe q p := by
  have hp' := mem_objects_of_orderedProperties h hp
  have hq' := mem_objects_of_orderedProperties h hq
  rw [hnan.keyLe_iff h hp' hq', hnan.keyLe_iff h hq' hp']
  omega

theorem NoNan.pairwise_keyLe (hnan : g.NoNan shape)
    (h : g.orderedProperties shape = .ok properties) : properties.Pairwise g.KeyLe := by
  apply (rising_orderedProperties h (hnan.keysPlaced h)).imp_of_mem
  intro p q hp hq hle
  exact (hnan.keyLe_iff h (mem_objects_of_orderedProperties h hp)
    (mem_objects_of_orderedProperties h hq)).2 hle

theorem NoNan.pair_sublist_iff (hnan : g.NoNan shape)
    (h : g.orderedProperties shape = .ok properties) {p q : Term} (hp : p ∈ properties)
    (hq : q ∈ properties) (hpq : g.KeyLe p q) (hqp : g.KeyLe q p) :
    [p, q].Sublist properties ↔
      [p, q].Sublist (g.distinctObjects shape (.iri (sh "property"))) := by
  have hp' := mem_objects_of_orderedProperties h hp
  have hq' := mem_objects_of_orderedProperties h hq
  have hle := (hnan.keyLe_iff h hp' hq').1 hpq
  have hge := (hnan.keyLe_iff h hq' hp').1 hqp
  have hsame : g.placeOf q = g.placeOf p := by omega
  -- sorting keeps what is found at one place, and both are found there
  have hfilter := pair_sublist_filter_iff (P := fun r => g.placeOf r = g.placeOf p)
    (a := p) (b := q) (by simp) (by simpa using hsame)
  rw [← hfilter properties, filter_orderedProperties h (hnan.keysPlaced h), hfilter, distinctObjects]

theorem NoNan.unusable_last (hnan : g.NoNan shape)
    (h : g.orderedProperties shape = .ok properties) {p q : Term} (hp : p ∈ properties)
    (hq : q ∈ properties) {x : Double} (hx : g.usableOrder? p = some x)
    (hfinite : x.isInfinite = false) (hnone : g.usableOrder? q = none) :
    [p, q].Sublist properties := by
  apply pair_sublist_of_pairwise (hnan.pairwise_keyLe h) hp hq
  · rintro rfl
    rw [hx] at hnone
    cases hnone
  · unfold KeyLe
    rw [sortKey_of_unusable hnone, sortKey, hx, Option.getD_some, Double.infinity_le_eq_false hfinite]
    exact Bool.false_ne_true

/-- Properties without a usable order have the same key, so they stay in the order of the document. -/
theorem NoNan.filter_unusable (hnan : g.NoNan shape)
    (h : g.orderedProperties shape = .ok properties) :
    properties.filter (g.usableOrder? · = none) =
      (g.distinctObjects shape (.iri (sh "property"))).filter (g.usableOrder? · = none) := by
  -- they are all found at the place of infinity
  obtain ⟨v, hv⟩ := Double.exists_place (x := .infinity false) (by decide)
  have hplace : ∀ p ∈ properties, decide (g.usableOrder? p = none) = true →
      decide (g.placeOf p = v) = true := by
    intro p hp hnone
    have hkey := hnan.place_sortKey h (mem_objects_of_orderedProperties h hp)
    rw [sortKey_of_unusable (of_decide_eq_true hnone), hv, Option.some.injEq] at hkey
    exact decide_eq_true hkey.symm
  rw [filter_eq_filter_filter hplace, filter_orderedProperties h (hnan.keysPlaced h) v]
  apply (filter_eq_filter_filter _).symm
  intro p hp
  exact hplace p ((mem_orderedProperties_iff h).2 hp)

theorem NoNan.sortedStably (hnan : g.NoNan shape) (h : g.orderedProperties shape = .ok properties) :
    g.SortedStably (g.distinctObjects shape (.iri (sh "property"))) properties where
  total _ hp _ hq := hnan.total h hp hq
  trans _ _ _ := KeyLe.trans
  rising := hnan.pairwise_keyLe h
  ties p q hpq hqp := by
    constructor
    · intro hsub
      have hmem : ∀ r ∈ [p, q], r ∈ properties := fun r hr => hsub.subset hr
      exact (hnan.pair_sublist_iff h (hmem p (by simp)) (hmem q (by simp)) hpq hqp).1 hsub
    · intro hsub
      have hmem : ∀ r ∈ [p, q], r ∈ properties := fun r hr =>
        (mem_orderedProperties_iff h).2 (hsub.subset hr)
      exact (hnan.pair_sublist_iff h (hmem p (by simp)) (hmem q (by simp)) hpq hqp).2 hsub
  last _ hp _ hq _ hx hfinite hnone := hnan.unusable_last h hp hq hx hfinite hnone
  unordered := hnan.filter_unusable h

end Graph

/-- The properties of a shape, where they can be put in order, are its objects for `sh:property`, each
once, with their sort keys. Unless one of the keys is a `nan`, they come in the order of the keys, and
those with equal keys as they stand in the document. -/
theorem orderedProperties_sortedStably (g : Graph) (shape : Term) (properties : List Term)
    (h : g.orderedProperties shape = .ok properties) :
    properties.Perm (g.distinctObjects shape (.iri (sh "property"))) ∧
    (properties.map Term.key).Nodup ∧
    (∀ k, k ∈ properties.map Term.key ↔
      k ∈ (g.objects shape (.iri (sh "property"))).map Term.key) ∧
    (∀ p ∈ properties, g.orderOf p = .ok (g.sortKey p)) ∧
    (g.NoNan shape →
      g.SortedStably (g.distinctObjects shape (.iri (sh "property"))) properties) := by
  have hperm : properties.Perm (g.distinctObjects shape (.iri (sh "property"))) :=
    Graph.perm_of_orderedProperties h
  refine ⟨hperm, Graph.nodup_keys_of_orderedProperties h, fun k => ?_, fun p hp => ?_,
    fun hnan => hnan.sortedStably h⟩
  · rw [(hperm.map Term.key).mem_iff]
    exact mem_map_distinctBy
  · exact Graph.orderOf_of_mem h (Graph.mem_objects_of_orderedProperties h hp)

end Order

/-- A form whose fields have equal, missing and unreadable orders, one of them a year. -/
def formTriples : List Triple :=
  let shacl (name : String) : Term := .iri (sh name)
  let field (name : String) : Triple := ⟨exampleTerm "FormShape", shacl "property", .blank name⟩
  let order (name : String) (l : Literal) : Triple := ⟨.blank name, shacl "order", .literal l⟩
  [field "remark", field "city", field "street", field "name", field "title", field "date",
    field "year", order "city" ⟨"2", none, some (xsd "integer")⟩,
    order "street" ⟨"1.5", none, some (xsd "decimal")⟩,
    order "name" ⟨"1", none, none⟩,
    order "title" ⟨"1.0", none, some (xsd "double")⟩,
    order "date" ⟨"soon", none, none⟩,
    order "year" ⟨"2020", none, some (xsd "gYear")⟩]

open scoped Standard

theorem orderedProperties_formTriples :
    (Graph.ofList formTriples).orderedProperties (exampleTerm "FormShape") =
      .ok [.blank "name", .blank "title", .blank "street", .blank "city", .blank "remark",
        .blank "date", .blank "year"] ∧
    (Graph.ofList formTriples).NoNan (exampleTerm "FormShape") ∧
    (Graph.ofList formTriples).SortedStably
      [.blank "remark", .blank "city", .blank "street", .blank "name", .blank "title",
        .blank "date", .blank "year"]
      [.blank "name", .blank "title", .blank "street", .blank "city", .blank "remark",
        .blank "date", .blank "year"] := by
  have horder : (Graph.ofList formTriples).orderedProperties (exampleTerm "FormShape") =
      .ok [.blank "name", .blank "title", .blank "street", .blank "city", .blank "remark",
        .blank "date", .blank "year"] := by
    decide +kernel
  have hnan : (Graph.ofList formTriples).NoNan (exampleTerm "FormShape") := by
    unfold Graph.NoNan
    decide +kernel
  have hdocument : (Graph.ofList formTriples).distinctObjects (exampleTerm "FormShape")
      (.iri (sh "property")) = [.blank "remark", .blank "city", .blank "street", .blank "name",
        .blank "title", .blank "date", .blank "year"] := by
    decide +kernel
  obtain ⟨_, _, _, _, hsorted⟩ := orderedProperties_sortedStably _ _ _ horder
  refine ⟨horder, hnan, ?_⟩
  rw [← hdocument]
  exact hsorted hnan

end ShaclQuery
