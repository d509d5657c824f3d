import Mathlib.Data.List.Chain
import Mathlib.Data.List.Forall2
import Mathlib.Data.List.Perm.Basic
import ShaclQuery.Shape.Order

/-! # Sorting

Sorting by insertion rearranges a list whatever the comparison is, an order or not. The properties of
a shape are therefore the objects that the graph has for it, each once, in some order. Where the
comparison is that of places on a line, the list comes out sorted by these places, and elements with the
same place stay in the order in which they came. What the elements are besides does not matter.
-/

namespace ShaclQuery

/-! ## 1. Runs and insertions -/

section Elements

variable {α : Type}

theorem splitRun_append (next : α → α → Bool) (a : α) (l : List α) :
    (splitRun next a l).1 ++ (splitRun next a l).2 = l := by
  induction l generalizing a with
  | nil => rfl
  | cons b rest ih =>
    rw [splitRun]
    split
    · exact congrArg (b :: ·) (ih b)
    · rfl

theorem firstRun_perm (lt : α → α → Bool) (l : List α) :
    ((firstRun lt l).1 ++ (firstRun lt l).2).Perm l := by
  rcases l with _ | ⟨a, _ | ⟨b, rest⟩⟩
  · exact List.Perm.refl _
  · exact List.Perm.refl _
  · rw [firstRun]
    split
    · -- a falling run is turned round, the others stay behind it
      have hsplit := splitRun_append (fun x y => lt y x) b rest
      show ((a :: b :: (splitRun _ b rest).1).reverse ++ (splitRun _ b rest).2).Perm (a :: b :: rest)
      refine ((List.reverse_perm _).append_right _).trans ?_
      rw [List.cons_append, List.cons_append, hsplit]
    · have hsplit := splitRun_append (fun x y => !lt y x) b rest
      show (a :: b :: (splitRun _ b rest).1 ++ (splitRun _ b rest).2).Perm (a :: b :: rest)
      rw [List.cons_append, List.cons_append, hsplit]

theorem insertSorted_perm (lt : α → α → Bool) (l : List α) (x : α) :
    (insertSorted lt l x).Perm (x :: l) := by
  show (l.take (insertionPoint lt x l) ++ x :: l.drop (insertionPoint lt x l)).Perm (x :: l)
  refine List.perm_middle.trans ?_
  rw [List.take_append_drop]

theorem foldl_insertSorted_perm (lt : α → α → Bool) (run others : List α) :
    (others.foldl (insertSorted lt) run).Perm (run ++ others) := by
  induction others generalizing run with
  | nil => rw [List.append_nil]; exact List.Perm.refl run
  | cons x rest ih =>
    calc
      ((x :: rest).foldl (insertSorted lt) run).Perm (insertSorted lt run x ++ rest) := ih _
      (insertSorted lt run x ++ rest).Perm (x :: run ++ rest) :=
        (insertSorted_perm lt run x).append_right rest
      (x :: run ++ rest).Perm (run ++ x :: rest) := List.perm_middle.symm

theorem sortBy_perm (lt : α → α → Bool) (l : List α) : (sortBy lt l).Perm l :=
  (foldl_insertSorted_perm lt _ _).trans (firstRun_perm lt l)

/-! ## 2. Places -/

/-- On these elements the comparison is that of their places on a line. -/
def Placed (lt : α → α → Bool) (place : α → Int) (l : List α) : Prop :=
  ∀ a ∈ l, ∀ b ∈ l, (lt a b = true ↔ place a < place b)

def Rising (place : α → Int) (l : List α) : Prop := l.Pairwise fun a b => place a ≤ place b

variable {lt : α → α → Bool} {place : α → Int}

theorem Placed.of_subset {l l' : List α} (h : Placed lt place l) (hsub : ∀ a ∈ l', a ∈ l) :
    Placed lt place l' :=
  fun a ha b hb => h a (hsub a ha) b (hsub b hb)

theorem isChain_splitRun (next : α → α → Bool) (a : α) (l : List α) :
    (a :: (splitRun next a l).1).IsChain fun x y => next x y = true := by
  induction l generalizing a with
  | nil => exact List.IsChain.singleton a
  | cons b rest ih =>
    rw [splitRun]
    split
    · rename_i hnext
      exact List.isChain_cons_cons.2 ⟨hnext, ih b⟩
    · exact List.IsChain.singleton a

theorem rising_of_isChain {l : List α} (h : l.IsChain fun a b => place a ≤ place b) :
    Rising place l :=
  have : Trans (fun a b : α => place a ≤ place b) (fun a b : α => place a ≤ place b)
      (fun a b : α => place a ≤ place b) := ⟨Int.le_trans⟩
  List.isChain_iff_pairwise.1 h

theorem mem_of_mem_run {next : α → α → Bool} {a b : α} {rest : List α} {x : α}
    (hx : x ∈ a :: b :: (splitRun next b rest).1) : x ∈ a :: b :: rest := by
  rw [← splitRun_append next b rest, ← List.cons_append, ← List.cons_append]
  exact List.mem_append_left _ hx

/-- In a run that falls no two elements have the same place. -/
theorem pairwise_fallingRun {a b : α} {rest : List α} (h : Placed lt place (a :: b :: rest))
    (hfalls : lt b a = true) :
    (a :: b :: (splitRun (fun x y => lt y x) b rest).1).Pairwise fun x y => place y < place x := by
  have hchain : (a :: b :: (splitRun (fun x y => lt y x) b rest).1).IsChain
      fun x y => lt y x = true :=
    List.isChain_cons_cons.2 ⟨hfalls, isChain_splitRun _ b rest⟩
  have : Trans (fun x y : α => place y < place x) (fun x y : α => place y < place x)
      (fun x y : α => place y < place x) := ⟨fun hxy hyz => Int.lt_trans hyz hxy⟩
  apply List.isChain_iff_pairwise.1
  apply hchain.imp_of_mem_imp
  intro x y hx hy hlt
  exact (h y (mem_of_mem_run hy) x (mem_of_mem_run hx)).1 hlt

/-- A falling run is turned round, and strictly falling places leave no ties to keep. -/
theorem rising_firstRun {l : List α} (h : Placed lt place l) : Rising place (firstRun lt l).1 := by
  rcases l with _ | ⟨a, _ | ⟨b, rest⟩⟩
  · exact List.Pairwise.nil
  · exact List.pairwise_singleton _ a
  · rw [firstRun]
    split
    · rename_i hfalls
      apply List.pairwise_reverse.2
      exact (pairwise_fallingRun h hfalls).imp Int.le_of_lt
    · rename_i hrises
      have hchain : (a :: b :: (splitRun (fun x y => !lt y x) b rest).1).IsChain
          fun x y => (!lt y x) = true :=
        List.isChain_cons_cons.2 ⟨by simpa using hrises, isChain_splitRun _ b rest⟩
      apply rising_of_isChain
      apply hchain.imp_of_mem_imp
      intro x y hx hy hlt
      -- the run consists of elements of the list, where the comparison can be relied on
      have hnot : ¬place y < place x := fun hplace => by
        rw [(h y (mem_of_mem_run hy) x (mem_of_mem_run hx)).2 hplace] at hlt
        cases hlt
      omega

/-- In front of the place found for an element nothing is beyond it, and behind everything is. -/
theorem insertionPoint_separates {x : α} {l : List α}
    (h : ∀ a ∈ l, (lt x a = true ↔ place x < place a)) (hl : Rising place l) :
    ∃ front back, l = front ++ back ∧ insertionPoint lt x l = front.length ∧
      (∀ a ∈ front, place a ≤ place x) ∧ ∀ a ∈ back, place x < place a := by
  fun_induction insertionPoint lt x l with
  | case1 l hdrop =>
    -- no half is left only of an empty list
    have hlength := congrArg List.length hdrop
    rw [List.length_drop, List.length_nil] at hlength
    obtain rfl : l = [] := List.length_eq_zero_iff.1 (by omega)
    exact ⟨[], [], rfl, rfl, by simp, by simp⟩
  | case2 l middle upper hdrop hlt ih =>
    -- the upper half is beyond the middle, which is beyond the element
    have hsplit : l.take (l.length / 2) ++ middle :: upper = l := by
      rw [← hdrop, List.take_append_drop]
    generalize l.take (l.length / 2) = lower at hsplit ih ⊢
    subst hsplit
    obtain ⟨hlower, hupper, -⟩ := List.pairwise_append.1 hl
    obtain ⟨front, back, rfl, hpoint, hfront, hback⟩ :=
      ih (fun a ha => h a (List.mem_append_left _ ha)) hlower
    have hmiddle : place x < place middle := (h middle (by simp)).1 hlt
    refine ⟨front, back ++ middle :: upper, by simp, hpoint, hfront, ?_⟩
    intro a ha
    rcases List.mem_append.1 ha with ha | ha
    · exact hback a ha
    · rcases List.mem_cons.1 ha with rfl | ha
      · exact hmiddle
      · exact Int.lt_of_lt_of_le hmiddle ((List.pairwise_cons.1 hupper).1 a ha)
  | case3 l middle upper hdrop hlt ih =>
    -- the lower half is at most at the middle, which is at most at the element
    have hsplit : l.take (l.length / 2) ++ middle :: upper = l := by
      rw [← hdrop, List.take_append_drop]
    have hhalf : (l.take (l.length / 2)).length = l.length / 2 := by
      rw [List.length_take]
      omega
    generalize l.take (l.length / 2) = lower at hsplit hhalf
    rw [← hhalf]
    subst hsplit
    obtain ⟨-, hupper, hlower⟩ := List.pairwise_append.1 hl
    obtain ⟨front, back, rfl, hpoint, hfront, hback⟩ :=
      ih (fun a ha => h a (by simp [ha])) (List.pairwise_cons.1 hupper).2
    have hmiddle : place middle ≤ place x := by
      have hnot := mt (h middle (by simp)).2 hlt
      omega
    refine ⟨lower ++ middle :: front, back, by simp, ?_, ?_, hback⟩
    · rw [hpoint, List.length_append, List.length_cons]
      omega
    · intro a ha
      rcases List.mem_append.1 ha with ha | ha
      · exact Int.le_trans (hlower a ha middle (by simp)) hmiddle
      · rcases List.mem_cons.1 ha with rfl | ha
        · exact hmiddle
        · exact hfront a ha

theorem exists_insertSorted_eq {x : α} {l : List α} (h : Placed lt place (x :: l))
    (hl : Rising place l) : ∃ front back, l = front ++ back ∧
      insertSorted lt l x = front ++ x :: back ∧ (∀ a ∈ front, place a ≤ place x) ∧
      ∀ a ∈ back, place x < place a := by
  obtain ⟨front, back, rfl, hpoint, hfront, hback⟩ :=
    insertionPoint_separates (fun a ha => h x (by simp) a (List.mem_cons_of_mem x ha)) hl
  refine ⟨front, back, rfl, ?_, hfront, hback⟩
  rw [insertSorted, hpoint, List.take_left, List.drop_left]

theorem rising_insertSorted {x : α} {l : List α} (h : Placed lt place (x :: l))
    (hl : Rising place l) : Rising place (insertSorted lt l x) := by
  obtain ⟨front, back, rfl, hinsert, hfront, hback⟩ := exists_insertSorted_eq h hl
  rw [hinsert]
  obtain ⟨hf, hb, hfb⟩ := List.pairwise_append.1 hl
  refine List.pairwise_append.2 ⟨hf, List.pairwise_cons.2 ⟨fun a ha => ?_, hb⟩, fun a ha b hb => ?_⟩
  · exact Int.le_of_lt (hback a ha)
  · rcases List.mem_cons.1 hb with rfl | hb
    · exact hfront a ha
    · exact hfb a ha b hb

theorem Placed.next {x : α} {run rest : List α} (h : Placed lt place (run ++ x :: rest)) :
    Placed lt place (x :: run) := by
  apply h.of_subset
  intro a ha
  rcases List.mem_cons.1 ha with rfl | ha
  · simp
  · exact List.mem_append_left _ ha

theorem Placed.insertSorted {x : α} {run rest : List α} (h : Placed lt place (run ++ x :: rest)) :
    Placed lt place (insertSorted lt run x ++ rest) := by
  apply h.of_subset
  intro a ha
  have hperm := (insertSorted_perm lt run x).append_right rest
  simpa [or_left_comm] using hperm.subset ha

theorem rising_foldl_insertSorted {run others : List α} (h : Placed lt place (run ++ others))
    (hrun : Rising place run) : Rising place (others.foldl (insertSorted lt) run) := by
  induction others generalizing run with
  | nil => exact hrun
  | cons x rest ih => exact ih h.insertSorted (rising_insertSorted h.next hrun)

theorem Placed.firstRun {l : List α} (h : Placed lt place l) :
    Placed lt place ((firstRun lt l).1 ++ (firstRun lt l).2) :=
  h.of_subset fun _ ha => (firstRun_perm lt l).subset ha

/-- Where the comparison is that of places, the elements are sorted by their places. -/
theorem rising_sortBy {l : List α} (h : Placed lt place l) : Rising place (sortBy lt l) :=
  rising_foldl_insertSorted h.firstRun (rising_firstRun h)

/-! ## 3. Ties -/

theorem filter_reverse_of_falling {l : List α} (h : l.Pairwise fun a b => place b < place a)
    (v : Int) : l.reverse.filter (place · = v) = l.filter (place · = v) := by
  -- at most one element has the place, and a list of one element is its own reverse
  rw [List.filter_reverse]
  have hfalls := h.sublist (List.filter_sublist (p := fun a => place a = v))
  have hplace : ∀ a ∈ l.filter (place · = v), place a = v := by
    intro a ha
    simpa using (List.mem_filter.1 ha).2
  generalize l.filter (place · = v) = found at hfalls hplace
  rcases found with _ | ⟨a, _ | ⟨b, rest⟩⟩
  · rfl
  · rfl
  · have hlt := (List.pairwise_cons.1 hfalls).1 b (by simp)
    rw [hplace a (by simp), hplace b (by simp)] at hlt
    omega

theorem filter_firstRun {l : List α} (h : Placed lt place l) (v : Int) :
    ((firstRun lt l).1 ++ (firstRun lt l).2).filter (place · = v) = l.filter (place · = v) := by
  rcases l with _ | ⟨a, _ | ⟨b, rest⟩⟩
  · rfl
  · simp [firstRun]
  · rw [firstRun]
    split
    · rename_i hfalls
      show ((a :: b :: (splitRun _ b rest).1).reverse ++ (splitRun _ b rest).2).filter _ = _
      rw [List.filter_append, filter_reverse_of_falling (pairwise_fallingRun h hfalls),
        ← List.filter_append, List.cons_append, List.cons_append, splitRun_append]
    · show (a :: b :: (splitRun _ b rest).1 ++ (splitRun _ b rest).2).filter _ = _
      rw [List.cons_append, List.cons_append, splitRun_append]

/-- An element goes behind those of the same place. -/
theorem filter_insertSorted {x : α} {l : List α} (h : Placed lt place (x :: l))
    (hl : Rising place l) (v : Int) :
    (insertSorted lt l x).filter (place · = v) = (l ++ [x]).filter (place · = v) := by
  obtain ⟨front, back, rfl, hinsert, _, hback⟩ := exists_insertSorted_eq h hl
  rw [hinsert]
  by_cases hx : place x = v
  · -- everything behind the element is beyond it
    have hnone : back.filter (place · = v) = [] := by
      rw [List.filter_eq_nil_iff]
      intro a ha heq
      have hlt := hback a ha
      simp only [decide_eq_true_eq] at heq
      omega
    simp [List.filter_append, hx, hnone]
  · simp [List.filter_append, hx]

theorem filter_foldl_insertSorted {run others : List α} (h : Placed lt place (run ++ others))
    (hrun : Rising place run) (v : Int) :
    (others.foldl (insertSorted lt) run).filter (place · = v) =
      (run ++ others).filter (place · = v) := by
  induction others generalizing run with
  | nil => rw [List.append_nil]; rfl
  | cons x rest ih =>
    calc
      ((x :: rest).foldl (insertSorted lt) run).filter (place · = v)
        = (insertSorted lt run x ++ rest).filter (place · = v) :=
          ih h.insertSorted (rising_insertSorted h.next hrun)
      _ = (run ++ x :: rest).filter (place · = v) := by
          rw [List.filter_append, filter_insertSorted h.next hrun, ← List.filter_append,
            List.append_assoc, List.singleton_append]

/-- Elements with the same place stay in the order in which they came. -/
theorem filter_sortBy {l : List α} (h : Placed lt place l) (v : Int) :
    (sortBy lt l).filter (place · = v) = l.filter (place · = v) :=
  (filter_foldl_insertSorted h.firstRun (rising_firstRun h) v).trans (filter_firstRun h v)

end Elements

/-! ## 4. Lists of images -/

section Mapped

variable {α β : Type} (f : α → β)

variable (lt : α → α → Bool) (lt' : β → β → Bool) (h : ∀ a b, lt' (f a) (f b) = lt a b)

include h

end Mapped

/-! ## 5. Properties in order -/

theorem mapM_eq_ok_iff {ε α β : Type} {f : α → Except ε β} {l : List α} {bs : List β} :
    l.mapM f = .ok bs ↔ List.Forall₂ (fun a b => f a = .ok b) l bs := by
  induction l generalizing bs with
  | nil =>
    constructor
    · intro h
      cases h
      exact List.Forall₂.nil
    · intro h
      cases h
      rfl
  | cons a rest ih =>
    rw [List.mapM_cons, List.forall₂_cons_left_iff]
    simp only [← ih]
    cases f a with
    | error e => simp [bind, Except.bind]
    | ok b =>
      cases rest.mapM f with
      | error e => simp [bind, Except.bind]
      | ok more =>
        show Except.ok (b :: more) = Except.ok bs ↔ _
        simp [eq_comm]

theorem exists_mapM_eq_ok {ε α β : Type} {f : α → Except ε β} {l : List α}
    (h : ∀ a ∈ l, ∃ b, f a = .ok b) : ∃ bs, l.mapM f = .ok bs := by
  induction l with
  | nil => exact ⟨[], rfl⟩
  | cons a rest ih =>
    obtain ⟨b, hb⟩ := h a List.mem_cons_self
    obtain ⟨bs, hbs⟩ := ih fun c hc => h c (List.mem_cons_of_mem a hc)
    exact ⟨b :: bs, mapM_eq_ok_iff.2 (.cons hb (mapM_eq_ok_iff.1 hbs))⟩

theorem exists_mem_left_of_mem {α β : Type} {R : α → β → Prop} {l : List α} {m : List β}
    (h : List.Forall₂ R l m) {b : β} (hb : b ∈ m) : ∃ a ∈ l, R a b := by
  induction h with
  | nil => cases hb
  | @cons a b' l m hfirst _ ih =>
    rcases List.mem_cons.1 hb with rfl | hb
    · exact ⟨a, List.mem_cons_self, hfirst⟩
    · obtain ⟨c, hc, hR⟩ := ih hb
      exact ⟨c, List.mem_cons_of_mem a hc, hR⟩

theorem Number.Double.lt_iff {a b : Number.Double} :
    a.lt b = true ↔ ∃ x y, a.place = some x ∧ b.place = some y ∧ x < y := by
  unfold Number.Double.lt
  cases a.place with
  | none => simp
  | some x =>
    cases b.place with
    | none => simp
    | some y => simp

namespace Graph

variable [ForeignTypes] {g : Graph} {shape : Term}

def keyedProperties (g : Graph) (shape : Term) : Except OrderError (List (Number.Double × Term)) :=
  (distinctBy Term.key (g.objects shape (.iri (Vocabulary.sh "property")))).mapM fun p =>
    (g.orderOf p).map fun x => (x, p)

theorem orderedProperties_eq_map (g : Graph) (shape : Term) :
    g.orderedProperties shape = (g.keyedProperties shape).map fun keyed =>
      (sortBy (fun a b => a.1.lt b.1) keyed).map (·.2) := by
  show (g.keyedProperties shape).bind _ = _
  cases g.keyedProperties shape with
  | error e => rfl
  | ok keyed => rfl

theorem exists_keyed_of_orderedProperties {properties : List Term}
    (h : g.orderedProperties shape = .ok properties) :
    ∃ keyed, g.keyedProperties shape = .ok keyed ∧
      (sortBy (fun a b => a.1.lt b.1) keyed).map (·.2) = properties := by
  rw [orderedProperties_eq_map] at h
  cases hkeyed : g.keyedProperties shape with
  | error e =>
    rw [hkeyed] at h
    cases h
  | ok keyed =>
    rw [hkeyed] at h
    cases h
    exact ⟨keyed, rfl, rfl⟩

theorem forall₂_of_keyedProperties {keyed : List (Number.Double × Term)}
    (h : g.keyedProperties shape = .ok keyed) :
    List.Forall₂ (fun p a => p = a.2 ∧ g.orderOf p = .ok a.1)
      (distinctBy Term.key (g.objects shape (.iri (Vocabulary.sh "property")))) keyed := by
  apply (mapM_eq_ok_iff.1 h).imp
  intro p a ha
  cases horder : g.orderOf p with
  | error e =>
    rw [horder] at ha
    cases ha
  | ok x =>
    rw [horder] at ha
    cases ha
    exact ⟨rfl, rfl⟩

theorem map_snd_of_keyedProperties {keyed : List (Number.Double × Term)}
    (h : g.keyedProperties shape = .ok keyed) :
    keyed.map (·.2) = distinctBy Term.key (g.objects shape (.iri (Vocabulary.sh "property"))) := by
  rw [← List.forall₂_eq_eq_eq, List.forall₂_map_left_iff]
  exact (forall₂_of_keyedProperties h).flip.imp fun _ _ ha => ha.1.symm

theorem orderOf_of_mem_keyed {keyed : List (Number.Double × Term)}
    (h : g.keyedProperties shape = .ok keyed) {a : Number.Double × Term} (ha : a ∈ keyed) :
    a.2 ∈ g.objects shape (.iri (Vocabulary.sh "property")) ∧ g.orderOf a.2 = .ok a.1 := by
  obtain ⟨p, hp, rfl, horder⟩ := exists_mem_left_of_mem (forall₂_of_keyedProperties h) ha
  exact ⟨distinctBy_subset _ _ hp, horder⟩

/-- Properties that can be put in order are the objects for `sh:property`, each once. -/
theorem perm_of_orderedProperties {properties : List Term}
    (h : g.orderedProperties shape = .ok properties) :
    properties.Perm (distinctBy Term.key (g.objects shape (.iri (Vocabulary.sh "property")))) := by
  obtain ⟨keyed, hkeyed, rfl⟩ := exists_keyed_of_orderedProperties h
  rw [← map_snd_of_keyedProperties hkeyed]
  exact (sortBy_perm (fun a b : Number.Double × Term => a.1.lt b.1) keyed).map (·.2)

theorem nodup_keys_of_orderedProperties {properties : List Term}
    (h : g.orderedProperties shape = .ok properties) : (properties.map Term.key).Nodup :=
  ((perm_of_orderedProperties h).map Term.key).nodup_iff.2 (nodup_map_distinctBy Term.key _)

theorem mem_objects_of_orderedProperties {property : Term} {properties : List Term}
    (h : g.orderedProperties shape = .ok properties) (hmem : property ∈ properties) :
    property ∈ g.objects shape (.iri (Vocabulary.sh "property")) :=
  distinctBy_subset _ _ ((perm_of_orderedProperties h).mem_iff.1 hmem)

theorem orderOf_congr (g : Graph) {property property' : Term} (h : property.key = property'.key) :
    g.orderOf property = g.orderOf property' := by
  unfold orderOf value? objects Term.same
  rw [h]

/-- Properties can be put in order when each of them has a sort key. -/
theorem orderedProperties_isOk_iff (g : Graph) (shape : Term) :
    (∃ properties, g.orderedProperties shape = .ok properties) ↔
      ∀ p ∈ g.objects shape (.iri (Vocabulary.sh "property")), ∃ x, g.orderOf p = .ok x := by
  constructor
  · rintro ⟨properties, h⟩ p hp
    obtain ⟨keyed, hkeyed, _⟩ := exists_keyed_of_orderedProperties h
    -- one of the properties that are kept is the same term, and has the same key
    obtain ⟨q, hq, hkey⟩ := exists_mem_distinctBy Term.key _ hp
    obtain ⟨a, _, _, horder⟩ := exists_mem_left_of_mem (forall₂_of_keyedProperties hkeyed).flip hq
    exact ⟨a.1, (g.orderOf_congr hkey).symm.trans horder⟩
  · intro h
    obtain ⟨keyed, hkeyed⟩ : ∃ keyed, g.keyedProperties shape = .ok keyed := by
      apply exists_mapM_eq_ok
      intro p hp
      obtain ⟨x, hx⟩ := h p (distinctBy_subset _ _ hp)
      exact ⟨(x, p), by rw [hx]; rfl⟩
    rw [orderedProperties_eq_map, hkeyed]
    exact ⟨_, rfl⟩

def placeOf (g : Graph) (property : Term) : Int :=
  ((g.orderOf property).toOption.bind Number.Double.place).getD 0

theorem placeOf_eq {property : Term} {x : Number.Double} (h : g.orderOf property = .ok x) :
    g.placeOf property = x.place.getD 0 := by
  rw [placeOf, h]
  rfl

/-- The sort keys of the properties of a shape compare like their places. -/
def KeysPlaced (g : Graph) (shape : Term) : Prop :=
  ∀ p ∈ g.objects shape (.iri (Vocabulary.sh "property")),
    ∀ q ∈ g.objects shape (.iri (Vocabulary.sh "property")), ∀ x y, g.orderOf p = .ok x →
      g.orderOf q = .ok y → (x.lt y = true ↔ g.placeOf p < g.placeOf q)

theorem KeysPlaced.placed {keyed : List (Number.Double × Term)} (h : g.KeysPlaced shape)
    (hkeyed : g.keyedProperties shape = .ok keyed) :
    Placed (fun a b => a.1.lt b.1) (fun a => g.placeOf a.2) keyed := by
  intro a ha b hb
  obtain ⟨hp, hx⟩ := orderOf_of_mem_keyed hkeyed ha
  obtain ⟨hq, hy⟩ := orderOf_of_mem_keyed hkeyed hb
  exact h _ hp _ hq _ _ hx hy

/-- Where sort keys compare like their places, properties in order are sorted by their places. -/
theorem rising_orderedProperties {properties : List Term}
    (h : g.orderedProperties shape = .ok properties) (hplaced : g.KeysPlaced shape) :
    Rising g.placeOf properties := by
  obtain ⟨keyed, hkeyed, rfl⟩ := exists_keyed_of_orderedProperties h
  exact List.pairwise_map.2 (rising_sortBy (hplaced.placed hkeyed))

/-- Properties with the same place are in the order of the graph. -/
theorem filter_orderedProperties {properties : List Term}
    (h : g.orderedProperties shape = .ok properties) (hplaced : g.KeysPlaced shape) (v : Int) :
    properties.filter (g.placeOf · = v) =
      (distinctBy Term.key (g.objects shape (.iri (Vocabulary.sh "property")))).filter
        (g.placeOf · = v) := by
  obtain ⟨keyed, hkeyed, rfl⟩ := exists_keyed_of_orderedProperties h
  have hties := congrArg (List.map Prod.snd) (filter_sortBy (hplaced.placed hkeyed) v)
  rw [← map_snd_of_keyedProperties hkeyed, List.filter_map, List.filter_map]
  exact hties

end Graph

end ShaclQuery
