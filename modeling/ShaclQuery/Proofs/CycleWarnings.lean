import Mathlib.Data.List.Induction
import ShaclQuery.Proofs.Construct
import ShaclQuery.Proofs.Depth

/-! # Warnings about circles

Compiling a shape walks through it twice, for the pattern and for the template, and both walks report the
properties whose nested shape they do not enter. In terms of the table these are the index paths that
come back: along such a path the keys of the shapes are pairwise different up to the last shape, whose
key is among them. Both walks report each of these paths once, in lexicographic order, so a circle that
is met on several ways is reported for each of them.
-/

namespace ShaclQuery

/-! ## 1. Notices of the two walks -/

theorem Logged.notices_andThen {ε α β : Type} {x : Logged ε α} {a : α} (h : x.result = .ok a)
    (f : α → Logged ε β) : (x.andThen f).notices = x.notices ++ (f a).notices := by
  unfold andThen
  rw [h]

namespace Branches

/-- The properties whose nested shape is not entered: their index paths, the first property having
position `i`, and what is reported of them. -/
def returns : Branches → Nat → List (List Nat × Notice)
  | .nil, _ => []
  | .leaf _ rest, i => rest.returns (i + 1)
  | .cyclic path shape rest, i => ([i], .truncated shape path) :: rest.returns (i + 1)
  | .nested _ _ inner rest, i =>
    (inner.returns 0).map (fun r => (i :: r.1, r.2)) ++ rest.returns (i + 1)

def reports (b : Branches) : List Notice := (b.returns 0).map Prod.snd

theorem map_snd_returns (b : Branches) (i : Nat) : (b.returns i).map Prod.snd = b.reports := by
  unfold reports
  -- two positions at once, so that the induction can move on both sides
  suffices h : ∀ j, (b.returns i).map Prod.snd = (b.returns j).map Prod.snd from h 0
  induction b generalizing i with
  | nil => exact fun j => rfl
  | leaf path rest ih => exact fun j => ih (i + 1) (j + 1)
  | cyclic path shape rest ih =>
    intro j
    rw [returns, returns, List.map_cons, List.map_cons, ih (i + 1) (j + 1)]
  | nested path targets inner rest _ ih =>
    intro j
    rw [returns, returns, List.map_append, List.map_append, List.map_map, List.map_map,
      ih (i + 1) (j + 1)]
    rfl

theorem reports_nested (path : Option Term) (targets : List Term) (inner rest : Branches) :
    (nested path targets inner rest).reports = inner.reports ++ rest.reports := by
  rw [reports, returns, List.map_append, List.map_map, map_snd_returns rest]
  rfl

theorem reports_cyclic (path shape : Option Term) (rest : Branches) :
    (cyclic path shape rest).reports = .truncated shape path :: rest.reports := by
  rw [reports, returns, List.map_cons, map_snd_returns rest]

theorem reports_leaf (path : Option Term) (rest : Branches) :
    (leaf path rest).reports = rest.reports := by
  rw [reports, returns, map_snd_returns rest]

/-- The notices of the pattern do not depend on focus, prefix and position. -/
theorem notices_patterns (b : Branches) (focus : Focus) (objectPrefix : String) (i : Nat) :
    (b.patterns focus objectPrefix i).notices = b.reports := by
  induction b generalizing focus objectPrefix i with
  | nil => rfl
  | leaf path rest ih =>
    obtain ⟨more, hmore, _⟩ := rest.exists_patterns_result focus objectPrefix (i + 1)
    rw [patterns, Logged.notices_andThen hmore, ih, reports_leaf]
    exact List.append_nil _
  | cyclic path shape rest ih =>
    obtain ⟨more, hmore, _⟩ := rest.exists_patterns_result focus objectPrefix (i + 1)
    rw [patterns, Logged.notices_andThen (Logged.result_note _), Logged.notices_andThen hmore, ih,
      reports_cyclic]
    exact congrArg _ (List.append_nil _)
  | nested path targets inner rest ihInner ihRest =>
    let value := focus.object i objectPrefix
    obtain ⟨branches, hbranches, _, hempty⟩ := inner.exists_patterns_result value "" 0
    obtain ⟨more, hmore, _⟩ := rest.exists_patterns_result focus objectPrefix (i + 1)
    have hinside := assemble_eq_ok targets value hempty
    rw [patterns, Logged.notices_andThen hbranches, Logged.notices_andThen hinside,
      Logged.notices_andThen hmore, ihInner, ihRest, reports_nested]
    exact congrArg _ (List.append_nil _)

theorem notices_walk {ε : Type} (b : Branches) (focus : Focus) (objectPrefix : String) (i : Nat) :
    (b.walk focus objectPrefix i : Logged ε _).notices = b.reports := by
  induction b generalizing focus objectPrefix i with
  | nil => rfl
  | leaf path rest ih =>
    rw [walk, Logged.notices_andThen (rest.walk_result focus objectPrefix (i + 1)), ih, reports_leaf]
    exact List.append_nil _
  | cyclic path shape rest ih =>
    rw [walk, Logged.notices_andThen (Logged.result_note _),
      Logged.notices_andThen (rest.walk_result focus objectPrefix (i + 1)), ih, reports_cyclic]
    exact congrArg _ (List.append_nil _)
  | nested path targets inner rest ihInner ihRest =>
    let value := focus.object i objectPrefix
    rw [walk, Logged.notices_andThen (inner.walk_result value "" 0),
      Logged.notices_andThen (rest.walk_result focus objectPrefix (i + 1)), ihInner, ihRest,
      reports_nested]
    exact congrArg _ (List.append_nil _)

end Branches

namespace Unfolding

theorem notices_wherePattern (u : Unfolding) (focus : Focus) (objectPrefix : String) :
    (u.wherePattern focus objectPrefix).notices = u.branches.reports := by
  obtain ⟨ps, hps, _⟩ := u.branches.exists_patterns_result focus objectPrefix 0
  rw [wherePattern, Logged.notices_andThen hps, Branches.notices_patterns]
  exact List.append_nil _

theorem notices_template {ε : Type} (u : Unfolding) (focus : Focus) (objectPrefix : String) :
    (u.template focus objectPrefix : Logged ε _).notices = u.branches.reports := by
  rw [template, Logged.notices_andThen (u.branches.walk_result focus objectPrefix 0),
    Branches.notices_walk]
  exact List.append_nil _

/-- Compiling makes the reports of both walks. -/
theorem notices_compile (u : Unfolding) {subjectVariable : Option String} {focusNode : Option Term}
    {focus : Focus} (hfocus : Focus.resolve subjectVariable focusNode = .ok focus)
    (objectPrefix : String) :
    (u.compile subjectVariable focusNode objectPrefix).notices =
      u.branches.reports ++ u.branches.reports := by
  have hpattern : ((u.wherePattern focus objectPrefix).mapError CompileError.union).result =
      .ok (u.pattern focus objectPrefix) := by
    rw [Logged.result_mapError, wherePattern_result]
    rfl
  rw [compile, Logged.notices_andThen (a := focus) (by rw [hfocus]; rfl),
    Logged.notices_andThen hpattern, Logged.notices_andThen (template_result u focus objectPrefix),
    notices_template]
  change [] ++ ((u.wherePattern focus objectPrefix).notices ++ (u.branches.reports ++ [])) = _
  rw [notices_wherePattern, List.nil_append, List.append_nil]

end Unfolding

/-! ## 2. The order of the reports -/

/-- Reported paths are among the index paths of the properties, in their order. -/
theorem Branches.map_fst_returns_sublist (b : Branches) (i : Nat) :
    ((b.returns i).map Prod.fst).Sublist (b.paths i) := by
  induction b generalizing i with
  | nil => exact List.Sublist.slnil
  | leaf path rest ih => exact (ih (i + 1)).cons _
  | cyclic path shape rest ih =>
    rw [returns, List.map_cons, paths]
    exact (ih (i + 1)).cons_cons _
  | nested path targets inner rest ihInner ihRest =>
    have hinner : ((inner.returns 0).map fun r => i :: r.1).Sublist
        ((inner.paths 0).map (i :: ·)) := by
      simpa only [List.map_map, Function.comp_def] using (ihInner 0).map (i :: ·)
    rw [returns, List.map_append, List.map_map, paths]
    exact (hinner.append (ihRest (i + 1))).cons _

def Descent.returns (path : Option Term) (n : Nat) : Descent → List (List Nat × Notice)
  | .none => []
  | .cyclic id => [([n], .truncated id path)]
  | .shape u => (u.branches.returns 0).map fun r => (n :: r.1, r.2)

theorem Branches.returns_eq_flatMap (b : Branches) (i : Nat) :
    b.returns i = (b.toList.zipIdx i).flatMap fun x => x.1.2.returns x.1.1 x.2 := by
  induction b generalizing i with
  | nil => rfl
  | leaf path rest ih => rw [returns, ih, toList]; rfl
  | cyclic path shape rest ih => rw [returns, ih, toList]; rfl
  | nested path targets inner rest _ ih => rw [returns, ih, toList]; rfl

namespace Unfolding

/-- A reported path ends at a property whose shape is not entered, or goes on below a shape that is. -/
theorem mem_returns {u : Unfolding} {path : List Nat} {notice : Notice} :
    (path, notice) ∈ u.branches.returns 0 ↔
      (∃ n p shape, u.branches.toList[n]? = some (p, .cyclic shape) ∧ path = [n] ∧
        notice = .truncated shape p) ∨
      ∃ n v rest, u.child? n = some v ∧ (rest, notice) ∈ v.branches.returns 0 ∧ path = n :: rest := by
  rw [Branches.returns_eq_flatMap, List.mem_flatMap]
  constructor
  · rintro ⟨⟨⟨p, d⟩, n⟩, hmem, hreturn⟩
    rw [List.mk_mem_zipIdx_iff_getElem?] at hmem
    cases d with
    | none => cases hreturn
    | cyclic shape =>
      cases List.mem_singleton.1 hreturn
      exact .inl ⟨n, p, shape, hmem, rfl, rfl⟩
    | shape v =>
      obtain ⟨⟨rest, notice'⟩, hrest, heq⟩ := List.mem_map.1 hreturn
      cases heq
      exact .inr ⟨n, v, rest, child?_eq_some_iff.2 ⟨_, hmem, rfl⟩, hrest, rfl⟩
  · rintro (⟨n, p, shape, hmem, rfl, rfl⟩ | ⟨n, v, rest, hchild, hrest, rfl⟩)
    · exact ⟨((p, .cyclic shape), n), List.mk_mem_zipIdx_iff_getElem?.2 hmem,
        List.mem_singleton_self _⟩
    · obtain ⟨⟨p, d⟩, hmem, hd⟩ := child?_eq_some_iff.1 hchild
      cases d with
      | none => cases hd
      | cyclic shape => cases hd
      | shape w =>
        cases hd
        exact ⟨((p, .shape v), n), List.mk_mem_zipIdx_iff_getElem?.2 hmem,
          List.mem_map.2 ⟨(rest, notice), hrest, rfl⟩⟩

theorem nil_notMem_returns {u : Unfolding} {notice : Notice} :
    ([], notice) ∉ u.branches.returns 0 := by
  rw [mem_returns]
  rintro (⟨n, p, shape, _, hnil, _⟩ | ⟨n, v, rest, _, _, hnil⟩) <;> cases hnil

end Unfolding

/-! ## 3. Paths that come back -/

namespace ShapeTable

/-- An index path comes back: the shapes up to its last one have pairwise different keys, and the key of
the last one is among them. -/
def ComesBack (tbl : ShapeTable) (root : Nat) (path : List Nat) : Prop :=
  ∃ trail j, tbl.trail? root path = some (trail ++ [j]) ∧ (trail.map tbl.key).Nodup ∧
    tbl.key j ∈ trail.map tbl.key

/-- The report about the property that an index path ends with: it names the shape nested in the
property, by its identifier, and the path of the property. -/
def noticeAt? (tbl : ShapeTable) (i : Nat) : List Nat → Option Notice
  | [] => none
  | [n] => do
    let p ← (tbl[i]?).bind fun s => s.active[n]?
    let nested ← p.node.bind (tbl[·]?)
    some (.truncated nested.id p.path)
  | n :: rest => do
    let p ← (tbl[i]?).bind fun s => s.active[n]?
    p.node.bind fun j => tbl.noticeAt? j rest

variable {tbl : ShapeTable} {above : List ShapeKey} {i : Nat}

theorem noticeAt?_singleton {n j : Nat} {p : PropertyShape} {nested : NodeShape}
    (hp : ((tbl[i]?).bind fun s => s.active[n]?) = some p) (hj : p.node = some j)
    (hnested : tbl[j]? = some nested) :
    tbl.noticeAt? i [n] = some (.truncated nested.id p.path) := by
  simp only [noticeAt?, hp, hj, Option.bind_some, hnested, Option.bind_eq_bind]

theorem noticeAt?_cons_cons {n m j : Nat} {rest : List Nat} {p : PropertyShape}
    (hp : ((tbl[i]?).bind fun s => s.active[n]?) = some p) (hj : p.node = some j) :
    tbl.noticeAt? i (n :: m :: rest) = tbl.noticeAt? j (m :: rest) := by
  simp only [noticeAt?, hp, hj, Option.bind_some, Option.bind_eq_bind]

/-- Where the shapes along an index path exist, there is a property to report at its end. -/
theorem exists_noticeAt? {n : Nat} {rest trail : List Nat}
    (h : tbl.trail? i (n :: rest) = some trail) :
    ∃ notice, tbl.noticeAt? i (n :: rest) = some notice := by
  induction rest generalizing i n trail with
  | nil =>
    obtain ⟨j, hnode, hj⟩ := Option.bind_eq_some_iff.1 h
    obtain ⟨p, hp, hpnode⟩ := Option.bind_eq_some_iff.1 hnode
    obtain ⟨tail, htail, _⟩ := Option.map_eq_some_iff.1 hj
    have hlt : j < tbl.length := (trail?_cases htail).1
    exact ⟨_, noticeAt?_singleton hp hpnode (List.getElem?_eq_getElem hlt)⟩
  | cons m rest ih =>
    obtain ⟨j, hnode, hj⟩ := Option.bind_eq_some_iff.1 h
    obtain ⟨p, hp, hpnode⟩ := Option.bind_eq_some_iff.1 hnode
    obtain ⟨tail, htail, _⟩ := Option.map_eq_some_iff.1 hj
    rw [noticeAt?_cons_cons hp hpnode]
    exact ih htail

/-- A trail is followed from its first shape on. -/
theorem trail?_cons_eq_some_iff {n k : Nat} {rest trail : List Nat} :
    tbl.trail? i (n :: rest) = some (trail ++ [k]) ↔
      ∃ j tail, ((tbl[i]?).bind fun s => s.active[n]?).bind (·.node) = some j ∧
        tbl.trail? j rest = some (tail ++ [k]) ∧ trail = i :: tail := by
  rw [trail?, Option.bind_eq_some_iff]
  constructor
  · rintro ⟨j, hj, h⟩
    obtain ⟨found, hfound, heq⟩ := Option.map_eq_some_iff.1 h
    obtain ⟨_, more, rfl, _⟩ := trail?_cases hfound
    -- what follows the first shape is not empty, and ends with the last shape of the whole
    have hsplit : j :: more = (j :: more).dropLast ++ [(j :: more).getLast (by simp)] :=
      (List.dropLast_append_getLast (by simp)).symm
    rw [hsplit, ← List.cons_append] at heq
    obtain ⟨htrail, hlast⟩ := List.append_inj' heq rfl
    rw [List.singleton_inj] at hlast
    exact ⟨j, _, hj, by rw [hfound, ← hlast, ← hsplit], htrail.symm⟩
  · rintro ⟨j, tail, hj, htail, rfl⟩
    exact ⟨j, hj, by rw [htail]; rfl⟩

def ComesBackBelow (tbl : ShapeTable) (above : List ShapeKey) (i : Nat) (path : List Nat) : Prop :=
  ∃ trail j, tbl.trail? i path = some (trail ++ [j]) ∧ tbl.FreshTrail above trail ∧
    (tbl.key j ∈ trail.map tbl.key ∨ tbl.key j ∈ above)

theorem comesBackBelow_nil_iff {path : List Nat} :
    tbl.ComesBackBelow [] i path ↔ tbl.ComesBack i path := by
  simp only [ComesBackBelow, ComesBack, freshTrail_nil_iff, List.not_mem_nil, or_false]

/-- The nested shape of the last property is the one that is met again. -/
theorem comesBackBelow_singleton (hkey : tbl.key i ∉ above) {n : Nat} :
    tbl.ComesBackBelow above i [n] ↔
      ∃ j, ((tbl[i]?).bind fun s => s.active[n]?).bind (·.node) = some j ∧ j < tbl.length ∧
        tbl.key j ∈ tbl.key i :: above := by
  simp only [ComesBackBelow, trail?_cons_eq_some_iff]
  constructor
  · rintro ⟨trail, k, ⟨j, tail, hj, htail, rfl⟩, _, hk⟩
    have hlt : j < tbl.length := (trail?_cases htail).1
    rw [trail?, if_pos hlt, Option.some_inj, ← List.nil_append [j]] at htail
    obtain ⟨rfl, hjk⟩ := List.append_inj' htail rfl
    rw [List.singleton_inj] at hjk
    subst hjk
    refine ⟨j, hj, hlt, ?_⟩
    simpa using hk
  · rintro ⟨j, hj, hlt, hmem⟩
    refine ⟨[i], j, ⟨j, [], hj, by rw [trail?, if_pos hlt]; rfl, rfl⟩, ?_, ?_⟩
    · exact freshTrail_cons.2 ⟨hkey, List.nodup_nil, fun _ h => absurd h List.not_mem_nil⟩
    · simpa using hmem

/-- Earlier properties lead to shapes that are new. -/
theorem comesBackBelow_cons_cons (hkey : tbl.key i ∉ above) {n m : Nat} {rest : List Nat} :
    tbl.ComesBackBelow above i (n :: m :: rest) ↔
      ∃ j, ((tbl[i]?).bind fun s => s.active[n]?).bind (·.node) = some j ∧ j < tbl.length ∧
        tbl.key j ∉ tbl.key i :: above ∧ tbl.ComesBackBelow (tbl.key i :: above) j (m :: rest) := by
  simp only [ComesBackBelow]
  constructor
  · rintro ⟨trail, k, htrail, hfresh, hk⟩
    obtain ⟨j, tail, hj, htail, rfl⟩ := trail?_cons_eq_some_iff.1 htrail
    obtain ⟨j', tail', hj', htail', rfl⟩ := trail?_cons_eq_some_iff.1 htail
    have hinner := (freshTrail_cons.1 hfresh).2
    refine ⟨j, hj, (trail?_cases htail).1, (freshTrail_cons.1 hinner).1, _, k, htail, hinner, ?_⟩
    simp only [List.map_cons, List.mem_cons] at hk ⊢
    tauto
  · rintro ⟨j, hj, _, _, tail, k, htail, hfresh, hk⟩
    refine ⟨i :: tail, k, trail?_cons_eq_some_iff.2 ⟨j, tail, hj, htail, rfl⟩,
      freshTrail_cons.2 ⟨hkey, hfresh⟩, ?_⟩
    simp only [List.map_cons, List.mem_cons] at hk ⊢
    tauto

theorem descent_eq_cyclic_iff {path : List ShapeKey} {p : PropertyShape} {id : Option Term} :
    tbl.descent path p = .cyclic id ↔
      ∃ j nested, p.node = some j ∧ tbl[j]? = some nested ∧ tbl.key j ∈ path ∧ nested.id = id := by
  unfold descent
  cases hnode : p.node with
  | none => simp
  | some j =>
    cases hnested : tbl[j]? with
    | none => simp [hnested]
    | some nested => by_cases hpath : tbl.key j ∈ path <;> simp [hnested, hpath]

/-- The reports of a shape in terms of the table: at a property whose nested shape is met again, and
below one whose nested shape is new. -/
theorem cons_mem_returns_unfoldBelow (hi : i < tbl.length) (hkey : tbl.key i ∉ above) {n : Nat}
    {rest : List Nat} {notice : Notice} :
    (n :: rest, notice) ∈ (tbl.unfoldBelow above i).branches.returns 0 ↔
      ∃ p j nested, ((tbl[i]?).bind fun s => s.active[n]?) = some p ∧ p.node = some j ∧
        tbl[j]? = some nested ∧
        (tbl.key j ∈ tbl.key i :: above ∧ rest = [] ∧ notice = .truncated nested.id p.path ∨
          tbl.key j ∉ tbl.key i :: above ∧
            (rest, notice) ∈ (tbl.unfoldBelow (tbl.key i :: above) j).branches.returns 0) := by
  have hlist : (tbl.unfoldBelow above i).branches.toList =
      tbl[i].active.map fun p => (p.path, tbl.descent (tbl.key i :: above) p) := by
    rw [unfoldBelow_eq hi hkey, Branches.toList_ofList]
  -- the first step of the path is cut off or leads into a nested shape, on both sides
  rw [Unfolding.mem_returns, List.getElem?_eq_getElem hi, Option.bind_some]
  constructor
  · rintro (⟨n', path, shape, hcyclic, heq, rfl⟩ | ⟨n', v, rest', hchild, hrest, heq⟩)
    · obtain ⟨rfl, rfl⟩ := List.cons.inj heq
      rw [hlist, List.getElem?_map] at hcyclic
      obtain ⟨p, hp, hdescent⟩ := Option.map_eq_some_iff.1 hcyclic
      obtain ⟨rfl, hback⟩ := Prod.mk.inj hdescent
      obtain ⟨j, nested, hj, hnested, hmem, rfl⟩ := descent_eq_cyclic_iff.1 hback
      exact ⟨p, j, nested, hp, hj, hnested, .inl ⟨hmem, rfl, rfl⟩⟩
    · obtain ⟨rfl, rfl⟩ := List.cons.inj heq
      rw [child?_unfoldBelow hi hkey] at hchild
      obtain ⟨j, hnode, hv⟩ := Option.bind_eq_some_iff.1 hchild
      obtain ⟨p, hp, hj⟩ := Option.bind_eq_some_iff.1 hnode
      obtain ⟨⟨hlt, hnew⟩, hentered⟩ := Option.ite_none_right_eq_some.1 hv
      cases hentered
      exact ⟨p, j, tbl[j], hp, hj, List.getElem?_eq_getElem hlt, .inr ⟨hnew, hrest⟩⟩
  · rintro ⟨p, j, nested, hp, hj, hnested, ⟨hmem, rfl, rfl⟩ | ⟨hnew, hrest⟩⟩
    · refine .inl ⟨n, p.path, nested.id, ?_, rfl, rfl⟩
      rw [hlist, List.getElem?_map, hp, Option.map_some,
        descent_eq_cyclic_iff.2 ⟨j, nested, hj, hnested, hmem, rfl⟩]
    · refine .inr ⟨n, _, rest, ?_, hrest, rfl⟩
      obtain ⟨hlt, _⟩ := List.getElem?_eq_some_iff.1 hnested
      rw [child?_unfoldBelow hi hkey, hp, Option.bind_some, hj, Option.bind_some,
        if_pos ⟨hlt, hnew⟩]

/-- What an unfolding reports, in terms of the table: the index paths that come back to a shape
above. -/
theorem mem_returns_unfoldBelow (hi : i < tbl.length) (hkey : tbl.key i ∉ above) {path : List Nat}
    {notice : Notice} :
    (path, notice) ∈ (tbl.unfoldBelow above i).branches.returns 0 ↔
      tbl.ComesBackBelow above i path ∧ tbl.noticeAt? i path = some notice := by
  induction path generalizing above i with
  | nil =>
    exact iff_of_false Unfolding.nil_notMem_returns fun h => by cases h.2
  | cons n rest ih =>
    -- the last index meets a key again, and every index before it a new one
    rw [cons_mem_returns_unfoldBelow hi hkey]
    cases rest with
    | nil =>
      rw [comesBackBelow_singleton hkey]
      constructor
      · rintro ⟨p, j, nested, hp, hj, hnested, ⟨hmem, _, rfl⟩ | ⟨_, hrest⟩⟩
        · obtain ⟨hlt, _⟩ := List.getElem?_eq_some_iff.1 hnested
          exact ⟨⟨j, by rw [hp, Option.bind_some, hj], hlt, hmem⟩,
            noticeAt?_singleton hp hj hnested⟩
        · exact absurd hrest Unfolding.nil_notMem_returns
      · rintro ⟨⟨j, hnode, hlt, hmem⟩, hnotice⟩
        obtain ⟨p, hp, hj⟩ := Option.bind_eq_some_iff.1 hnode
        have hnested := List.getElem?_eq_getElem hlt
        rw [noticeAt?_singleton hp hj hnested, Option.some_inj] at hnotice
        exact ⟨p, j, tbl[j], hp, hj, hnested, .inl ⟨hmem, rfl, hnotice.symm⟩⟩
    | cons m more =>
      rw [comesBackBelow_cons_cons hkey]
      constructor
      · rintro ⟨p, j, nested, hp, hj, hnested, ⟨_, hnil, _⟩ | ⟨hnew, hrest⟩⟩
        · cases hnil
        · obtain ⟨hlt, _⟩ := List.getElem?_eq_some_iff.1 hnested
          obtain ⟨hback, hnotice⟩ := (ih hlt hnew).1 hrest
          exact ⟨⟨j, by rw [hp, Option.bind_some, hj], hlt, hnew, hback⟩,
            (noticeAt?_cons_cons hp hj).trans hnotice⟩
      · rintro ⟨⟨j, hnode, hlt, hnew, hback⟩, hnotice⟩
        obtain ⟨p, hp, hj⟩ := Option.bind_eq_some_iff.1 hnode
        rw [noticeAt?_cons_cons hp hj] at hnotice
        exact ⟨p, j, tbl[j], hp, hj, List.getElem?_eq_getElem hlt,
          .inr ⟨hnew, (ih hlt hnew).2 ⟨hback, hnotice⟩⟩⟩

theorem ComesBack.exists_noticeAt? {path : List Nat} (h : tbl.ComesBack i path) :
    ∃ notice, tbl.noticeAt? i path = some notice := by
  obtain ⟨trail, j, htrail, _, hback⟩ := h
  cases path with
  | nil =>
    -- the trail of the empty path has one shape, and none before it
    obtain ⟨_, tail, htail, hlength, _⟩ := trail?_cases htrail
    rw [List.length_eq_zero_iff.1 hlength, ← List.nil_append [i]] at htail
    obtain ⟨rfl, _⟩ := List.append_inj' htail rfl
    cases hback
  | cons n rest => exact ShapeTable.exists_noticeAt? htrail

/-! ## 4. Tables without a way back -/

/-- A trail without its last shape is the trail of the path without its last index. -/
theorem trail?_concat {path trail : List Nat} {n : Nat}
    (h : tbl.trail? i (path ++ [n]) = some trail) :
    ∃ before j, trail = before ++ [j] ∧ tbl.trail? i path = some before := by
  induction path generalizing i trail with
  | nil =>
    have hi : i < tbl.length := (trail?_cases h).1
    obtain ⟨j, _, hj⟩ := Option.bind_eq_some_iff.1 h
    obtain ⟨tail, htail, rfl⟩ := Option.map_eq_some_iff.1 hj
    obtain ⟨_, hone⟩ := Option.ite_none_right_eq_some.1 htail
    cases hone
    exact ⟨[i], j, rfl, if_pos hi⟩
  | cons m rest ih =>
    obtain ⟨j, hstep, hj⟩ := Option.bind_eq_some_iff.1 h
    obtain ⟨tail, htail, rfl⟩ := Option.map_eq_some_iff.1 hj
    obtain ⟨before, k, rfl, hbefore⟩ := ih htail
    refine ⟨i :: before, k, rfl, ?_⟩
    rw [trail?, hstep, Option.bind_some, hbefore, Option.map_some]

/-- A path with a repeated key has a first place where a key is repeated, and comes back there. -/
theorem forall_not_comesBack_iff {root : Nat} :
    (∀ path, ¬ tbl.ComesBack root path) ↔
      ∀ path trail, tbl.trail? root path = some trail → (trail.map tbl.key).Nodup := by
  constructor
  · intro hnone path
    -- from the end: up to its last shape the keys differ, so a repeated one would come back there
    induction path using List.reverseRecOn with
    | nil =>
      intro trail htrail
      obtain ⟨_, tail, rfl, hlength, _⟩ := trail?_cases htrail
      rw [List.length_eq_zero_iff.1 hlength]
      exact List.pairwise_singleton _ _
    | append_singleton path n ih =>
      intro trail htrail
      obtain ⟨before, j, rfl, hbefore⟩ := trail?_concat htrail
      rw [List.map_append, List.map_singleton, List.nodup_append]
      refine ⟨ih before hbefore, List.pairwise_singleton _ _, ?_⟩
      rintro key hkey _ hj rfl
      rw [List.mem_singleton.1 hj] at hkey
      exact hnone _ ⟨before, j, htrail, ih before hbefore, hkey⟩
  · rintro hnodup path ⟨trail, j, htrail, _, hback⟩
    have h := hnodup path _ htrail
    rw [List.map_append, List.nodup_append] at h
    exact h.2.2 _ hback _ (List.mem_singleton_self _) rfl

end ShapeTable

/-- Pattern and template of a shape are made with the same reports: one for each index path that comes
back, in lexicographic order, which names the nested shape by its identifier and the path of the
property. There is none exactly if no key is repeated along an index path, and then the unfolding
follows every index path. -/
theorem warnings_eq_returning_paths (tbl : ShapeTable) (root : Nat) (hroot : root < tbl.length) :
    ∃ warnings : List (List Nat × Notice),
      (warnings.map Prod.fst).Pairwise (List.Lex (· < ·)) ∧
      (∀ path notice, (path, notice) ∈ warnings ↔
        tbl.ComesBack root path ∧ tbl.noticeAt? root path = some notice) ∧
      (∀ focus objectPrefix,
        ((tbl.unfold root).wherePattern focus objectPrefix).notices = warnings.map Prod.snd ∧
        ((tbl.unfold root).template focus objectPrefix : Logged UnionError _).notices =
          warnings.map Prod.snd) ∧
      (∀ subjectVariable focusNode focus objectPrefix,
        Focus.resolve subjectVariable focusNode = .ok focus →
        ((tbl.unfold root).compile subjectVariable focusNode objectPrefix).notices =
          warnings.map Prod.snd ++ warnings.map Prod.snd) ∧
      (warnings = [] ↔
        ∀ path trail, tbl.trail? root path = some trail → (trail.map tbl.key).Nodup) ∧
      (warnings = [] →
        ∀ path, ((tbl.unfold root).descend? path).isSome = (tbl.trail? root path).isSome) := by
  have hmem (path : List Nat) (notice : Notice) :
      (path, notice) ∈ (tbl.unfold root).branches.returns 0 ↔
        tbl.ComesBack root path ∧ tbl.noticeAt? root path = some notice := by
    rw [ShapeTable.unfold, ShapeTable.mem_returns_unfoldBelow hroot List.not_mem_nil,
      ShapeTable.comesBackBelow_nil_iff]
  -- every path that comes back has a notice, so that no warning means no such path
  have hnil : (tbl.unfold root).branches.returns 0 = [] ↔
      ∀ path trail, tbl.trail? root path = some trail → (trail.map tbl.key).Nodup := by
    rw [← ShapeTable.forall_not_comesBack_iff, List.eq_nil_iff_forall_not_mem]
    constructor
    · intro hnone path hback
      obtain ⟨notice, hnotice⟩ := ShapeTable.ComesBack.exists_noticeAt? hback
      exact hnone (path, notice) ((hmem path notice).2 ⟨hback, hnotice⟩)
    · rintro hnone ⟨path, notice⟩ hwarning
      exact hnone path ((hmem path notice).1 hwarning).1
  refine ⟨(tbl.unfold root).branches.returns 0, ?_, hmem, ?_, ?_, hnil, ?_⟩
  · exact (Branches.paths_pairwise_lex _ 0).sublist (Branches.map_fst_returns_sublist _ 0)
  · exact fun focus objectPrefix =>
      ⟨Unfolding.notices_wherePattern _ _ _, Unfolding.notices_template _ _ _⟩
  · exact fun _ _ _ objectPrefix hfocus => Unfolding.notices_compile _ hfocus objectPrefix
  · intro hnone path
    have hnodup := hnil.1 hnone path
    rw [Bool.eq_iff_iff, ShapeTable.unfold,
      ShapeTable.isSome_descend?_unfoldBelow hroot List.not_mem_nil, Option.isSome_iff_exists]
    simp only [ShapeTable.freshTrail_nil_iff]
    exact exists_congr fun trail => and_iff_left_of_imp (hnodup trail)

/-- A visit has a host and a guest of one shape without an identifier, which leads back to the visit
and to itself; what is deactivated leads nowhere. -/
def visitShapes : ShapeTable :=
  [⟨some (exampleTerm "Visit"), [],
      [⟨some (exampleTerm "host"), false, some 1⟩, ⟨some (exampleTerm "follows"), true, some 0⟩,
        ⟨some (exampleTerm "guest"), false, some 1⟩]⟩,
    ⟨none, [], [⟨some (exampleTerm "visit"), false, some 0⟩,
      ⟨some (exampleTerm "friend"), false, some 1⟩]⟩]

theorem visitShapes_warnings :
    0 < visitShapes.length ∧
    ((visitShapes.unfold 0).wherePattern ⟨.var "x", "x"⟩ "").notices.map Notice.message =
      ["Shape http://example.org/Visit refers back to itself through http://example.org/visit; " ++
          "not descending further",
        "Shape <anonymous> refers back to itself through http://example.org/friend; " ++
          "not descending further",
        "Shape http://example.org/Visit refers back to itself through http://example.org/visit; " ++
          "not descending further",
        "Shape <anonymous> refers back to itself through http://example.org/friend; " ++
          "not descending further"] ∧
    ∃ warnings : List (List Nat × Notice),
      (warnings.map Prod.fst).Pairwise (List.Lex (· < ·)) ∧
      (∀ path notice, (path, notice) ∈ warnings ↔
        visitShapes.ComesBack 0 path ∧ visitShapes.noticeAt? 0 path = some notice) ∧
      (∀ focus objectPrefix,
        ((visitShapes.unfold 0).wherePattern focus objectPrefix).notices = warnings.map Prod.snd ∧
        ((visitShapes.unfold 0).template focus objectPrefix : Logged UnionError _).notices =
          warnings.map Prod.snd) ∧
      (∀ subjectVariable focusNode focus objectPrefix,
        Focus.resolve subjectVariable focusNode = .ok focus →
        ((visitShapes.unfold 0).compile subjectVariable focusNode objectPrefix).notices =
          warnings.map Prod.snd ++ warnings.map Prod.snd) ∧
      (warnings = [] ↔
        ∀ path trail, visitShapes.trail? 0 path = some trail →
          (trail.map visitShapes.key).Nodup) ∧
      (warnings = [] →
        ∀ path, ((visitShapes.unfold 0).descend? path).isSome = (visitShapes.trail? 0 path).isSome) := by
  have hroot : 0 < visitShapes.length := by decide
  exact ⟨hroot, by decide +kernel, warnings_eq_returning_paths visitShapes 0 hroot⟩

end ShaclQuery
