import ShaclQuery.Proofs.Layout
import ShaclQuery.Proofs.PrefixTables
import ShaclQuery.Proofs.Soundness

/-! # When a query cannot be written

A property without a path is compiled like any other, and its triple has no predicate. The triple
stands in the alternatives of all paths through the property, and once more in the template, so all
texts that can be made of a compiled shape fail together: when a live index path ends at such a
property. A property that is switched off, or one below a shape that is not entered, does no harm.
-/

namespace ShaclQuery

/-! ## 1. Texts of a compiled shape -/

inductive Rendering
  | whereClause
  | constructClause
  | select
  | construct
  deriving DecidableEq, Repr

def Compiled.render (c : Compiled) (namespaces : Namespaces) (form : Rendering) :
    Except RenderError String :=
  namespaces.resolve.bind fun table =>
    match form with
    | .whereClause => renderWhere table c.wherePattern
    | .constructClause => renderElements table (c.template.map .triple)
    | .select => renderSelect table c.wherePattern
    | .construct => renderConstruct table (c.template.map .triple) c.wherePattern

def Compiled.terms (c : Compiled) : Rendering → List (Option Term)
  | .whereClause | .select => c.wherePattern.terms
  | .constructClause => (⟨c.template.map .triple⟩ : Block).terms
  | .construct => (⟨c.template.map .triple⟩ : Block).terms ++ c.wherePattern.terms

/-! ## 2. Terms that can be written -/

/-- With terms that can be written if they are there, writing fails exactly when one is missing. -/
theorem Lays.eq_error_iff {table : Option PrefixTable} {terms : List (Option Term)}
    {texts : List String} {result : Except RenderError (List Piece)}
    (h : Lays table terms texts result) (hterms : ∀ t ∈ terms, t.all Term.isWritable = true)
    (e : RenderError) : result = .error e ↔ none ∈ terms ∧ e = .missingTerm := by
  cases h with
  | ok hok =>
    -- a missing term is never written
    apply iff_of_false
    · intro heq
      cases heq
    · rintro ⟨hnone, _⟩
      obtain ⟨piece, hpiece⟩ := hok none hnone
      cases hpiece
  | @error t err ht herr =>
    cases t with
    | none =>
      cases herr
      simp [ht, eq_comm]
    | some t =>
      have hwritable : t.isWritable = true := hterms _ ht
      rw [writeTerm_some, if_pos hwritable] at herr
      cases herr

namespace Compiled

/-- All four texts are laid out of the lines of the pattern, and fail like them. -/
theorem lays_render (c : Compiled) {namespaces : Namespaces} {table : Option PrefixTable}
    (htable : namespaces.resolve = .ok table) (form : Rendering) :
    ∃ texts result, Lays table (c.terms form) texts result ∧
      ∀ e, c.render namespaces form = .error e ↔ result = .error e := by
  have hbody := lays_pattern table 1 c.wherePattern
  have hhead := lays_block table 1 ⟨c.template.map .triple⟩
  unfold render
  rw [htable]
  -- the forms differ in the lines around, which have no terms
  cases form with
  | whereClause =>
    refine ⟨_, _, hbody, fun e => ?_⟩
    simp only [Except.bind, renderWhere]
    cases patternLines table 1 c.wherePattern <;> simp [Except.map]
  | constructClause =>
    refine ⟨_, _, hhead, fun e => ?_⟩
    simp only [Except.bind, renderElements]
    cases blockLines table 1 ⟨c.template.map .triple⟩ <;> simp [Except.map]
  | select =>
    refine ⟨_, _, hbody, fun e => ?_⟩
    simp only [Except.bind, renderSelect]
    cases patternLines table 1 c.wherePattern <;> simp [Except.map]
  | construct =>
    refine ⟨_, _, hhead.append hbody, fun e => ?_⟩
    simp only [Except.bind, renderConstruct]
    cases blockLines table 1 ⟨c.template.map .triple⟩ <;>
      cases patternLines table 1 c.wherePattern <;> simp [Except.map, bind, Except.bind]

end Compiled

/-! ## 3. The terms of a compiled shape -/

theorem terms_typeElements {targets : List Term} {focus : Focus} {e : Element}
    (he : e ∈ typeElements targets focus) {t : Option Term} (ht : t ∈ e.terms) :
    ∃ x, t = some x ∧ (x = focus.term ∨ x = rdfType ∨
      (x = focus.targetClass.term ∧ 2 ≤ targets.length) ∨ x ∈ targets) := by
  cases e with
  | triple u =>
    rcases triple_mem_typeElements.1 he with ⟨c, rfl, rfl⟩ | ⟨hseveral, rfl⟩
    · simp only [Element.terms, List.mem_cons, List.not_mem_nil, or_false] at ht
      rcases ht with rfl | rfl | rfl <;> simp
    · simp only [Element.terms, List.mem_cons, List.not_mem_nil, or_false] at ht
      rcases ht with rfl | rfl | rfl <;> simp [hseveral]
  | oneOf v values =>
    obtain ⟨hseveral, rfl, rfl⟩ := oneOf_mem_typeElements.1 he
    rcases List.mem_append.1 ht with hvalue | hv
    · obtain ⟨c, hc, rfl⟩ := List.mem_map.1 hvalue
      exact ⟨c, rfl, by simp [hc]⟩
    · rw [List.mem_singleton.1 hv]
      simp [hseveral]

theorem Term.isWritable_named (name : String) : (Term.named name).isWritable = true := by
  unfold Term.named
  split
  · rfl
  · rfl

theorem Focus.isWritable_below {f : Focus} (h : f.term.isWritable = true) (objectPrefix : String)
    (path : List Nat) : (f.below objectPrefix path).term.isWritable = true := by
  cases path with
  | nil => exact h
  | cons n rest => exact Term.isWritable_named _

/-- A live path ends with one of the paths of the shape that it leads through last. -/
theorem Occurrences.Live.exists_path {o : Occurrences} {path : List Nat} (h : o.Live path) :
    ∃ s p, o path.dropLast = some s ∧ p ∈ s.paths ∧ o.pathAt? path = some p := by
  obtain ⟨p, hp⟩ := Option.isSome_iff_exists.1 h
  obtain ⟨n, _, hn⟩ := Option.bind_eq_some_iff.1 hp
  obtain ⟨s, hs, hpath⟩ := Option.bind_eq_some_iff.1 hn
  exact ⟨s, p, hs, List.mem_of_getElem? hpath, hp⟩

def Occurrences.WritableOnly (o : Occurrences) : Prop := ∀ path s, o path = some s →
  (∀ c ∈ s.targets, c.isWritable = true) ∧ ∀ p ∈ s.paths, p.all Term.isWritable = true

namespace Unfolding

variable {u : Unfolding} {focus : Focus} {objectPrefix : String}

/-- A path that leads on from a live path leads through live paths only. -/
theorem live_of_prefix {path place : List Nat} (h : u.occurrences.Live path)
    (hplace : place <+: path) (hne : place ≠ []) : u.occurrences.Live place := by
  obtain ⟨tail, rfl⟩ := hplace
  by_cases htail : tail = []
  · simpa [htail] using h
  · obtain ⟨s, _, hs, _, _⟩ := h.exists_path
    rw [List.dropLast_append_of_ne_nil htail] at hs
    obtain ⟨s', hs'⟩ := exists_occurrence_append hs
    exact live_of_occurrence hs' hne

/-- An element of a pattern is one of types, or the triple that a live path ends with. -/
theorem mem_pattern_cases {b : Block} (hb : b ∈ (u.pattern focus objectPrefix).alternatives)
    {e : Element} (he : e ∈ b.elements) :
    (∃ place, e ∈ u.occurrences.typesAt focus objectPrefix place) ∨
    ∃ place, u.occurrences.Live place ∧
      e = .triple (u.occurrences.tripleAt focus objectPrefix place) := by
  rcases mem_alternatives_pattern.1 hb with ⟨path, hlive, hpath⟩ | ⟨_, rfl⟩
  · rcases Occurrences.mem_alternative_cases hpath he with
      ⟨place, _, htypes, _⟩ | ⟨place, hplace, hne, rfl⟩
    · exact Or.inl ⟨place, htypes⟩
    · exact Or.inr ⟨place, live_of_prefix hlive hplace hne, rfl⟩
  · exact Or.inl ⟨[], he⟩

/-- The terms of a pattern that are there can be written, those that compiling makes as well. -/
theorem isWritable_terms_pattern (ho : u.occurrences.WritableOnly)
    (hfocus : focus.term.isWritable = true) {t : Option Term}
    (ht : t ∈ (u.pattern focus objectPrefix).terms) : t.all Term.isWritable = true := by
  obtain ⟨b, hb, htb⟩ := List.mem_flatMap.1 ht
  obtain ⟨e, he, hte⟩ := List.mem_flatMap.1 htb
  have hbelow (place : List Nat) := Focus.isWritable_below hfocus objectPrefix place
  rcases mem_pattern_cases hb he with ⟨place, htypes⟩ | ⟨place, hlive, rfl⟩
  · obtain ⟨s, hs, helement⟩ := Occurrences.mem_typesAt.1 htypes
    obtain ⟨x, rfl, rfl | rfl | ⟨rfl, _⟩ | hx⟩ := terms_typeElements helement hte
    · exact hbelow place
    · decide
    · exact Term.isWritable_named _
    · exact (ho place s hs).1 x hx
  · simp only [Element.terms, Occurrences.tripleAt, List.mem_cons, List.not_mem_nil, or_false]
      at hte
    rcases hte with rfl | rfl | rfl
    · exact hbelow _
    · obtain ⟨s, p, hs, hmem, hp⟩ := hlive.exists_path
      rw [hp]
      exact (ho _ s hs).2 p hmem
    · exact hbelow place

theorem exists_triple_of_missing (focus : Focus) (objectPrefix : String) {path : List Nat}
    (h : u.occurrences.pathAt? path = some none) :
    ∃ t ∈ (u.pattern focus objectPrefix).triples, t.predicate = none := by
  have hlive : u.occurrences.Live path := Option.isSome_iff_exists.2 ⟨none, h⟩
  exact ⟨_, triple_mem_pattern hlive, by rw [Occurrences.tripleAt, h]; rfl⟩

/-- Only the path of a property can be missing. -/
theorem missing_of_none_mem_terms (h : none ∈ (u.pattern focus objectPrefix).terms) :
    ∃ path, u.occurrences.pathAt? path = some none := by
  obtain ⟨b, hb, hnone⟩ := List.mem_flatMap.1 h
  obtain ⟨e, he, hnone⟩ := List.mem_flatMap.1 hnone
  rcases mem_pattern_cases hb he with ⟨place, htypes⟩ | ⟨place, hlive, rfl⟩
  · -- types have all their terms
    obtain ⟨s, _, helement⟩ := Occurrences.mem_typesAt.1 htypes
    obtain ⟨x, hx, _⟩ := terms_typeElements helement hnone
    cases hx
  · obtain ⟨p, hp⟩ := Option.isSome_iff_exists.1 hlive
    have hjoin : (u.occurrences.pathAt? place).join = none := by
      simpa [Element.terms, Occurrences.tripleAt, eq_comm] using hnone
    rw [hp, Option.join_some] at hjoin
    exact ⟨place, by rw [hp, hjoin]⟩

/-- No text has a term that the WHERE pattern does not have. -/
theorem mem_terms_pattern {form : Rendering} {t : Option Term}
    (ht : t ∈ (u.query focus objectPrefix).terms form) :
    t ∈ (u.pattern focus objectPrefix).terms := by
  have hpattern : (u.query focus objectPrefix).wherePattern.terms =
      (u.pattern focus objectPrefix).terms := Pattern.terms_collapse _
  have htemplate (h : t ∈ (⟨(u.query focus objectPrefix).template.map .triple⟩ : Block).terms) :
      t ∈ (u.pattern focus objectPrefix).terms := by
    obtain ⟨e, he, hterm⟩ := List.mem_flatMap.1 h
    obtain ⟨triple, htriple, rfl⟩ := List.mem_map.1 he
    obtain ⟨b, hb, hown⟩ := List.mem_flatMap.1 (distinctBy_subset TriplePattern.key _ htriple)
    exact List.mem_flatMap.2 ⟨b, hb, List.mem_flatMap.2 ⟨_, Block.mem_triples.1 hown, hterm⟩⟩
  cases form with
  | whereClause => exact hpattern ▸ ht
  | constructClause => exact htemplate ht
  | select => exact hpattern ▸ ht
  | construct =>
    rcases List.mem_append.1 ht with ht | ht
    · exact htemplate ht
    · exact hpattern ▸ ht

/-- What is alone with its key is in every text when it is in a triple of the WHERE pattern. -/
theorem mem_terms_query {x : Option Term}
    (hx : ∀ y : Option Term, y.map Term.key = x.map Term.key → y = x) {t : TriplePattern}
    (ht : t ∈ (u.pattern focus objectPrefix).triples) (hterm : x ∈ (Element.triple t).terms)
    (form : Rendering) : x ∈ (u.query focus objectPrefix).terms form := by
  have hpattern : x ∈ (u.query focus objectPrefix).wherePattern.terms := by
    obtain ⟨b, hb, hown⟩ := List.mem_flatMap.1 ht
    rw [← alternatives_query] at hb
    exact List.mem_flatMap.2 ⟨b, hb, List.mem_flatMap.2 ⟨_, Block.mem_triples.1 hown, hterm⟩⟩
  have htemplate : x ∈ (⟨(u.query focus objectPrefix).template.map .triple⟩ : Block).terms := by
    -- the triple that the template keeps in its place has it at the same position
    obtain ⟨kept, hkept, hkey⟩ := exists_mem_distinctBy TriplePattern.key _ ht
    refine List.mem_flatMap.2 ⟨.triple kept, List.mem_map_of_mem hkept, ?_⟩
    simp only [TriplePattern.key, TriplePattern.mk.injEq] at hkey
    simp only [Element.terms, List.mem_cons, List.not_mem_nil, or_false] at hterm ⊢
    rcases hterm with rfl | rfl | rfl
    · exact Or.inl (hx _ hkey.1).symm
    · exact Or.inr (Or.inl (hx _ hkey.2.1).symm)
    · exact Or.inr (Or.inr (hx _ hkey.2.2).symm)
  cases form with
  | whereClause => exact hpattern
  | constructClause => exact htemplate
  | select => exact hpattern
  | construct => exact List.mem_append_left _ htemplate

/-- A property without a path leaves a gap in every text. -/
theorem none_mem_terms_query {path : List Nat} (h : u.occurrences.pathAt? path = some none)
    (form : Rendering) : none ∈ (u.query focus objectPrefix).terms form := by
  obtain ⟨t, ht, hnone⟩ := exists_triple_of_missing focus objectPrefix h
  apply mem_terms_query _ ht _ form
  · intro y hy
    exact Option.map_eq_none_iff.1 hy
  · simp [Element.terms, hnone]

end Unfolding

/-! ## 4. When texts fail -/

theorem ShapeTable.exists_mem_of_occurrences {tbl : ShapeTable} {root : Nat} {path : List Nat}
    {o : Occurrence} (h : tbl.occurrences root path = some o) : ∃ s ∈ tbl, s.occurrence = o := by
  obtain ⟨i, _, hi⟩ := Option.bind_eq_some_iff.1 h
  obtain ⟨s, hs, heq⟩ := Option.map_eq_some_iff.1 hi
  exact ⟨s, List.mem_of_getElem? hs, heq⟩

/-- A table whose target classes and paths can be written has no other terms at its places. -/
theorem ShapeTable.writableOnly_occurrences {tbl : ShapeTable}
    (h : ∀ s ∈ tbl, (∀ c ∈ s.targets, c.isWritable = true) ∧
      ∀ p ∈ s.properties, p.path.all Term.isWritable = true) (root : Nat) :
    (tbl.occurrences root).WritableOnly := by
  intro path o ho
  obtain ⟨s, hs, rfl⟩ := exists_mem_of_occurrences ho
  obtain ⟨htargets, hproperties⟩ := h s hs
  refine ⟨htargets, fun p hp => ?_⟩
  obtain ⟨q, hq, rfl⟩ := List.mem_map.1 hp
  exact hproperties q (List.mem_filter.1 hq).1

/-- A shape whose terms can be written is compiled, and each of its texts fails exactly when an
index path ends at an active property without a path; there is no other error. Prefixes matter only
in that those of a mapping have no blanks. -/
theorem render_error_iff_missing_path (tbl : ShapeTable) (root : Nat) (hroot : root < tbl.length)
    (ho : (tbl.occurrences root).WritableOnly) (subjectVariable : Option String)
    (focusNode : Option Term) (focus : Focus)
    (hfocus : Focus.resolve subjectVariable focusNode = .ok focus)
    (hterm : focus.term.isWritable = true) (objectPrefix : String) (namespaces : Namespaces)
    (hblanks : ∀ pairs, namespaces = .mapping pairs → ∀ pair ∈ pairs, ' ' ∉ pair.1.toList) :
    ∃ c : Compiled,
      ((tbl.unfold root).compile subjectVariable focusNode objectPrefix).result = .ok c ∧
      ∀ form e, c.render namespaces form = .error e ↔
        (∃ path, (tbl.occurrences root).pathAt? path = some none) ∧ e = .missingTerm := by
  rw [← ShapeTable.occurrences_unfold hroot] at ho ⊢
  obtain ⟨table, htable⟩ := Namespaces.exists_resolve_eq_ok hblanks
  refine ⟨_, Unfolding.compile_result _ hfocus objectPrefix, fun form e => ?_⟩
  obtain ⟨texts, result, hlays, herror⟩ :=
    ((tbl.unfold root).query focus objectPrefix).lays_render htable form
  have hwritable : ∀ t ∈ ((tbl.unfold root).query focus objectPrefix).terms form,
      t.all Term.isWritable = true := fun t ht =>
    Unfolding.isWritable_terms_pattern ho hterm (Unfolding.mem_terms_pattern ht)
  have hmissing : none ∈ ((tbl.unfold root).query focus objectPrefix).terms form ↔
      ∃ path, (tbl.unfold root).occurrences.pathAt? path = some none :=
    ⟨fun h => Unfolding.missing_of_none_mem_terms (Unfolding.mem_terms_pattern h),
      fun ⟨_, hpath⟩ => Unfolding.none_mem_terms_query hpath form⟩
  rw [herror, hlays.eq_error_iff hwritable, hmissing]

/-- Books with authors; the name of an author has a path that is not known, and so had the title of
a book before it was switched off. -/
def bookShapes : ShapeTable :=
  [⟨none, [exampleTerm "Book"], [⟨none, true, none⟩, ⟨some (exampleTerm "author"), false, some 1⟩]⟩,
    ⟨none, [exampleTerm "Person", exampleTerm "Agent"],
      [⟨some (exampleTerm "wrote"), false, some 0⟩, ⟨none, false, none⟩]⟩]

theorem render_error_bookShapes :
    0 < bookShapes.length ∧ (bookShapes.occurrences 0).WritableOnly ∧
    Focus.resolve (some "?book") none = .ok ⟨.var "book", "book"⟩ ∧
    (bookShapes.occurrences 0).pathAt? [0, 1] = some none ∧
    ∃ c : Compiled, ((bookShapes.unfold 0).compile (some "?book") none "o").result = .ok c ∧
      ∀ form e, c.render (.mapping [("ex", "http://example.org/")]) form = .error e ↔
        (∃ path, (bookShapes.occurrences 0).pathAt? path = some none) ∧ e = .missingTerm := by
  have hroot : 0 < bookShapes.length := by decide
  have ho : (bookShapes.occurrences 0).WritableOnly :=
    ShapeTable.writableOnly_occurrences (by decide) 0
  have hfocus : Focus.resolve (some "?book") none = .ok ⟨.var "book", "book"⟩ := by decide
  refine ⟨hroot, ho, hfocus, by decide, render_error_iff_missing_path bookShapes 0 hroot ho _ _ _
    hfocus rfl "o" _ ?_⟩
  intro pairs hpairs
  cases hpairs
  decide

end ShaclQuery
