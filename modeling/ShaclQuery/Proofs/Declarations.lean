import ShaclQuery.Proofs.Layout
import ShaclQuery.Proofs.PrefixTables

/-! # Prefixes keep the meaning of a query

The prologue is made of the text: the prefix of a shortened IRI is cut off at its first colon and
looked up once more. When prefixes have no colon and do not look like an IRI, this finds the entry
the IRI was shortened by, so the declarations of a query are those its IRIs need and no others, and
with every prefix replaced by its declared namespace the query is the one written without a table.
-/

namespace ShaclQuery

/-! ## 1. Names in order -/

theorem mem_insertText {text t : String} {l : List String} :
    t ∈ insertText text l ↔ t = text ∨ t ∈ l := by
  fun_induction insertText text l with
  | case1 => simp
  | case2 rest => simp
  | case3 first rest hne hlt => simp
  | case4 first rest hne hlt ih => simp [ih, or_left_comm]

theorem pairwise_insertText {text : String} {l : List String} (h : l.Pairwise (· < ·)) :
    (insertText text l).Pairwise (· < ·) := by
  fun_induction insertText text l with
  | case1 => exact List.pairwise_singleton _ _
  | case2 rest => exact h
  | case3 first rest hne hlt =>
    refine List.pairwise_cons.2 ⟨fun t ht => ?_, h⟩
    rcases List.mem_cons.1 ht with rfl | ht
    · exact hlt
    · exact String.lt_trans hlt (List.rel_of_pairwise_cons h ht)
  | case4 first rest hne hlt ih =>
    obtain ⟨hfirst, hrest⟩ := List.pairwise_cons.1 h
    refine List.pairwise_cons.2 ⟨fun t ht => ?_, ih hrest⟩
    rcases mem_insertText.1 ht with rfl | ht
    · exact Std.lt_of_le_of_ne (String.not_lt.1 hlt) (Ne.symm hne)
    · exact hfirst t ht

theorem mem_sortTexts {t : String} {l : List String} : t ∈ sortTexts l ↔ t ∈ l := by
  induction l with
  | nil => rfl
  | cons first rest ih => rw [sortTexts, mem_insertText, ih, List.mem_cons]

theorem pairwise_sortTexts (l : List String) : (sortTexts l).Pairwise (· < ·) := by
  induction l with
  | nil => exact List.Pairwise.nil
  | cons first rest ih => exact pairwise_insertText ih

/-! ## 2. Declarations -/

def declarationLine (d : String × String) : String := "PREFIX " ++ d.1 ++ ": <" ++ d.2 ++ ">"

def IriForm.expand (declarations : List (String × String)) : IriForm → String
  | .full iri => "<" ++ iri ++ ">"
  | .short name rest => "<" ++ (declarations.lookup name).getD "" ++ rest ++ ">"

def iris (terms : List (Option Term)) : List String :=
  terms.filterMap fun
    | some (.iri text) => some text
    | _ => none

theorem mem_iris {text : String} {terms : List (Option Term)} :
    text ∈ iris terms ↔ some (.iri text) ∈ terms := by
  simp only [iris, List.mem_filterMap]
  constructor
  · rintro ⟨t, ht, heq⟩
    split at heq
    · cases heq
      exact ht
    · cases heq
  · intro h
    exact ⟨_, h, rfl⟩

/-- The declarations fit the forms of the IRIs: declared are the prefixes that stand before some
IRI, each once and in order, and the namespace of a prefix and the rest behind it give the IRI. -/
structure Declares (declarations : List (String × String)) (form : String → IriForm)
    (iris : List String) : Prop where
  sorted : (declarations.map Prod.fst).Pairwise (· < ·)
  mem_names_iff : ∀ name, name ∈ declarations.map Prod.fst ↔
    ∃ iri ∈ iris, ∃ rest, form iri = .short name rest
  full_or_short : ∀ iri ∈ iris, form iri = .full iri ∨
    ∃ name ns rest, form iri = .short name rest ∧ (name, ns) ∈ declarations ∧ ns ++ rest = iri

theorem Declares.expand_eq {declarations : List (String × String)} {form : String → IriForm}
    {iris : List String} (h : Declares declarations form iris) {iri : String} (hiri : iri ∈ iris) :
    (form iri).expand declarations = "<" ++ iri ++ ">" := by
  rcases h.full_or_short iri hiri with hfull | ⟨name, ns, rest, hshort, hmem, hjoin⟩
  · rw [hfull]
    rfl
  · have hlookup : declarations.lookup name = some ns :=
      lookup_eq_some_of_mem (h.sorted.imp Std.ne_of_lt) hmem
    simp only [hshort, IriForm.expand, hlookup, Option.getD_some]
    rw [← hjoin, ← String.append_assoc]

/-! ## 3. The prefixes of a text -/

/-- A prefix can be read off a shortened IRI when it has no colon and does not look like a bracket. -/
theorem declared_short {name : String} (rest : String) (hcolon : ':' ∉ name.toList)
    (hbracket : name.toList.head? ≠ some '<') : declared (name ++ ":" ++ rest) = [name] := by
  have htext : (name ++ ":" ++ rest).toList = name.toList ++ ':' :: rest.toList := by
    simp [String.toList_append]
  -- with an empty prefix the text starts with the colon
  have hhead : (name.toList ++ ':' :: rest.toList).head? ≠ some '<' := by
    cases hname : name.toList with
    | nil => simp
    | cons c cs => simpa [hname] using hbracket
  have hname : (name.toList ++ ':' :: rest.toList).takeWhile (· != ':') = name.toList := by
    rw [List.takeWhile_append_of_pos]
    · simp
    · intro c hc
      simpa using fun heq : c = ':' => hcolon (heq ▸ hc)
  rw [declared, htext, if_neg hhead, hname, String.ofList_toList]

section Table

variable {table : Option PrefixTable}
  (hnames : ∀ t, table = some t → ∀ e ∈ t.entries,
    ':' ∉ e.1.toList ∧ e.1.toList.head? ≠ some '<')

theorem exists_entry_of_iriForm {iri name rest : String}
    (h : iriForm table iri = .short name rest) :
    ∃ t ns, table = some t ∧ (name, ns) ∈ t.entries ∧ ns ++ rest = iri := by
  unfold iriForm at h
  split at h
  · rename_i hshort
    cases h
    obtain ⟨t, rfl, hshort⟩ := Option.bind_eq_some_iff.1 hshort
    obtain ⟨ns, hmem, hjoin⟩ := PrefixTable.exists_entry_of_shorten? hshort
    exact ⟨t, ns, rfl, hmem, hjoin⟩
  · cases h

theorem iriForm_eq_full {iri iri' : String} (h : iriForm table iri = .full iri') : iri' = iri := by
  unfold iriForm at h
  split at h
  · cases h
  · cases h
    rfl

include hnames in
theorem mem_uses_piece {t : Term} {name : String} :
    name ∈ (t.piece table).uses ↔
      ∃ iri rest, t = .iri iri ∧ iriForm table iri = .short name rest := by
  cases t with
  | iri text =>
    cases hform : iriForm table text with
    | full iri => simp [Term.piece, hform]
    | short name' rest =>
      obtain ⟨t, ns, htable, hmem, _⟩ := exists_entry_of_iriForm hform
      obtain ⟨hcolon, hbracket⟩ := hnames t htable _ hmem
      simp [Term.piece, hform, declared_short rest hcolon hbracket, eq_comm]
  | blank label => simp [Term.piece]
  | var name => simp [Term.piece]
  | literal l => simp [Term.piece]

def declarationsOf (table : Option PrefixTable) (names : List String) : List (String × String) :=
  names.map fun name => (name, (table.bind (·.namespaceOf? name)).getD "None")

theorem names_declarationsOf (names : List String) :
    (declarationsOf table names).map Prod.fst = names := by
  rw [declarationsOf, List.map_map]
  exact List.map_id _

theorem prologue_eq (lines : List Piece) :
    prologue table lines =
      (declarationsOf table (sortTexts (lines.flatMap (·.uses)))).map declarationLine := by
  rw [prologue, declarationsOf, List.map_map]
  rfl

include hnames in
/-- The prefixes that some lines use are those in the forms of their IRIs. -/
theorem Lays.mem_uses_iff {terms : List (Option Term)} {texts : List String} {pieces : List Piece}
    (h : Lays table terms texts (.ok pieces)) (name : String) :
    name ∈ pieces.flatMap (·.uses) ↔
      ∃ iri ∈ iris terms, ∃ rest, iriForm table iri = .short name rest := by
  cases h with
  | ok hterms _ huses =>
    rw [huses name]
    constructor
    · rintro ⟨t, ht, piece, hpiece, hname⟩
      obtain ⟨x, rfl, _, rfl⟩ := writeTerm_eq_ok_iff.1 hpiece
      obtain ⟨iri, rest, rfl, hform⟩ := (mem_uses_piece hnames).1 hname
      exact ⟨iri, mem_iris.2 ht, rest, hform⟩
    · rintro ⟨iri, hiri, rest, hform⟩
      have ht := mem_iris.1 hiri
      obtain ⟨piece, hpiece⟩ := hterms _ ht
      obtain ⟨x, heq, _, rfl⟩ := writeTerm_eq_ok_iff.1 hpiece
      cases heq
      exact ⟨_, ht, _, hpiece, (mem_uses_piece hnames).2 ⟨iri, rest, rfl, hform⟩⟩

include hnames in
/-- The prefixes that are collected from the lines are the ones that their IRIs need. -/
theorem declares_of_lays {terms : List (Option Term)} {texts : List String} {pieces : List Piece}
    (h : Lays table terms texts (.ok pieces)) :
    Declares (declarationsOf table (sortTexts (pieces.flatMap (·.uses)))) (iriForm table)
      (iris terms) := by
  have hused := h.mem_uses_iff hnames
  refine ⟨?_, ?_, ?_⟩
  · rw [names_declarationsOf]
    exact pairwise_sortTexts _
  · intro name
    rw [names_declarationsOf, mem_sortTexts, hused]
  · intro iri hiri
    cases hform : iriForm table iri with
    | full iri' =>
      left
      rw [iriForm_eq_full hform]
    | short name rest =>
      right
      obtain ⟨t, ns, rfl, hmem, hjoin⟩ := exists_entry_of_iriForm hform
      refine ⟨name, ns, rest, rfl, ?_, hjoin⟩
      -- the namespace that is declared is looked up again, and found in the entry of the IRI
      have hlookup := PrefixTable.namespaceOf?_eq_some hmem
      refine List.mem_map.2 ⟨name, mem_sortTexts.2 ((hused name).2 ⟨iri, hiri, rest, hform⟩), ?_⟩
      simp [hlookup]

end Table

/-! ## 4. Queries -/

inductive QueryParts
  | select (p : Pattern)
  | construct (template : List Element) (p : Pattern)
  deriving DecidableEq, Repr

namespace QueryParts

def render (table : Option PrefixTable) : QueryParts → Except RenderError String
  | select p => renderSelect table p
  | construct template p => renderConstruct table template p

def terms : QueryParts → List (Option Term)
  | select p => p.terms
  | construct template p => (⟨template⟩ : Block).terms ++ p.terms

def text (declarations : List (String × String)) (shown : Option Term → String) :
    QueryParts → String
  | select p =>
    joinLines (declarations.map declarationLine ++
      "SELECT * WHERE \x7b" :: p.lines shown 1 ++ ["\x7d"])
  | construct template p =>
    joinLines (declarations.map declarationLine ++
      "CONSTRUCT \x7b" :: (⟨template⟩ : Block).lines shown 1 ++
      "\x7d WHERE \x7b" :: p.lines shown 1 ++ ["\x7d"])

theorem text_congr {q : QueryParts} {declarations : List (String × String)}
    {shown shown' : Option Term → String} (h : ∀ t ∈ q.terms, shown t = shown' t) :
    q.text declarations shown = q.text declarations shown' := by
  cases q with
  | select p => simp only [text, Pattern.lines_congr h]
  | construct template p =>
    have hhead : (⟨template⟩ : Block).lines shown 1 = (⟨template⟩ : Block).lines shown' 1 :=
      Block.lines_congr fun t ht => h t (List.mem_append_left _ ht)
    have hbody : p.lines shown 1 = p.lines shown' 1 :=
      Pattern.lines_congr fun t ht => h t (List.mem_append_right _ ht)
    simp only [text, hhead, hbody]

/-- What comes of writing a query: its lines are laid out, and declared is what they use. -/
theorem lays_render (table : Option PrefixTable) (q : QueryParts) :
    ∃ texts result, Lays table q.terms texts result ∧
      q.render table = result.map fun pieces =>
        q.text (declarationsOf table (sortTexts (pieces.flatMap (·.uses)))) (shownBy table) := by
  cases q with
  | select p =>
    have hbody := lays_pattern table 1 p
    refine ⟨_, _, hbody, ?_⟩
    simp only [render, renderSelect, prologue_eq]
    generalize patternLines table 1 p = body at hbody ⊢
    cases hbody with
    | error => rfl
    | ok _ htexts =>
      simp only [Except.map, htexts]
      rfl
  | construct template p =>
    -- the head is written before the body, so that its error comes first
    have hhead := lays_block table 1 ⟨template⟩
    have hbody := lays_pattern table 1 p
    refine ⟨_, _, hhead.append hbody, ?_⟩
    simp only [render, renderConstruct, prologue_eq]
    generalize blockLines table 1 ⟨template⟩ = head at hhead ⊢
    generalize patternLines table 1 p = body at hbody ⊢
    cases hhead with
    | error => rfl
    | ok _ hheadTexts =>
      cases hbody with
      | error => rfl
      | ok _ hbodyTexts =>
        simp only [bind, Except.bind, Except.map, hheadTexts, hbodyTexts]
        rfl

theorem render_none {q : QueryParts} (h : ∀ t ∈ q.terms, ∃ x, t = some x ∧ x.isWritable = true) :
    q.render none = .ok (q.text [] (shownBy none)) := by
  obtain ⟨texts, result, hlays, hrender⟩ := lays_render none q
  obtain ⟨pieces, rfl, _, huses⟩ := hlays.exists_eq_ok_of_writable h
  rw [hrender, Except.map, huses]
  rfl

end QueryParts

theorem Lays.writable_of_ok {table : Option PrefixTable} {terms : List (Option Term)}
    {texts : List String} {pieces : List Piece} (h : Lays table terms texts (.ok pieces)) :
    ∀ t ∈ terms, ∃ x, t = some x ∧ x.isWritable = true := by
  cases h with
  | ok hterms =>
    intro t ht
    obtain ⟨piece, hpiece⟩ := hterms t ht
    obtain ⟨x, hx, hwritable, _⟩ := writeTerm_eq_ok_iff.1 hpiece
    exact ⟨x, hx, hwritable⟩

/-- With declarations that fit, expanded terms are shown as they are without a table. -/
theorem Declares.shownAs_expand {declarations : List (String × String)} {form : String → IriForm}
    {terms : List (Option Term)} (h : Declares declarations form (iris terms)) :
    ∀ t ∈ terms, shownBy none t = shownAs (fun iri => (form iri).expand declarations) t := by
  intro t ht
  rcases t with _ | x
  · rfl
  · cases x with
    | iri text => exact (h.expand_eq (mem_iris.2 ht)).symm
    | blank label => rfl
    | var name => rfl
    | literal l => rfl

/-- A query with prefixes says what it says without them, whether a mapping or a graph gave the
table: every table is one without a prefix bound twice. Its declarations are those of the prefixes
that stand before an IRI, once each and in order; every IRI stands in full or behind a prefix whose
declared namespace it begins with; and with the prefixes replaced by their namespaces the template
and the body are those that are written without a table. -/
theorem query_expands_to_plain_query {table : Option PrefixTable}
    (hnames : ∀ t, table = some t → ∀ e ∈ t.entries,
      ':' ∉ e.1.toList ∧ e.1.toList.head? ≠ some '<')
    (q : QueryParts) {text : String} (hrender : q.render table = .ok text) :
    ∃ declarations, Declares declarations (iriForm table) (iris q.terms) ∧
      text = q.text declarations (shownAs fun iri => (iriForm table iri).text) ∧
      q.render none =
        .ok (q.text [] (shownAs fun iri => (iriForm table iri).expand declarations)) := by
  obtain ⟨texts, result, hlays, heq⟩ := q.lays_render table
  cases result with
  | error e =>
    rw [heq] at hrender
    cases hrender
  | ok pieces =>
    rw [heq] at hrender
    cases hrender
    have hdeclares := declares_of_lays hnames hlays
    refine ⟨_, hdeclares, rfl, ?_⟩
    -- what could be written with the table can be written without, and looks like the expansion
    rw [QueryParts.render_none hlays.writable_of_ok,
      QueryParts.text_congr hdeclares.shownAs_expand]

def noteTable : PrefixTable := ⟨[("ex", "http://ex/")], by decide⟩

theorem bindAll_noteTable : PrefixTable.empty.bindAll [("ex", "http://ex/")] = .ok noteTable := rfl

def noteQuery : QueryParts :=
  .select (.block ⟨[.triple ⟨some (.var "x"), some (.iri "http://ex/p"), some (.iri "http://e/")⟩]⟩)

def noteText : String :=
  "PREFIX ex: <http://ex/>\nSELECT * WHERE \x7b\n  ?x ex:p <http://e/> .\n\x7d"

theorem render_noteQuery : noteQuery.render (some noteTable) = .ok noteText := by
  have htext : (noteQuery.render (some noteTable)).toOption = some noteText := by decide +kernel
  cases hrender : noteQuery.render (some noteTable) with
  | error e => rw [hrender] at htext; cases htext
  | ok text => rw [hrender] at htext; cases htext; rfl

theorem query_expands_noteQuery :
    PrefixTable.empty.bindAll [("ex", "http://ex/")] = .ok noteTable ∧
    ∃ declarations, Declares declarations (iriForm (some noteTable)) (iris noteQuery.terms) ∧
      noteText =
        noteQuery.text declarations (shownAs fun iri => (iriForm (some noteTable) iri).text) ∧
      noteQuery.render none = .ok (noteQuery.text []
        (shownAs fun iri => (iriForm (some noteTable) iri).expand declarations)) := by
  have hnames : ∀ t, some noteTable = some t → ∀ e ∈ t.entries,
      ':' ∉ e.1.toList ∧ e.1.toList.head? ≠ some '<' := by
    intro t ht
    cases ht
    decide
  exact ⟨bindAll_noteTable, query_expands_to_plain_query hnames noteQuery render_noteQuery⟩

end ShaclQuery
