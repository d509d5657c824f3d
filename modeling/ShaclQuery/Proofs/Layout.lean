import ShaclQuery.Query.Text

/-! # The layout of query text

Query text is a layout of lines with terms in it. The layout depends on the pattern alone; prefixes
only change how its terms are shown. So whether a text is written, what it says and which prefixes
it uses can all be read off the terms of the pattern.
-/

namespace ShaclQuery

/-! ## 1. Terms as they are shown -/

def Term.isWritable : Term → Bool
  | .iri text => isWritableIri text
  | _ => true

/-- How an IRI stands in a text: in full, or as the rest behind a prefix. -/
inductive IriForm
  | full (iri : String)
  | short (name rest : String)
  deriving DecidableEq, Repr

def IriForm.text : IriForm → String
  | .full iri => "<" ++ iri ++ ">"
  | .short name rest => name ++ ":" ++ rest

def iriForm (table : Option PrefixTable) (iri : String) : IriForm :=
  match table.bind (·.shorten? iri) with
  | some (name, rest) => .short name rest
  | none => .full iri

def Term.shown (form : String → String) : Term → String
  | .iri text => form text
  | .blank label => "_:" ++ label
  | .var name => "?" ++ name
  | .literal l => l.written

def Term.piece (table : Option PrefixTable) (t : Term) : Piece where
  text := t.shown fun iri => (iriForm table iri).text
  uses := match t with
    | .iri text =>
      match iriForm table text with
      | .full _ => []
      | .short name rest => declared (name ++ ":" ++ rest)
    | _ => []

/-- Whether a term can be written does not depend on the table. -/
theorem writeTerm_some (table : Option PrefixTable) (t : Term) :
    writeTerm table (some t) =
      if t.isWritable then .ok (t.piece table) else .error (.term (.badIri t.bareText)) := by
  cases t with
  | iri text =>
    -- an IRI is checked before it is shortened
    by_cases hwritable : Term.isWritableIri text = true
    · have hwritten : (Term.iri text).written = .ok ("<" ++ text ++ ">") := if_pos hwritable
      unfold writeTerm
      simp only [hwritten, Term.isWritable, hwritable, if_true]
      cases table with
      | none => rfl
      | some t =>
        cases hshort : t.shorten? text with
        | none => simp [Term.piece, Term.shown, iriForm, hshort, IriForm.text]
        | some pair => simp [Term.piece, Term.shown, iriForm, hshort, IriForm.text]
    · have hwritten : (Term.iri text).written = .error (.badIri text) := if_neg hwritable
      unfold writeTerm
      simp only [hwritten, Term.isWritable, hwritable]
      rfl
  | blank label => rfl
  | var name => rfl
  | literal l => rfl

theorem writeTerm_eq_ok_iff {table : Option PrefixTable} {t : Option Term} {piece : Piece} :
    writeTerm table t = .ok piece ↔
      ∃ x, t = some x ∧ x.isWritable = true ∧ piece = x.piece table := by
  cases t with
  | none => simp [writeTerm]
  | some x =>
    rw [writeTerm_some]
    by_cases hx : x.isWritable = true
    · rw [if_pos hx, Except.ok.injEq]
      constructor
      · rintro rfl
        exact ⟨x, rfl, hx, rfl⟩
      · rintro ⟨_, heq, _, rfl⟩
        cases heq
        rfl
    · simp [hx]

def shownAs (form : String → String) : Option Term → String
  | none => ""
  | some t => t.shown form

def shownBy (table : Option PrefixTable) : Option Term → String :=
  shownAs fun iri => (iriForm table iri).text

theorem shownBy_of_ok {table : Option PrefixTable} {t : Option Term} {piece : Piece}
    (h : writeTerm table t = .ok piece) : shownBy table t = piece.text := by
  obtain ⟨x, rfl, _, rfl⟩ := writeTerm_eq_ok_iff.1 h
  rfl

/-! ## 2. Terms and lines of a pattern -/

def Element.terms : Element → List (Option Term)
  | .triple t => [t.subject, t.predicate, t.object]
  | .oneOf v values => values ++ [v]

def Block.terms (b : Block) : List (Option Term) := b.elements.flatMap Element.terms

def Pattern.terms (p : Pattern) : List (Option Term) := p.alternatives.flatMap Block.terms

section Lines

variable (shown : Option Term → String)

def Element.text : Element → String
  | .triple t => shown t.subject ++ " " ++ shown t.predicate ++ " " ++ shown t.object ++ " ."
  | .oneOf v values =>
    "FILTER ( " ++ shown v ++ " IN (" ++ String.intercalate ", " (values.map shown) ++ ") )"

def Block.lines (depth : Nat) (b : Block) : List String :=
  b.elements.map fun e => indent depth ++ e.text shown

def Block.braced (depth : Nat) (b : Block) : List String :=
  (indent depth ++ "\x7b") :: (b.lines shown (depth + 1) ++ [indent depth ++ "\x7d"])

def unionTexts (depth : Nat) : List Block → List String
  | [] => []
  | [b] => b.braced shown depth
  | b :: rest => b.braced shown depth ++ (indent depth ++ "UNION") :: unionTexts depth rest

def Pattern.lines (depth : Nat) : Pattern → List String
  | .block b => b.lines shown depth
  | .union [b] => b.lines shown depth
  | .union bs => unionTexts shown depth bs

end Lines

/-! The lines of a pattern depend on how its own terms are shown and on nothing else. -/

section Congruence

variable {shown shown' : Option Term → String}

theorem Element.text_congr {e : Element} (h : ∀ t ∈ e.terms, shown t = shown' t) :
    e.text shown = e.text shown' := by
  cases e with
  | triple t =>
    simp only [Element.terms, List.forall_mem_cons] at h
    obtain ⟨hs, hp, ho, _⟩ := h
    simp only [Element.text, hs, hp, ho]
  | oneOf v values =>
    simp only [Element.terms, List.forall_mem_append, List.forall_mem_singleton] at h
    obtain ⟨hvalues, hv⟩ := h
    simp only [Element.text, hv, List.map_congr_left hvalues]

theorem Block.lines_congr {depth : Nat} {b : Block} (h : ∀ t ∈ b.terms, shown t = shown' t) :
    b.lines shown depth = b.lines shown' depth := by
  refine List.map_congr_left fun e he => ?_
  have htext : e.text shown = e.text shown' :=
    Element.text_congr fun t ht => h t (List.mem_flatMap_of_mem he ht)
  rw [htext]

theorem unionTexts_congr {depth : Nat} {bs : List Block}
    (h : ∀ t ∈ bs.flatMap Block.terms, shown t = shown' t) :
    unionTexts shown depth bs = unionTexts shown' depth bs := by
  induction bs with
  | nil => rfl
  | cons b rest ih =>
    rw [List.flatMap_cons, List.forall_mem_append] at h
    have hbraced : b.braced shown depth = b.braced shown' depth := by
      simp only [Block.braced, Block.lines_congr h.1]
    cases rest with
    | nil => exact hbraced
    | cons c rest => simp only [unionTexts, hbraced, ih h.2]

theorem Pattern.lines_congr {depth : Nat} {p : Pattern} (h : ∀ t ∈ p.terms, shown t = shown' t) :
    p.lines shown depth = p.lines shown' depth := by
  rcases p with b | bs
  · exact Block.lines_congr fun t ht => h t (List.mem_flatMap_of_mem (List.mem_singleton_self b) ht)
  · rcases bs with _ | ⟨b, _ | ⟨c, rest⟩⟩
    · rfl
    · exact Block.lines_congr
        fun t ht => h t (List.mem_flatMap_of_mem (List.mem_singleton_self b) ht)
    · exact unionTexts_congr h

end Congruence

theorem Pattern.terms_collapse (p : Pattern) : p.collapse.terms = p.terms := by
  rcases p with b | bs
  · rfl
  · rcases bs with _ | ⟨b, _ | ⟨c, rest⟩⟩ <;> rfl

theorem Pattern.lines_collapse (shown : Option Term → String) (depth : Nat) (p : Pattern) :
    p.collapse.lines shown depth = p.lines shown depth := by
  rcases p with b | bs
  · rfl
  · rcases bs with _ | ⟨b, _ | ⟨c, rest⟩⟩ <;> rfl

/-! ## 3. What comes of writing -/

/-- What comes of writing some lines with these terms: when every term can be written the lines have
these texts and use the prefixes of the terms, and else there is the error of a term. -/
inductive Lays (table : Option PrefixTable) (terms : List (Option Term)) (texts : List String) :
    Except RenderError (List Piece) → Prop
  | ok {pieces : List Piece} (terms_ok : ∀ t ∈ terms, ∃ piece, writeTerm table t = .ok piece)
      (texts_eq : pieces.map (·.text) = texts)
      (mem_uses : ∀ name, name ∈ pieces.flatMap (·.uses) ↔
        ∃ t ∈ terms, ∃ piece, writeTerm table t = .ok piece ∧ name ∈ piece.uses) :
      Lays table terms texts (.ok pieces)
  | error {t : Option Term} {e : RenderError} (mem : t ∈ terms)
      (term_error : writeTerm table t = .error e) : Lays table terms texts (.error e)

namespace Lays

variable {table : Option PrefixTable} {terms terms' : List (Option Term)}
  {texts texts' : List String} {result result' : Except RenderError (List Piece)}

theorem nil : Lays table [] [] (.ok []) :=
  .ok (fun t ht => absurd ht List.not_mem_nil) rfl (by simp)

theorem plain (depth : Nat) (text : String) :
    Lays table [] [indent depth ++ text] (.ok [plainLine depth text]) :=
  .ok (fun t ht => absurd ht List.not_mem_nil) rfl (by simp [plainLine])

theorem append (h : Lays table terms texts result) (h' : Lays table terms' texts' result') :
    Lays table (terms ++ terms') (texts ++ texts')
      (result.bind fun first => result'.map fun more => first ++ more) := by
  -- the first error wins, and later lines are not looked at
  cases h with
  | error ht he => exact .error (List.mem_append_left _ ht) he
  | ok hterms htexts huses =>
    cases h' with
    | error ht he => exact .error (List.mem_append_right _ ht) he
    | ok hterms' htexts' huses' =>
      refine .ok ?_ ?_ ?_
      · intro t ht
        rcases List.mem_append.1 ht with ht | ht
        · exact hterms t ht
        · exact hterms' t ht
      · rw [List.map_append, htexts, htexts']
      · intro name
        simp only [List.flatMap_append, List.mem_append, huses, huses', or_and_right, exists_or]

/-- Lines that are written one after the other. -/
theorem mapM {α : Type} {write : α → Except RenderError Piece} {termsOf : α → List (Option Term)}
    {textOf : α → String}
    (h : ∀ a, Lays table (termsOf a) [textOf a] ((write a).map fun piece => [piece])) (l : List α) :
    Lays table (l.flatMap termsOf) (l.map textOf) (l.mapM write) := by
  induction l with
  | nil => exact nil
  | cons a rest ih =>
    have hall := (h a).append ih
    rw [List.mapM_cons]
    generalize write a = first at hall ⊢
    generalize rest.mapM write = more at hall ⊢
    cases first with
    | error e => exact hall
    | ok piece =>
      cases more with
      | error e => exact hall
      | ok pieces => exact hall

/-- Without a table, lines with terms that can be written are written, and use no prefix. -/
theorem exists_eq_ok_of_writable (h : Lays none terms texts result)
    (hterms : ∀ t ∈ terms, ∃ x, t = some x ∧ x.isWritable = true) :
    ∃ pieces, result = .ok pieces ∧ pieces.map (·.text) = texts ∧ pieces.flatMap (·.uses) = [] := by
  cases h with
  | @ok pieces _ htexts huses =>
    refine ⟨pieces, rfl, htexts, List.eq_nil_iff_forall_not_mem.2 fun name hname => ?_⟩
    obtain ⟨t, _, piece, hpiece, hused⟩ := (huses name).1 hname
    obtain ⟨x, _, _, rfl⟩ := writeTerm_eq_ok_iff.1 hpiece
    cases x <;> exact absurd hused List.not_mem_nil
  | error ht he =>
    obtain ⟨x, rfl, hx⟩ := hterms _ ht
    rw [writeTerm_some, if_pos hx] at he
    cases he

end Lays

/-! ## 4. Writing a pattern -/

section Writing

variable (table : Option PrefixTable) (depth : Nat)

theorem lays_term (t : Option Term) :
    Lays table [t] [shownBy table t] ((writeTerm table t).map fun piece => [piece]) := by
  cases ht : writeTerm table t with
  | error e => exact .error List.mem_cons_self ht
  | ok piece => exact .ok (by simp [ht]) (by simp [shownBy_of_ok ht]) (by simp [ht])

theorem lays_terms (terms : List (Option Term)) :
    Lays table terms (terms.map (shownBy table)) (terms.mapM (writeTerm table)) := by
  have h := Lays.mapM (lays_term table) terms
  rwa [List.flatMap_singleton'] at h

/-- The values of a filter are looked at before its variable, which decides which error there is. -/
theorem lays_element (e : Element) :
    Lays table e.terms [indent depth ++ e.text (shownBy table)]
      ((elementLine table depth e).map fun piece => [piece]) := by
  cases e with
  | triple t =>
    simp only [elementLine, writeElement, Element.terms]
    cases hs : writeTerm table t.subject with
    | error e => exact .error List.mem_cons_self hs
    | ok s =>
      cases hp : writeTerm table t.predicate with
      | error e => exact .error (List.mem_cons_of_mem _ List.mem_cons_self) hp
      | ok p =>
        cases ho : writeTerm table t.object with
        | error e => exact .error (by simp) ho
        | ok o =>
          refine .ok (by simp [hs, hp, ho]) ?_ (by simp [hs, hp, ho])
          simp [Element.text, shownBy_of_ok hs, shownBy_of_ok hp, shownBy_of_ok ho]
  | oneOf v values =>
    -- the values are looked at before the term in front of them
    simp only [elementLine, writeElement, Element.terms]
    have hvalues := lays_terms table values
    generalize values.mapM (writeTerm table) = written at hvalues ⊢
    cases hvalues with
    | error ht he => exact .error (List.mem_append_left _ ht) he
    | ok hterms htexts huses =>
      cases hv : writeTerm table v with
      | error e => exact .error (by simp) hv
      | ok x =>
        refine .ok ?_ ?_ ?_
        · simpa [or_imp, forall_and, hv] using hterms
        · simp [Element.text, shownBy_of_ok hv, htexts]
        · intro name
          have hname := huses name
          simp only [List.mem_flatMap] at hname
          simp [hname, or_and_right, exists_or, hv]

theorem lays_block (b : Block) :
    Lays table b.terms (b.lines (shownBy table) depth) (blockLines table depth b) :=
  Lays.mapM (lays_element table depth) b.elements

theorem lays_braced (b : Block) :
    Lays table b.terms (b.braced (shownBy table) depth) (bracedLines table depth b) := by
  have h := (Lays.plain depth "\x7b").append
    ((lays_block table (depth + 1) b).append (Lays.plain depth "\x7d"))
  rw [List.append_nil, List.nil_append] at h
  unfold bracedLines
  generalize blockLines table (depth + 1) b = lines at h ⊢
  cases lines with
  | error e => exact h
  | ok lines => exact h

theorem lays_union (bs : List Block) :
    Lays table (bs.flatMap Block.terms) (unionTexts (shownBy table) depth bs)
      (unionLines table depth bs) := by
  induction bs with
  | nil => exact Lays.nil
  | cons b rest ih =>
    cases rest with
    | nil =>
      rw [List.flatMap_singleton]
      exact lays_braced table depth b
    | cons c rest =>
      have h := (lays_braced table depth b).append ((Lays.plain depth "UNION").append ih)
      rw [List.nil_append, ← List.flatMap_cons] at h
      simp only [unionLines]
      generalize bracedLines table depth b = first at h ⊢
      generalize unionLines table depth (c :: rest) = more at h ⊢
      cases first with
      | error e => exact h
      | ok first =>
        cases more with
        | error e => exact h
        | ok more => exact h

/-- The lines of a pattern are its layout with the terms shown by the table. -/
theorem lays_pattern (p : Pattern) :
    Lays table p.terms (p.lines (shownBy table) depth) (patternLines table depth p) := by
  rcases p with b | bs
  · rw [Pattern.terms, Pattern.alternatives, List.flatMap_singleton]
    exact lays_block table depth b
  · rcases bs with _ | ⟨b, _ | ⟨c, rest⟩⟩
    · exact Lays.nil
    · -- a union of one block is written as the block
      rw [Pattern.terms, Pattern.alternatives, List.flatMap_singleton]
      exact lays_block table depth b
    · exact lays_union table depth (b :: c :: rest)

end Writing

end ShaclQuery
