import Mathlib.Data.List.TakeDrop
import ShaclQuery.Proofs.Layout

/-! # Reading patterns back

The text of a pattern determines the pattern, up to a union of one block that is written as the
block. A reader goes through the text from left to right and never has to look back: an IRI ends at
its bracket, whatever else stands in it, a name ends at a character that names do not have, and
every other piece of the text starts with characters that no term starts with.
-/

namespace ShaclQuery

/-! ## 1. Readers -/

abbrev Reader (α : Type) := List Char → Option (α × List Char)

def skip? (word : String) (text : List Char) : Option (List Char) :=
  if word.toList.isPrefixOf text then some (text.drop word.toList.length) else none

def readMany {α : Type} (read : Reader α) (text : List Char) : List α × List Char :=
  match read text with
  | none => ([], text)
  | some (a, rest) =>
    if rest.length < text.length then
      let more := readMany read rest
      (a :: more.1, more.2)
    else ([], text)
termination_by text.length

def readSeparated? {α : Type} (separator : String) (read : Reader α) : Reader (List α) :=
  fun text => do
    let (first, text) ← read text
    let (more, text) := readMany (fun text => (skip? separator text).bind read) text
    some (first :: more, text)

def isWordChar (c : Char) : Bool := c.isAlphanum || c == '_'

def readTerm? : Reader Term
  | '<' :: text =>
    match text.span (· != '>') with
    | (iri, '>' :: rest) => some (.iri (String.ofList iri), rest)
    | _ => none
  | '?' :: text =>
    let (name, rest) := text.span isWordChar
    some (.var (String.ofList name), rest)
  | '_' :: ':' :: text =>
    let (label, rest) := text.span isWordChar
    some (.blank (String.ofList label), rest)
  | _ => none

def readTriple? : Reader Element := fun text => do
  let (s, text) ← readTerm? text
  let text ← skip? " " text
  let (p, text) ← readTerm? text
  let text ← skip? " " text
  let (o, text) ← readTerm? text
  let text ← skip? " ." text
  some (.triple ⟨some s, some p, some o⟩, text)

def readValues (text : List Char) : List Term × List Char :=
  (readSeparated? ", " readTerm? text).getD ([], text)

def readFilter? : Reader Element := fun text => do
  let text ← skip? "FILTER ( " text
  let (v, text) ← readTerm? text
  let text ← skip? " IN (" text
  let (values, text) := readValues text
  let text ← skip? ") )" text
  some (.oneOf (some v) (values.map some), text)

def readLine? (depth : Nat) : Reader Element := fun text => do
  let text ← skip? (indent depth) text
  let (e, text) ← (readTriple? text).or (readFilter? text)
  let text ← skip? "\n" text
  some (e, text)

def readBraced? : Reader Block := fun text => do
  let text ← skip? "  \x7b\n" text
  let (elements, text) := readMany (readLine? 2) text
  let text ← skip? "  \x7d\n" text
  some (⟨elements⟩, text)

/-- The pattern that a text is written of: the lines of a block or else those of a union, and
nothing else. The last line has no line end in the text and gets one. -/
def decode? (text : String) : Option Pattern :=
  let text := text.toList ++ ['\n']
  let (elements, rest) := readMany (readLine? 1) text
  if rest = [] ∨ text = ['\n'] then some (.block ⟨elements⟩)
  else
    match readSeparated? "  UNION\n" readBraced? text with
    | some (blocks, []) => some (.union blocks)
    | _ => none

/-! ## 2. Reading what was written -/

@[simp]
theorem skip?_append (word : String) (rest : List Char) :
    skip? word (word.toList ++ rest) = some rest := by
  simp [skip?]

theorem span_append {p : Char → Bool} {front rest : List Char} (hfront : ∀ c ∈ front, p c = true)
    (hrest : ∀ c, rest.head? = some c → p c = false) : (front ++ rest).span p = (front, rest) := by
  rw [List.span_eq_takeWhile_dropWhile, List.takeWhile_append_of_pos hfront,
    List.dropWhile_append_of_pos hfront]
  cases rest with
  | nil => simp
  | cons c cs => simp [hrest c rfl]

section Many

variable {α : Type} {read : Reader α} {print : α → List Char} (ready : List Char → Prop)

theorem readMany_of_none {text : List Char} (h : read text = none) :
    readMany read text = ([], text) := by
  rw [readMany, h]

/-- Things that can be read one by one, when what follows lets them, can be read in a row. -/
theorem readMany_flatMap {as : List α} {rest : List Char}
    (hread : ∀ a ∈ as, ∀ rest, ready rest → read (print a ++ rest) = some (a, rest))
    (hprint : ∀ a, print a ≠ []) (hready : ∀ a rest, ready (print a ++ rest))
    (hrest : ready rest) (hstop : read rest = none) :
    readMany read (as.flatMap print ++ rest) = (as, rest) := by
  induction as with
  | nil =>
    rw [List.flatMap_nil, List.nil_append, readMany_of_none hstop]
  | cons a more ih =>
    -- what follows is the next thing, or the rest
    have hmore : ready (more.flatMap print ++ rest) := by
      cases more with
      | nil => exact hrest
      | cons b more =>
        rw [List.flatMap_cons, List.append_assoc]
        exact hready b _
    -- every reading takes something off the text, so reading goes on
    have hshorter : (more.flatMap print ++ rest).length <
        (print a ++ (more.flatMap print ++ rest)).length := by
      have hpos : 0 < (print a).length := List.length_pos_iff.2 (hprint a)
      simp only [List.length_append]
      omega
    have hfirst := hread a List.mem_cons_self _ hmore
    have htail := ih fun b hb => hread b (List.mem_cons_of_mem _ hb)
    rw [List.flatMap_cons, List.append_assoc, readMany, hfirst]
    simp only [if_pos hshorter, htail]

theorem intercalate_cons_eq (separator first : List Char) (more : List (List Char)) :
    separator.intercalate (first :: more) = first ++ more.flatMap (separator ++ ·) := by
  induction more generalizing first with
  | nil => simp
  | cons next more ih =>
    rw [List.intercalate_cons_cons, ih, List.flatMap_cons, List.append_assoc,
      List.append_assoc separator]

theorem readSeparated?_intercalate {separator : String} {as : List α} (has : as ≠ [])
    {rest : List Char}
    (hread : ∀ a ∈ as, ∀ rest, ready rest → read (print a ++ rest) = some (a, rest))
    (hseparator : separator.toList ≠ []) (hready : ∀ rest, ready (separator.toList ++ rest))
    (hrest : ready rest) (hstop : skip? separator rest = none) :
    readSeparated? separator read (separator.toList.intercalate (as.map print) ++ rest) =
      some (as, rest) := by
  cases as with
  | nil => exact absurd rfl has
  | cons a more =>
    have hmany : readMany (fun text => (skip? separator text).bind read)
        (more.flatMap (fun b => separator.toList ++ print b) ++ rest) = (more, rest) := by
      apply readMany_flatMap ready
      · intro b hb rest hrest
        rw [List.append_assoc, skip?_append]
        exact hread b (List.mem_cons_of_mem _ hb) rest hrest
      · intro b h
        exact hseparator (List.append_eq_nil_iff.1 h).1
      · intro b rest
        rw [List.append_assoc]
        exact hready _
      · exact hrest
      · rw [hstop]
        rfl
    -- behind the first one comes a separator or the rest
    have hnext : ready (more.flatMap (fun b => separator.toList ++ print b) ++ rest) := by
      cases more with
      | nil => exact hrest
      | cons b more =>
        rw [List.flatMap_cons, List.append_assoc, List.append_assoc]
        exact hready _
    have hfirst := hread a List.mem_cons_self _ hnext
    rw [List.map_cons, intercalate_cons_eq, List.flatMap_map, List.append_assoc, readSeparated?]
    simp [hfirst, hmany]

end Many

/-! ## 3. Terms and elements -/

/-- Terms that can be told apart in a text: IRIs that can be written, and variables and blank nodes
whose names have characters of names only. -/
def Term.isReadable : Term → Bool
  | .iri text => isWritableIri text
  | .blank label => label.toList.all isWordChar
  | .var name => name.toList.all isWordChar
  | .literal _ => false

def EndsName (text : List Char) : Prop := ∀ c, text.head? = some c → isWordChar c = false

theorem endsName_cons {c : Char} {text : List Char} (h : isWordChar c = false) :
    EndsName (c :: text) := by
  intro c' hc'
  cases hc'
  exact h

theorem ne_bracket_of_isWritableIri {iri : String} (h : Term.isWritableIri iri = true) :
    ∀ c ∈ iri.toList, (c != '>') = true := by
  intro c hc
  have hstops : ∀ c ∈ iri.toList, c ∉ Term.iriStops := by
    simpa [Term.isWritableIri] using h
  refine bne_iff_ne.2 fun heq => hstops c hc ?_
  rw [heq]
  decide

/-- A term can be read back where the text does not go on with a character of names. -/
theorem readTerm?_shown {t : Term} (ht : t.isReadable = true) {rest : List Char}
    (hrest : EndsName rest) :
    readTerm? ((shownBy none (some t)).toList ++ rest) = some (t, rest) := by
  cases t with
  | iri text =>
    have hshown : (shownBy none (some (.iri text))).toList ++ rest =
        '<' :: (text.toList ++ '>' :: rest) := by
      simp [shownBy, shownAs, Term.shown, iriForm, IriForm.text, String.toList_append]
    have hspan : (text.toList ++ '>' :: rest).span (· != '>') = (text.toList, '>' :: rest) :=
      span_append (ne_bracket_of_isWritableIri ht) (by simp)
    rw [hshown]
    simp only [readTerm?, hspan, String.ofList_toList]
  | blank label =>
    have hshown : (shownBy none (some (.blank label))).toList ++ rest =
        '_' :: ':' :: (label.toList ++ rest) := by
      simp [shownBy, shownAs, Term.shown, String.toList_append]
    have hspan := span_append (List.all_eq_true.1 ht) hrest
    rw [hshown]
    simp only [readTerm?, hspan, String.ofList_toList]
  | var name =>
    have hshown : (shownBy none (some (.var name))).toList ++ rest =
        '?' :: (name.toList ++ rest) := by
      simp [shownBy, shownAs, Term.shown, String.toList_append]
    have hspan := span_append (List.all_eq_true.1 ht) hrest
    rw [hshown]
    simp only [readTerm?, hspan, String.ofList_toList]
  | literal l => cases ht

theorem readTriple?_text {s p o : Term} (hs : s.isReadable = true) (hp : p.isReadable = true)
    (ho : o.isReadable = true) (rest : List Char) :
    readTriple? (((Element.triple ⟨some s, some p, some o⟩).text (shownBy none)).toList ++ rest) =
      some (.triple ⟨some s, some p, some o⟩, rest) := by
  have htext : ((Element.triple ⟨some s, some p, some o⟩).text (shownBy none)).toList ++ rest =
      (shownBy none (some s)).toList ++ (" ".toList ++ ((shownBy none (some p)).toList ++
        (" ".toList ++ ((shownBy none (some o)).toList ++ (" .".toList ++ rest))))) := by
    simp only [Element.text, String.toList_append, List.append_assoc]
  have hblank : ∀ text, EndsName (" ".toList ++ text) := fun text => endsName_cons rfl
  have hdot : EndsName (" .".toList ++ rest) := endsName_cons rfl
  rw [htext, readTriple?]
  simp only [readTerm?_shown hs (hblank _), readTerm?_shown hp (hblank _), readTerm?_shown ho hdot,
    skip?_append, bind, Option.bind]

theorem readValues_intercalate {values : List Term} (h : ∀ t ∈ values, t.isReadable = true)
    (rest : List Char) :
    readValues (", ".toList.intercalate (values.map fun t => (shownBy none (some t)).toList) ++
      (")".toList ++ rest)) = (values, ")".toList ++ rest) := by
  by_cases hvalues : values = []
  · -- no term starts with the bracket that closes the list
    subst hvalues
    rfl
  · have hread : readSeparated? ", " readTerm?
        (", ".toList.intercalate (values.map fun t => (shownBy none (some t)).toList) ++
          (")".toList ++ rest)) = some (values, ")".toList ++ rest) :=
      readSeparated?_intercalate EndsName hvalues (fun t ht _ hend => readTerm?_shown (h t ht) hend)
        (by decide) (fun _ => endsName_cons rfl) (endsName_cons rfl) rfl
    rw [readValues, hread, Option.getD_some]

theorem readFilter?_text {v : Term} {values : List Term} (hv : v.isReadable = true)
    (hvalues : ∀ t ∈ values, t.isReadable = true) (rest : List Char) :
    readFilter? (((Element.oneOf (some v) (values.map some)).text (shownBy none)).toList ++ rest) =
      some (.oneOf (some v) (values.map some), rest) := by
  have htext : ((Element.oneOf (some v) (values.map some)).text (shownBy none)).toList ++ rest =
      "FILTER ( ".toList ++ ((shownBy none (some v)).toList ++ (" IN (".toList ++
        (", ".toList.intercalate (values.map fun t => (shownBy none (some t)).toList) ++
          (")".toList ++ (" )".toList ++ rest))))) := by
    simp only [Element.text, String.toList_append, List.append_assoc, String.toList_intercalate,
      List.map_map]
    rfl
  have hin : ∀ text, EndsName (" IN (".toList ++ text) := fun text => endsName_cons rfl
  have hclose : skip? ") )" (")".toList ++ (" )".toList ++ rest)) = some rest := skip?_append _ _
  rw [htext, readFilter?]
  simp only [readTerm?_shown hv (hin _), readValues_intercalate hvalues, hclose, skip?_append, bind,
    Option.bind]

def AllReadable (terms : List (Option Term)) : Prop :=
  ∀ t ∈ terms, t.any Term.isReadable = true

theorem AllReadable.exists_map_some {terms : List (Option Term)} (h : AllReadable terms) :
    ∃ xs : List Term, terms = xs.map some ∧ ∀ x ∈ xs, x.isReadable = true := by
  induction terms with
  | nil => exact ⟨[], rfl, by simp⟩
  | cons t rest ih =>
    obtain ⟨x, rfl, hx⟩ := (Option.any_eq_true _ _).1 (h t List.mem_cons_self)
    obtain ⟨xs, rfl, hxs⟩ := ih fun t' ht' => h t' (List.mem_cons_of_mem _ ht')
    exact ⟨x :: xs, rfl, List.forall_mem_cons.2 ⟨hx, hxs⟩⟩

/-- A triple cannot be taken for a filter: no term starts like one. -/
theorem readElement_text {e : Element} (he : AllReadable e.terms) (rest : List Char) :
    (readTriple? ((e.text (shownBy none)).toList ++ rest)).or
      (readFilter? ((e.text (shownBy none)).toList ++ rest)) = some (e, rest) := by
  cases e with
  | triple t =>
    obtain ⟨subject, predicate, object⟩ := t
    obtain ⟨s, rfl, hs⟩ := (Option.any_eq_true _ _).1 (he subject (by simp [Element.terms]))
    obtain ⟨p, rfl, hp⟩ := (Option.any_eq_true _ _).1 (he predicate (by simp [Element.terms]))
    obtain ⟨o, rfl, ho⟩ := (Option.any_eq_true _ _).1 (he object (by simp [Element.terms]))
    rw [readTriple?_text hs hp ho]
    rfl
  | oneOf v values =>
    obtain ⟨x, rfl, hx⟩ := (Option.any_eq_true _ _).1 (he v (by simp [Element.terms]))
    obtain ⟨xs, rfl, hxs⟩ := AllReadable.exists_map_some
      fun t ht => he t (List.mem_append_left _ ht)
    -- the first letter of a filter is not the start of a term
    have hnot : readTriple?
        (((Element.oneOf (some x) (xs.map some)).text (shownBy none)).toList ++ rest) = none := by
      simp only [Element.text, String.toList_append, List.append_assoc]
      rfl
    rw [hnot, readFilter?_text hx hxs]
    rfl

/-! ## 4. Lines and patterns -/

def lineText (line : String) : List Char := line.toList ++ ['\n']

theorem readLine?_lineText {e : Element} (he : AllReadable e.terms) (depth : Nat)
    (rest : List Char) :
    readLine? depth (lineText (indent depth ++ e.text (shownBy none)) ++ rest) =
      some (e, rest) := by
  have htext : lineText (indent depth ++ e.text (shownBy none)) ++ rest =
      (indent depth).toList ++ ((e.text (shownBy none)).toList ++ ("\n".toList ++ rest)) := by
    simp [lineText, String.toList_append]
  rw [htext, readLine?]
  simp only [skip?_append, readElement_text he, bind, Option.bind]

theorem readMany_lines {b : Block} (hb : AllReadable b.terms) (depth : Nat) {rest : List Char}
    (hstop : readLine? depth rest = none) :
    readMany (readLine? depth) ((b.lines (shownBy none) depth).flatMap lineText ++ rest) =
      (b.elements, rest) := by
  rw [Block.lines, List.flatMap_map]
  refine readMany_flatMap (fun _ => True) (fun e he rest _ => ?_) (fun e => ?_) (fun _ _ => trivial)
    trivial hstop
  · exact readLine?_lineText (fun t ht => hb t (List.mem_flatMap_of_mem he ht)) depth rest
  · exact List.append_ne_nil_of_right_ne_nil _ (List.cons_ne_nil _ _)

theorem readBraced?_lines {b : Block} (hb : AllReadable b.terms) (rest : List Char) :
    readBraced? ((b.braced (shownBy none) 1).flatMap lineText ++ rest) = some (b, rest) := by
  have htext : (b.braced (shownBy none) 1).flatMap lineText ++ rest =
      "  \x7b\n".toList ++ ((b.lines (shownBy none) 2).flatMap lineText ++
        ("  \x7d\n".toList ++ rest)) := by
    simp only [Block.braced, List.flatMap_cons, List.flatMap_append, List.append_assoc]
    rfl
  -- the closing brace is not indented enough for a line of the block
  have hstop : readLine? 2 ("  \x7d\n".toList ++ rest) = none := rfl
  rw [htext, readBraced?]
  simp only [skip?_append, readMany_lines hb 2 hstop, bind, Option.bind]

theorem flatMap_unionTexts (bs : List Block) :
    (unionTexts (shownBy none) 1 bs).flatMap lineText =
      "  UNION\n".toList.intercalate
        (bs.map fun b => (b.braced (shownBy none) 1).flatMap lineText) := by
  induction bs with
  | nil => rfl
  | cons b rest ih =>
    cases rest with
    | nil => simp [unionTexts]
    | cons c rest =>
      rw [List.map_cons] at ih
      rw [List.map_cons, List.map_cons, List.intercalate_cons_cons, ← ih]
      simp only [unionTexts, List.flatMap_append, List.flatMap_cons, List.append_assoc]
      rfl

theorem toList_joinLines {lines : List String} (h : lines ≠ []) :
    (joinLines lines).toList ++ ['\n'] = lines.flatMap lineText := by
  cases lines with
  | nil => exact absurd rfl h
  | cons line more =>
    rw [joinLines, String.toList_intercalate, List.map_cons]
    clear h
    induction more generalizing line with
    | nil => simp [lineText]
    | cons next more ih =>
      rw [List.map_cons, List.intercalate_cons_cons, List.append_assoc, ih]
      simp [lineText]

theorem decode?_block {b : Block} (hb : AllReadable b.terms) :
    decode? (joinLines (b.lines (shownBy none) 1)) = some (.block b) := by
  obtain ⟨elements⟩ := b
  cases elements with
  | nil =>
    -- without lines there is only the line end that reading puts behind the text
    have hmany : readMany (readLine? 1) ['\n'] = ([], ['\n']) := readMany_of_none rfl
    have htext :
        (joinLines ((⟨[]⟩ : Block).lines (shownBy none) 1)).toList ++ ['\n'] = ['\n'] := rfl
    simp only [decode?, htext, hmany, or_true, if_true]
  | cons e more =>
    have hlines : (⟨e :: more⟩ : Block).lines (shownBy none) 1 ≠ [] := List.cons_ne_nil _ _
    have hmany : readMany (readLine? 1)
        (((⟨e :: more⟩ : Block).lines (shownBy none) 1).flatMap lineText ++ []) = (e :: more, []) :=
      readMany_lines hb 1 rfl
    rw [List.append_nil] at hmany
    simp only [decode?, toList_joinLines hlines, hmany, true_or, if_true]

/-- No line of a union is a line of a block, so that the first reading fails and the second one
counts. -/
theorem decode?_union {b c : Block} {rest : List Block}
    (h : AllReadable ((b :: c :: rest).flatMap Block.terms)) :
    decode? (joinLines (unionTexts (shownBy none) 1 (b :: c :: rest))) =
      some (.union (b :: c :: rest)) := by
  have hread : readSeparated? "  UNION\n" readBraced?
      ("  UNION\n".toList.intercalate
        ((b :: c :: rest).map fun b => (b.braced (shownBy none) 1).flatMap lineText) ++ []) =
      some (b :: c :: rest, []) := by
    refine readSeparated?_intercalate (fun _ => True) (List.cons_ne_nil _ _) (fun b hb rest _ => ?_)
      (by decide) (fun _ => trivial) trivial rfl
    exact readBraced?_lines (fun t ht => h t (List.mem_flatMap_of_mem hb ht)) rest
  rw [List.append_nil, ← flatMap_unionTexts] at hread
  have hlines : unionTexts (shownBy none) 1 (b :: c :: rest) ≠ [] := List.cons_ne_nil _ _
  have hopen : ∃ more, (unionTexts (shownBy none) 1 (b :: c :: rest)).flatMap lineText =
      ' ' :: ' ' :: '\x7b' :: more := ⟨_, rfl⟩
  obtain ⟨more, hopen⟩ := hopen
  -- no element starts with the brace that opens the first block
  have hmany : readMany (readLine? 1) (' ' :: ' ' :: '\x7b' :: more) =
      ([], ' ' :: ' ' :: '\x7b' :: more) := readMany_of_none rfl
  rw [hopen] at hread
  simp [decode?, toList_joinLines hlines, hopen, hmany, hread]

/-! ## 5. Patterns -/

/-- Patterns that a text can stand for: there is an alternative, and all terms are there and can be
told apart. -/
structure Pattern.Readable (p : Pattern) : Prop where
  alternatives_ne_nil : p.alternatives ≠ []
  terms_readable : AllReadable p.terms

theorem Pattern.Readable.decode?_lines {p : Pattern} (h : p.Readable) :
    decode? (joinLines (p.lines (shownBy none) 1)) = some p.collapse := by
  obtain ⟨hne, hterms⟩ := h
  rcases p with b | bs
  · rw [Pattern.terms, Pattern.alternatives, List.flatMap_singleton] at hterms
    exact decode?_block hterms
  · rcases bs with _ | ⟨b, _ | ⟨c, rest⟩⟩
    · exact absurd rfl hne
    · rw [Pattern.terms, Pattern.alternatives, List.flatMap_singleton] at hterms
      exact decode?_block hterms
    · exact decode?_union hterms

/-- A readable pattern is written without an error. -/
theorem Pattern.Readable.renderWhere_eq {p : Pattern} (h : p.Readable) :
    renderWhere none p = .ok (joinLines (p.lines (shownBy none) 1)) := by
  have hwritable : ∀ t ∈ p.terms, ∃ x, t = some x ∧ x.isWritable = true := by
    intro t ht
    obtain ⟨x, rfl, hx⟩ := (Option.any_eq_true _ _).1 (h.terms_readable t ht)
    refine ⟨x, rfl, ?_⟩
    cases x with
    | iri text => exact hx
    | blank label => rfl
    | var name => rfl
    | literal l => cases hx
  obtain ⟨pieces, hpieces, htexts, _⟩ :=
    (lays_pattern none 1 p).exists_eq_ok_of_writable hwritable
  rw [renderWhere, hpieces, Except.map, htexts]

/-- Writing a pattern loses nothing: the pattern, with a union of one block as the block, is read
back from its text, and so two patterns have one text only if they are one pattern. -/
theorem renderWhere_eq_iff_collapse_eq :
    (∀ p : Pattern, p.Readable →
      ∃ text, renderWhere none p = .ok text ∧ decode? text = some p.collapse) ∧
    ∀ p q : Pattern, p.Readable → q.Readable →
      (renderWhere none p = renderWhere none q ↔ p.collapse = q.collapse) := by
  refine ⟨fun p hp => ⟨_, hp.renderWhere_eq, hp.decode?_lines⟩, fun p q hp hq => ?_⟩
  rw [hp.renderWhere_eq, hq.renderWhere_eq, Except.ok.injEq]
  constructor
  · intro heq
    have hdecode := congrArg decode? heq
    rw [hp.decode?_lines, hq.decode?_lines] at hdecode
    exact Option.some.inj hdecode
  · intro heq
    rw [← p.lines_collapse, ← q.lines_collapse, heq]

def choicePattern : Pattern :=
  .union [⟨[.triple ⟨some (.var "x"), some (.iri "http://e/a,b"), some (.blank "b0")⟩,
    .oneOf (some (.var "x")) [some (.iri "http://e/(1)\n"), some (.iri "http://e/.")]]⟩, ⟨[]⟩]

def turnedPattern : Pattern := .union choicePattern.alternatives.reverse

theorem renderWhere_turnedPattern :
    renderWhere none choicePattern ≠ renderWhere none turnedPattern ∧
      ∃ text, renderWhere none choicePattern = .ok text ∧ decode? text = some choicePattern := by
  have hchoice : choicePattern.Readable := ⟨by decide, by unfold AllReadable; decide⟩
  have hturned : turnedPattern.Readable := ⟨by decide, by unfold AllReadable; decide⟩
  obtain ⟨hdecode, hiff⟩ := renderWhere_eq_iff_collapse_eq
  refine ⟨fun heq => ?_, hdecode choicePattern hchoice⟩
  exact absurd ((hiff choicePattern turnedPattern hchoice hturned).1 heq) (by decide)

end ShaclQuery
