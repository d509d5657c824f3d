import ShaclQuery.Proofs.Decoding
import ShaclQuery.Proofs.FocusOptions
import ShaclQuery.Proofs.MissingPaths
import ShaclQuery.Text.Span

/-! # Variable names in query text

The variables that compiling introduces are named by the name that was given for the focus, with the
object prefix, indices and a word for classes behind it, and each is written as it is named. Neither the
name nor the prefix is looked at for the characters in it. So the variables of a query are legal exactly
when the name is and the prefix has no character that a name may not have, and only then is each of them
read back as one variable.
-/

namespace ShaclQuery

open Text

/-! ## 1. Legal names -/

def variableStartSpans : List Span := [
  (0x30, 0x39), (0x41, 0x5a), (0x5f, 0x5f), (0x61, 0x7a), (0xc0, 0xd6), (0xd8, 0xf6), (0xf8, 0x2ff),
  (0x370, 0x37d), (0x37f, 0x1fff), (0x200c, 0x200d), (0x2070, 0x218f), (0x2c00, 0x2fef),
  (0x3001, 0xd7ff), (0xf900, 0xfdcf), (0xfdf0, 0xfffd), (0x10000, 0xeffff)]

def variableMarkSpans : List Span := [(0xb7, 0xb7), (0x300, 0x36f), (0x203f, 0x2040)]

def startsVariable (c : Char) : Bool := inSpans variableStartSpans c.toNat

def continuesVariable (c : Char) : Bool := startsVariable c || inSpans variableMarkSpans c.toNat

def isVariableName (name : String) : Bool :=
  match name.toList with
  | [] => false
  | c :: rest => startsVariable c && rest.all continuesVariable

theorem isVariableName_append {name : String} (hname : name ≠ "") (suffix : String) :
    isVariableName (name ++ suffix) =
      (isVariableName name && suffix.toList.all continuesVariable) := by
  unfold isVariableName
  rw [String.toList_append]
  cases hchars : name.toList with
  | nil => exact absurd (String.toList_eq_nil_iff.1 hchars) hname
  | cons c rest =>
    show (startsVariable c && (rest ++ suffix.toList).all continuesVariable) = _
    rw [List.all_append, ← Bool.and_assoc]

theorem startsVariable_of_isDigit {c : Char} (h : c.isDigit = true) : startsVariable c = true := by
  have hrange : 48 ≤ c.toNat ∧ c.toNat ≤ 57 := by
    simpa [Char.isDigit, UInt32.le_iff_toNat_le] using h
  exact inSpans_iff.2 ⟨(0x30, 0x39), by decide, hrange⟩

namespace Focus

theorem all_indexSuffix (path : List Nat) :
    (indexSuffix path).toList.all continuesVariable = true := by
  induction path with
  | nil => rfl
  | cons n rest ih =>
    rw [toList_indexSuffix_cons, List.all_cons, List.all_append, ih, Bool.and_true, Bool.and_eq_true]
    refine ⟨by decide, List.all_eq_true.2 fun c hc => ?_⟩
    have hdigit := Nat.isDigit_of_mem_toDigits (by decide) (by decide) hc
    rw [continuesVariable, startsVariable_of_isDigit hdigit]
    rfl

/-- Of what stands behind the name of the focus, only the object prefix can be amiss. -/
theorem all_placeSuffix (objectPrefix : String) (n : Nat) (rest : List Nat) :
    (placeSuffix objectPrefix (n :: rest)).toList.all continuesVariable =
      objectPrefix.toList.all continuesVariable := by
  rw [placeSuffix, String.toList_append, List.all_append, all_indexSuffix, Bool.and_true]
  by_cases hempty : objectPrefix.isEmpty = true
  · rw [if_pos hempty, String.isEmpty_iff.1 hempty]
  · rw [if_neg hempty, String.toList_append, List.all_append]
    have hunderscore : "_".toList.all continuesVariable = true := by decide
    rw [hunderscore, Bool.true_and]

variable {f : Focus}

theorem isVariableName_below (hname : f.name ≠ "") (objectPrefix : String) {path : List Nat}
    (hpath : path ≠ []) :
    isVariableName (f.below objectPrefix path).name =
      (isVariableName f.name && objectPrefix.toList.all continuesVariable) := by
  cases path with
  | nil => exact absurd rfl hpath
  | cons n rest => rw [name_below, isVariableName_append hname, all_placeSuffix]

theorem isVariableName_targetClass (hname : f.name ≠ "") :
    isVariableName f.targetClass.name = isVariableName f.name := by
  show isVariableName (f.name ++ "_" ++ "targetClass") = _
  have hsuffix : ("_" ++ "targetClass").toList.all continuesVariable = true := by decide
  rw [String.append_assoc, isVariableName_append hname, hsuffix, Bool.and_true]

theorem name_below_ne_empty (hname : f.name ≠ "") (objectPrefix : String) (path : List Nat) :
    (f.below objectPrefix path).name ≠ "" := by
  rw [name_below]
  simp [hname]

end Focus

/-! ## 2. Reading a variable -/

def readVariable? : Reader String
  | '?' :: text =>
    let (name, rest) := text.span continuesVariable
    if isVariableName (String.ofList name) then some (String.ofList name, rest) else none
  | _ => none

/-- A name is legal when it is read back whole wherever a character follows that no name has. -/
theorem isVariableName_iff_readVariable? (name : String) :
    isVariableName name = true ↔ ∀ rest : List Char,
      (∀ c, rest.head? = some c → continuesVariable c = false) →
        readVariable? ('?' :: (name.toList ++ rest)) = some (name, rest) := by
  constructor
  · intro hname rest hrest
    have hall : ∀ c ∈ name.toList, continuesVariable c = true := by
      unfold isVariableName at hname
      cases hchars : name.toList with
      | nil => simp
      | cons c tail =>
        rw [hchars, Bool.and_eq_true] at hname
        rw [List.forall_mem_cons, ← List.all_eq_true, continuesVariable, hname.1]
        exact ⟨rfl, hname.2⟩
    unfold readVariable?
    simp only [span_append hall hrest, String.ofList_toList, hname, if_true]
  · intro hread
    -- at the end of a text there is nothing to stop at but the name itself
    have hend := hread [] (by simp)
    unfold readVariable? at hend
    simp only [List.append_nil] at hend
    split at hend
    · rename_i hname
      rw [Option.some.injEq, Prod.mk.injEq] at hend
      rwa [hend.1] at hname
    · cases hend

/-- A word stands somewhere in a text before a character that no name has. -/
def StandsApart (word text : List Char) : Prop :=
  ∃ front c rest, text = front ++ (word ++ c :: rest) ∧ continuesVariable c = false

namespace StandsApart

variable {word text : List Char}

theorem here {c : Char} (hc : continuesVariable c = false) (rest : List Char) :
    StandsApart word (word ++ c :: rest) := ⟨[], c, rest, rfl, hc⟩

theorem behind (h : StandsApart word text) (front : List Char) : StandsApart word (front ++ text) := by
  obtain ⟨inner, c, rest, rfl, hc⟩ := h
  exact ⟨front ++ inner, c, rest, (List.append_assoc _ _ _).symm, hc⟩

/-- Values with commas between them stand apart, up to the bracket that closes them. -/
theorem of_mem_intercalate {words : List (List Char)} (h : word ∈ words) (after : List Char) :
    StandsApart word (", ".toList.intercalate words ++ ')' :: after) := by
  -- what stands behind a value starts with a comma or the bracket
  have hnext (more : List (List Char)) : ∃ c rest,
      more.flatMap (", ".toList ++ ·) ++ ')' :: after = c :: rest ∧ continuesVariable c = false := by
    cases more with
    | nil => exact ⟨')', after, rfl, by decide⟩
    | cons next more => exact ⟨',', _, rfl, by decide⟩
  induction words with
  | nil => cases h
  | cons first more ih =>
    rw [intercalate_cons_eq, List.append_assoc]
    rcases List.mem_cons.1 h with rfl | h
    · obtain ⟨c, rest, htext, hc⟩ := hnext more
      rw [htext]
      exact here hc rest
    · apply behind
      cases more with
      | nil => cases h
      | cons next more =>
        have hmore := ih h
        rw [intercalate_cons_eq, List.append_assoc] at hmore
        rw [List.flatMap_cons, List.append_assoc, List.append_assoc]
        exact hmore.behind _

/-- Every term of an element stands apart in its text. -/
theorem of_mem_terms (shown : Option Term → String) {e : Element} {t : Option Term}
    (ht : t ∈ e.terms) : StandsApart (shown t).toList (e.text shown).toList := by
  have hblank : continuesVariable ' ' = false := by decide
  cases e with
  | triple u =>
    have htext : ((Element.triple u).text shown).toList = (shown u.subject).toList ++ ([' '] ++
        ((shown u.predicate).toList ++ ([' '] ++ ((shown u.object).toList ++ [' ', '.'])))) := by
      simp [Element.text]
    rw [htext]
    simp only [Element.terms, List.mem_cons, List.not_mem_nil, or_false] at ht
    rcases ht with rfl | rfl | rfl
    · exact here hblank _
    · apply behind
      apply behind
      exact here hblank _
    · iterate 4 apply behind
      exact here hblank _
  | oneOf v values =>
    have htext : ((Element.oneOf v values).text shown).toList = "FILTER ( ".toList ++
        ((shown v).toList ++ (" IN (".toList ++ (", ".toList.intercalate
          (values.map fun x => (shown x).toList) ++ ')' :: " )".toList))) := by
      simp [Element.text, Function.comp_def]
    rw [htext]
    apply behind
    rcases List.mem_append.1 ht with hvalue | hv
    · apply behind
      apply behind
      exact of_mem_intercalate (List.mem_map_of_mem hvalue) _
    · rw [List.mem_singleton.1 hv]
      exact here hblank _

end StandsApart

/-! ## 3. The variables of a query -/

namespace Occurrences

/-- The names that compiling introduces at a focus: that of the focus when the shape has classes or
properties, those of the objects, and those for the classes of the shapes with several. -/
inductive Introduces (o : Occurrences) (f : Focus) (objectPrefix : String) : String → Prop
  | focus {s : Occurrence} : o [] = some s → s.targets ≠ [] ∨ s.paths ≠ [] →
    Introduces o f objectPrefix f.name
  | object {path : List Nat} : o.Live path → Introduces o f objectPrefix (f.below objectPrefix path).name
  | targetClass {path : List Nat} {s : Occurrence} : o path = some s → 2 ≤ s.targets.length →
    Introduces o f objectPrefix (f.below objectPrefix path).targetClass.name

/-- A term that shapes have by themselves, as a target class or as a path. -/
def Has (o : Occurrences) (t : Term) : Prop :=
  ∃ path s, o path = some s ∧ (t ∈ s.targets ∨ some t ∈ s.paths)

end Occurrences

theorem exists_triple_typeElements {targets : List Term} (h : targets ≠ []) (focus : Focus) :
    ∃ t, .triple t ∈ typeElements targets focus ∧ t.subject = some focus.term := by
  rcases targets with _ | ⟨c, _ | ⟨d, rest⟩⟩
  · exact absurd rfl h
  · exact ⟨_, triple_mem_typeElements.2 (Or.inl ⟨c, rfl, rfl⟩), rfl⟩
  · exact ⟨_, triple_mem_typeElements.2 (Or.inr ⟨by simp, rfl⟩), rfl⟩

namespace Unfolding

variable {u : Unfolding} {focus : Focus} {objectPrefix name : String}

/-- Every introduced name stands in the query, in whichever form it is written. -/
theorem mem_terms_of_introduces (hf : focus.Accepted) (hvar : focus.term = .var focus.name)
    (h : u.occurrences.Introduces focus objectPrefix name) (form : Rendering) :
    some (.var name) ∈ (u.query focus objectPrefix).terms form := by
  -- no other term has the key of a variable
  have hkey : ∀ y : Option Term, y.map Term.key = (some (Term.var name)).map Term.key →
      y = some (.var name) := by
    intro y hy
    obtain ⟨t, rfl, ht⟩ := Option.map_eq_some_iff.1 hy
    cases t with
    | var _ => exact congrArg some ht
    | iri _ => cases ht
    | blank _ => cases ht
    | literal _ => cases ht
  have hstands : ∃ t ∈ (u.pattern focus objectPrefix).triples,
      some (.var name) ∈ (Element.triple t).terms := by
    cases h with
    | @focus s hs hsome =>
      rw [← hvar]
      rcases hsome with htargets | hpaths
      · obtain ⟨t, ht, hsubject⟩ := exists_triple_typeElements htargets focus
        have htypes : .triple t ∈ u.occurrences.typesAt focus objectPrefix [] :=
          Occurrences.mem_typesAt.2 ⟨s, hs, ht⟩
        exact ⟨t, types_mem_pattern htypes, by simp [Element.terms, hsubject]⟩
      · obtain ⟨p, rest, hcons⟩ := List.exists_cons_of_ne_nil hpaths
        have hlive : u.occurrences.Live [0] := by
          simp [Occurrences.Live, Occurrences.pathAt?, hs, hcons]
        refine ⟨_, triple_mem_pattern hlive, ?_⟩
        simp [Element.terms, Occurrences.tripleAt, Focus.below]
    | @object path hlive =>
      have hne : path ≠ [] := by
        rintro rfl
        cases hlive
      refine ⟨_, triple_mem_pattern hlive, ?_⟩
      rw [← Focus.term_below hf objectPrefix hne]
      simp [Element.terms, Occurrences.tripleAt]
    | @targetClass path s hs hseveral =>
      have htypes : .triple ⟨some (focus.below objectPrefix path).term, some rdfType,
          some (focus.below objectPrefix path).targetClass.term⟩ ∈
          u.occurrences.typesAt focus objectPrefix path :=
        Occurrences.mem_typesAt.2 ⟨s, hs, triple_mem_typeElements.2 (Or.inr ⟨hseveral, rfl⟩)⟩
      refine ⟨_, types_mem_pattern htypes, ?_⟩
      rw [← Focus.term_targetClass hf]
      simp [Element.terms]
  obtain ⟨t, ht, hterm⟩ := hstands
  exact mem_terms_query hkey ht hterm form

theorem introduces_below {place : List Nat} {s : Occurrence} (hs : u.occurrences place = some s)
    (hsome : s.targets ≠ [] ∨ s.paths ≠ []) :
    u.occurrences.Introduces focus objectPrefix (focus.below objectPrefix place).name := by
  by_cases hroot : place = []
  · subst hroot
    exact .focus hs hsome
  · exact .object (live_of_occurrence hs hroot)

/-- A variable of the query that is not introduced comes from the shapes. -/
theorem introduces_or_has_of_mem_terms (hf : focus.Accepted)
    (h : some (.var name) ∈ (u.pattern focus objectPrefix).terms) :
    u.occurrences.Introduces focus objectPrefix name ∨ u.occurrences.Has (.var name) := by
  obtain ⟨b, hb, hterm⟩ := List.mem_flatMap.1 h
  obtain ⟨e, he, hterm⟩ := List.mem_flatMap.1 hterm
  -- types name the place, its class variable and its classes, a property its two ends and its path
  rcases mem_pattern_cases hb he with ⟨place, htypes⟩ | ⟨place, hlive, rfl⟩
  · obtain ⟨s, hs, helement⟩ := Occurrences.mem_typesAt.1 htypes
    obtain ⟨x, hx, hcases⟩ := terms_typeElements helement hterm
    cases hx
    rcases hcases with hplace | hrdf | ⟨hclass, hseveral⟩ | htarget
    · left
      rw [Focus.name_of_term_below hf hplace.symm]
      apply introduces_below hs
      left
      rintro hnone
      rw [hnone] at helement
      cases helement
    · cases hrdf
    · left
      rw [Focus.term_targetClass hf, Term.var.injEq] at hclass
      rw [hclass]
      exact .targetClass hs hseveral
    · exact Or.inr ⟨place, s, hs, Or.inl htarget⟩
  · obtain ⟨s, p, hs, hp, hpath⟩ := hlive.exists_path
    simp only [Element.terms, Occurrences.tripleAt, hpath, Option.join_some, List.mem_cons,
      List.not_mem_nil, or_false] at hterm
    rcases hterm with hsubject | hpredicate | hobject
    · left
      rw [Focus.name_of_term_below hf (Option.some.inj hsubject).symm]
      exact introduces_below hs (Or.inr (List.ne_nil_of_mem hp))
    · exact Or.inr ⟨_, s, hs, Or.inr (hpredicate ▸ hp)⟩
    · left
      rw [Focus.name_of_term_below hf (Option.some.inj hobject).symm]
      exact .object hlive

/-- The names that are introduced are legal when that of the focus is, if there are any, and the object
prefix has no character that names do not have, if there are objects. -/
theorem introduces_legal_iff (hname : focus.name ≠ "") :
    (∀ name, u.occurrences.Introduces focus objectPrefix name → isVariableName name = true) ↔
      ((∃ name, u.occurrences.Introduces focus objectPrefix name) →
        isVariableName focus.name = true) ∧
      ((∃ path, u.occurrences.Live path) → objectPrefix.toList.all continuesVariable = true) := by
  have hne {path : List Nat} (hlive : u.occurrences.Live path) : path ≠ [] := by
    rintro rfl
    cases hlive
  have hbelow {path : List Nat} (hlive : u.occurrences.Live path) :=
    Focus.isVariableName_below hname objectPrefix (hne hlive)
  have hclass (path : List Nat) := Focus.isVariableName_targetClass
    (Focus.name_below_ne_empty hname objectPrefix path)
  constructor
  · intro hlegal
    have hobject {path : List Nat} (hlive : u.occurrences.Live path) :
        isVariableName focus.name = true ∧ objectPrefix.toList.all continuesVariable = true := by
      have hpath := hlegal _ (.object hlive)
      rwa [hbelow hlive, Bool.and_eq_true] at hpath
    refine ⟨?_, fun ⟨_, hlive⟩ => (hobject hlive).2⟩
    rintro ⟨name, hintroduced⟩
    cases hintroduced with
    | focus hs hsome => exact hlegal _ (.focus hs hsome)
    | object hlive => exact (hobject hlive).1
    | @targetClass path s hs hseveral =>
      -- the class variable of the root has no object prefix in its name
      by_cases hroot : path = []
      · subst hroot
        have hpath := hlegal _ (.targetClass hs hseveral)
        rwa [hclass] at hpath
      · exact (hobject (live_of_occurrence hs hroot)).1
  · rintro ⟨hfocus, hprefix⟩ name hintroduced
    have hstart := hfocus ⟨name, hintroduced⟩
    cases hintroduced with
    | focus _ _ => exact hstart
    | object hlive => rw [hbelow hlive, hstart, hprefix ⟨_, hlive⟩, Bool.and_true]
    | @targetClass path s hs _ =>
      rw [hclass]
      by_cases hroot : path = []
      · subst hroot
        exact hstart
      · have hlive := live_of_occurrence hs hroot
        rw [hbelow hlive, hstart, hprefix ⟨_, hlive⟩, Bool.and_true]

end Unfolding

/-! ## 4. Legal variables and their text -/

theorem isVariableName_of_readVariable? {text rest : List Char} {name : String}
    (h : readVariable? text = some (name, rest)) : isVariableName name = true := by
  unfold readVariable? at h
  split at h
  · simp only at h
    split at h
    · rename_i hname
      cases h
      exact hname
    · cases h
  · cases h

/-- A variable of a line is read back there as one variable when its name is legal. -/
theorem readVariable?_elementLine_iff {table : Option PrefixTable} {depth : Nat} {e : Element}
    {piece : Piece} {name : String} (hterm : some (.var name) ∈ e.terms)
    (hline : elementLine table depth e = .ok piece) :
    (∃ front rest, piece.text.toList = front ++ '?' :: (name.toList ++ rest) ∧
      readVariable? ('?' :: (name.toList ++ rest)) = some (name, rest)) ↔
    isVariableName name = true := by
  constructor
  · rintro ⟨_, _, _, hread⟩
    exact isVariableName_of_readVariable? hread
  · intro hname
    have htext : piece.text = indent depth ++ e.text (shownBy table) := by
      have hlays := lays_element table depth e
      rw [hline] at hlays
      cases hlays with
      | ok _ htexts _ => simpa using htexts
    obtain ⟨front, c, rest, hapart, hc⟩ := StandsApart.of_mem_terms (shownBy table) hterm
    refine ⟨(indent depth).toList ++ front, c :: rest, ?_, ?_⟩
    · rw [htext, String.toList_append, hapart, List.append_assoc]
      simp [shownBy, shownAs, Term.shown]
    · apply (isVariableName_iff_readVariable? name).1 hname
      intro d hd
      cases hd
      exact hc

/-- Let a shape be compiled for a name and an object prefix, whatever these are. Each variable that this
introduces is in every text of the query, and the only other variables there are terms of the shapes
themselves. The variables introduced are legal exactly when the name without its marks is, if there are
any, and the prefix has only characters of names, if there are objects. A variable in a line of text is
read back as that variable, and nothing of its name as further text, exactly when it is legal. -/
theorem introduced_variables_legal_iff (tbl : ShapeTable) (root : Nat)
    (subjectVariable objectPrefix : String) (c : Compiled)
    (hc : ((tbl.unfold root).compile (some subjectVariable) none objectPrefix).result = .ok c) :
    (∀ name, (tbl.unfold root).occurrences.Introduces c.focus objectPrefix name →
      ∀ form, some (.var name) ∈ c.terms form) ∧
    (∀ form name, some (.var name) ∈ c.terms form →
      (tbl.unfold root).occurrences.Introduces c.focus objectPrefix name ∨
        (tbl.unfold root).occurrences.Has (.var name)) ∧
    ((∀ name, (tbl.unfold root).occurrences.Introduces c.focus objectPrefix name →
        isVariableName name = true) ↔
      ((∃ name, (tbl.unfold root).occurrences.Introduces c.focus objectPrefix name) →
        isVariableName (Focus.bareName subjectVariable) = true) ∧
      ((∃ path, (tbl.unfold root).occurrences.Live path) →
        objectPrefix.toList.all continuesVariable = true)) ∧
    ∀ name table depth e piece, some (.var name) ∈ e.terms → elementLine table depth e = .ok piece →
      ((∃ front rest, piece.text.toList = front ++ '?' :: (name.toList ++ rest) ∧
        readVariable? ('?' :: (name.toList ++ rest)) = some (name, rest)) ↔
      isVariableName name = true) := by
  obtain ⟨focus, hfocus⟩ := (tbl.unfold root).compile_isOk_iff.1 ⟨c, hc⟩
  have hf := Focus.accepted_of_resolve hfocus
  rw [Unfolding.compile_result _ hfocus] at hc
  cases hc
  cases Focus.resolve_eq_ok_iff.1 hfocus with
  | name hbare =>
    refine ⟨fun name hname => Unfolding.mem_terms_of_introduces hf rfl hname, fun form name hname => ?_,
      Unfolding.introduces_legal_iff hbare, fun name table depth e piece hterm hline =>
        readVariable?_elementLine_iff hterm hline⟩
    exact Unfolding.introduces_or_has_of_mem_terms hf (Unfolding.mem_terms_pattern hname)

theorem introduced_variables_legal_bookShapes :
    ∃ c : Compiled, ((bookShapes.unfold 0).compile (some "?book") none "o").result = .ok c ∧
      (bookShapes.unfold 0).occurrences.Introduces c.focus "o" "book_o_0_targetClass" ∧
      some (.var "book_o_0_targetClass") ∈ c.terms .construct ∧
      ∀ name, (bookShapes.unfold 0).occurrences.Introduces c.focus "o" name →
        isVariableName name = true := by
  have hfocus : Focus.resolve (some "?book") none = .ok ⟨.var "book", "book"⟩ := by decide
  have hc := Unfolding.compile_result (bookShapes.unfold 0) hfocus "o"
  have hclass : (bookShapes.unfold 0).occurrences.Introduces ⟨.var "book", "book"⟩ "o"
      "book_o_0_targetClass" :=
    @Occurrences.Introduces.targetClass _ _ _ [0] ⟨[exampleTerm "Person", exampleTerm "Agent"],
      [some (exampleTerm "wrote"), none]⟩ (by decide +kernel) (by decide)
  obtain ⟨hintroduced, _, hlegal, _⟩ := introduced_variables_legal_iff bookShapes 0 "?book" "o" _ hc
  exact ⟨_, hc, hclass, hintroduced _ hclass _,
    hlegal.2 ⟨fun _ => by decide +kernel, fun _ => by decide +kernel⟩⟩

/-- A name that ends the group it stands in and turns the rest of its line into a comment. -/
def closingName : String := "x ?y ?z \x7d #"

def namedShapes : ShapeTable := [⟨none, [], [⟨some (exampleTerm "name"), false, none⟩]⟩]

def closingQuery : Compiled where
  focus := ⟨.var closingName, closingName⟩
  wherePattern := .block ⟨[.triple ⟨some (.var closingName), some (exampleTerm "name"),
    some (.var (closingName ++ "_0"))⟩]⟩
  template := [⟨some (.var closingName), some (exampleTerm "name"), some (.var (closingName ++ "_0"))⟩]

/-- A name with blanks and a brace in it is accepted, and the query goes on where the name should
end. -/
theorem closingName_introduced_not_legal :
    ((namedShapes.unfold 0).compile (some closingName) none "").result = .ok closingQuery ∧
    (namedShapes.unfold 0).occurrences.Introduces closingQuery.focus "" closingName ∧
    isVariableName closingName = false ∧
    closingQuery.render .none .select =
      .ok ("SELECT * WHERE \x7b\n  ?x ?y ?z \x7d # <http://example.org/name> " ++
        "?x ?y ?z \x7d #_0 .\n\x7d") := by
  refine ⟨by decide +kernel, ?_, by decide +kernel, by decide +kernel⟩
  exact .focus (Unfolding.occurrences_nil _) (Or.inr (by decide +kernel))

end ShaclQuery
