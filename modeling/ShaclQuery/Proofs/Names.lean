import ShaclQuery.Focus

/-! # Names of variables

The variables of a query are named by the focus of the whole shape and the index path of the place
they stand for. Different places have different names whatever the focus and the object prefix are
called: an index has no underscore in it, and the word for the class of a place does not end in a
digit as every index does.
-/

namespace ShaclQuery

namespace Focus

/-! ## 1. The focus at a place -/

def indexSuffix : List Nat → String
  | [] => ""
  | n :: rest => "_" ++ toString n ++ indexSuffix rest

/-- What stands behind the name of the focus in the name of a place: the object prefix when it is not
empty, and the indices, with underscores between them. -/
def placeSuffix (objectPrefix : String) : List Nat → String
  | [] => ""
  | n :: rest =>
    (if objectPrefix.isEmpty then "" else "_" ++ objectPrefix) ++ indexSuffix (n :: rest)

def below (f : Focus) (objectPrefix : String) : List Nat → Focus
  | [] => f
  | n :: rest =>
    let name := f.name ++ placeSuffix objectPrefix (n :: rest)
    ⟨Term.named name, name⟩

theorem name_below (f : Focus) (objectPrefix : String) (path : List Nat) :
    (f.below objectPrefix path).name = f.name ++ placeSuffix objectPrefix path := by
  cases path with
  | nil => exact String.append_empty.symm
  | cons n rest => rfl

theorem object_eq (f : Focus) (n : Nat) (objectPrefix : String) :
    f.object n objectPrefix = f.below objectPrefix [n] := by
  have hindex : toString (n : Int) = toString n := rfl
  simp only [object, below, extend, placeSuffix, indexSuffix, hindex]
  by_cases hempty : objectPrefix.isEmpty = true
  · simp [hempty, String.append_assoc]
  · simp [hempty, String.append_assoc]

/-- The object prefix stands in front of the first index only. -/
theorem below_object (f : Focus) (n : Nat) (objectPrefix : String) (rest : List Nat) :
    (f.object n objectPrefix).below "" rest = f.below objectPrefix (n :: rest) := by
  rw [object_eq]
  cases rest with
  | nil => rfl
  | cons m rest => simp [below, placeSuffix, indexSuffix, String.append_assoc]

/-! ## 2. Different places have different names -/

theorem toList_indexSuffix_cons (n : Nat) (rest : List Nat) :
    (indexSuffix (n :: rest)).toList = '_' :: (Nat.toDigits 10 n ++ (indexSuffix rest).toList) := by
  simp [indexSuffix, Nat.toString_eq_repr]

theorem underscore_not_mem_toDigits (n : Nat) : '_' ∉ Nat.toDigits 10 n := by
  intro h
  have hdigit := Nat.isDigit_of_mem_toDigits (by decide) (by decide) h
  exact absurd hdigit (by decide)

theorem takeWhile_toDigits_append (n : Nat) (rest : List Nat) :
    (Nat.toDigits 10 n ++ (indexSuffix rest).toList).takeWhile (· != '_') = Nat.toDigits 10 n := by
  have hdigits : ∀ c ∈ Nat.toDigits 10 n, (c != '_') = true := by
    intro c hc
    have hne : c ≠ '_' := fun heq => underscore_not_mem_toDigits n (heq ▸ hc)
    simpa using hne
  have hrest : (indexSuffix rest).toList.takeWhile (· != '_') = [] := by
    cases rest with
    | nil => rfl
    | cons m rest => rw [toList_indexSuffix_cons, List.takeWhile_cons_of_neg (by decide)]
  rw [List.takeWhile_append_of_pos hdigits, hrest, List.append_nil]

/-- Digits and underscores divide a suffix into its indices. -/
theorem indexSuffix_injective {path path' : List Nat} (h : indexSuffix path = indexSuffix path') :
    path = path' := by
  induction path generalizing path' with
  | nil =>
    cases path' with
    | nil => rfl
    | cons m rest' =>
      have hchars := congrArg String.toList h
      rw [toList_indexSuffix_cons] at hchars
      cases hchars
  | cons n rest ih =>
    cases path' with
    | nil =>
      have hchars := congrArg String.toList h
      rw [toList_indexSuffix_cons] at hchars
      cases hchars
    | cons m rest' =>
      have hchars := congrArg String.toList h
      rw [toList_indexSuffix_cons, toList_indexSuffix_cons, List.cons.injEq] at hchars
      -- the digits of the first index end where the next underscore stands
      have hdigits : Nat.toDigits 10 n = Nat.toDigits 10 m := by
        rw [← takeWhile_toDigits_append n rest, ← takeWhile_toDigits_append m rest', hchars.2]
      have hindex : n = m := by
        rw [← Nat.ofDigitChars_ten_toDigits (n := n), hdigits, Nat.ofDigitChars_ten_toDigits]
      have hrest : indexSuffix rest = indexSuffix rest' := by
        apply String.toList_injective
        have htail := hchars.2
        rw [hdigits] at htail
        exact List.append_cancel_left htail
      rw [hindex, ih hrest]

/-- The name of a place ends in a digit. -/
theorem exists_digit_getLast?_placeSuffix (objectPrefix : String) (n : Nat) (rest : List Nat) :
    ∃ c, (placeSuffix objectPrefix (n :: rest)).toList.getLast? = some c ∧ c.isDigit = true := by
  have hindex : ∃ c, (indexSuffix (n :: rest)).toList.getLast? = some c ∧ c.isDigit = true := by
    induction rest generalizing n with
    | nil =>
      obtain ⟨c, hc⟩ := Option.isSome_iff_exists.1
        (List.getLast?_isSome.2 (Nat.toDigits_ne_nil : Nat.toDigits 10 n ≠ []))
      refine ⟨c, ?_, Nat.isDigit_of_mem_toDigits (by decide) (by decide) (List.mem_of_getLast? hc)⟩
      have hnil : (indexSuffix []).toList = [] := rfl
      rw [toList_indexSuffix_cons, hnil, List.append_nil, List.getLast?_cons, hc]
      rfl
    | cons m rest ih =>
      obtain ⟨c, hc, hdigit⟩ := ih m
      refine ⟨c, ?_, hdigit⟩
      rw [toList_indexSuffix_cons, ← List.cons_append, List.getLast?_append, hc]
      rfl
  obtain ⟨c, hc, hdigit⟩ := hindex
  refine ⟨c, ?_, hdigit⟩
  rw [placeSuffix, String.toList_append, List.getLast?_append, hc]
  rfl

/-- The same prefix on both sides drops out. -/
theorem placeSuffix_injective {objectPrefix : String} {path path' : List Nat}
    (h : placeSuffix objectPrefix path = placeSuffix objectPrefix path') : path = path' := by
  have hne (n : Nat) (rest : List Nat) : placeSuffix objectPrefix (n :: rest) ≠ "" := by
    intro hempty
    obtain ⟨c, hc, _⟩ := exists_digit_getLast?_placeSuffix objectPrefix n rest
    rw [hempty] at hc
    cases hc
  cases path with
  | nil =>
    cases path' with
    | nil => rfl
    | cons m rest' => exact absurd h.symm (hne m rest')
  | cons n rest =>
    cases path' with
    | nil => exact absurd h (hne n rest)
    | cons m rest' => exact indexSuffix_injective ((String.append_right_inj _).1 h)

/-- Objects at different places have different names, and none has the name of the focus. -/
theorem name_below_injective {f : Focus} {objectPrefix : String} {path path' : List Nat}
    (h : (f.below objectPrefix path).name = (f.below objectPrefix path').name) : path = path' := by
  rw [name_below, name_below, String.append_right_inj] at h
  exact placeSuffix_injective h

/-- Classes of different places have different names. -/
theorem name_targetClass_injective {f : Focus} {objectPrefix : String} {path path' : List Nat}
    (h : (f.below objectPrefix path).targetClass.name =
      (f.below objectPrefix path').targetClass.name) : path = path' := by
  simp only [targetClass, extend, String.append_left_inj] at h
  exact name_below_injective h

/-- The class of a place is not named as a place. -/
theorem name_targetClass_ne {f : Focus} {objectPrefix : String} (path path' : List Nat) :
    (f.below objectPrefix path).targetClass.name ≠ (f.below objectPrefix path').name := by
  intro h
  simp only [targetClass, extend, name_below, String.append_assoc, String.append_right_inj] at h
  have hlast := congrArg (fun s => s.toList.getLast?) h
  simp only [String.toList_append, List.getLast?_append] at hlast
  cases path' with
  | nil => simp [placeSuffix] at hlast
  | cons n rest =>
    obtain ⟨c, hc, hdigit⟩ := exists_digit_getLast?_placeSuffix objectPrefix n rest
    rw [hc] at hlast
    have hs : c = 's' := by
      simpa using hlast.symm
    rw [hs] at hdigit
    exact absurd hdigit (by decide)

/-! ## 3. The variables of an accepted focus -/

/-- A focus as it is accepted: its name is not empty and does not begin with a question mark, which
a variable would lose, and its term is the variable of that name or an IRI. -/
structure Accepted (f : Focus) : Prop where
  name : ∃ c rest, f.name.toList = c :: rest ∧ c ≠ '?'
  term : f.term = .var f.name ∨ ∃ iri, f.term = .iri iri

theorem named_eq_var {name : String} {c : Char} {rest : List Char} (h : name.toList = c :: rest)
    (hc : c ≠ '?') : Term.named name = .var name := by
  unfold Term.named
  rw [h]
  split
  · rename_i heq
    exact absurd (List.cons.inj heq).1 hc
  · rfl

def bareName (name : String) : String :=
  String.ofList (name.toList.dropWhile fun c => c == '?' || c == '$')

theorem bareName_empty : bareName "" = "" := by decide

theorem exists_head_bareName {name : String} (h : bareName name ≠ "") :
    ∃ c rest, (bareName name).toList = c :: rest ∧ c ≠ '?' := by
  unfold bareName at h ⊢
  rw [String.toList_ofList]
  generalize hbare : name.toList.dropWhile (fun c => c == '?' || c == '$') = bare at h ⊢
  cases bare with
  | nil => exact absurd rfl h
  | cons c rest =>
    refine ⟨c, rest, rfl, fun heq => ?_⟩
    have hhead := List.head?_dropWhile_not (fun c => c == '?' || c == '$') name.toList
    simp [hbare, heq] at hhead

theorem resolve_name (name : String) :
    resolve (some name) none =
      if name = "" then .error .emptyName
      else if bareName name = "" then .error (.term .emptyVariable)
      else .ok ⟨.var (bareName name), bareName name⟩ := by
  show (if name.isEmpty then _ else (ofName? (bareName name)).mapError FocusError.term) = _
  by_cases hname : name = ""
  · rw [if_pos hname, if_pos (String.isEmpty_iff.2 hname)]
  · rw [if_neg hname, if_neg (mt String.isEmpty_iff.1 hname)]
    unfold ofName? Term.ofName?
    by_cases hbare : bareName name = ""
    · rw [if_pos hbare, if_pos (String.isEmpty_iff.2 hbare)]
      rfl
    · obtain ⟨c, rest, hchars, hc⟩ := exists_head_bareName hbare
      rw [if_neg hbare, if_neg (mt String.isEmpty_iff.1 hbare), named_eq_var hchars hc]
      rfl

theorem resolve_term (t : Term) :
    resolve none (some t) = if t.isIri then .ok (ofTerm t) else .error (.notAnIri t) := rfl

/-- The focus of options that determine one: a name that is more than marks, or an IRI. -/
inductive Determines : Option String → Option Term → Focus → Prop
  | name {name : String} : bareName name ≠ "" →
    Determines (some name) none ⟨.var (bareName name), bareName name⟩
  | iri (iri : String) : Determines none (some (.iri iri)) (ofTerm (.iri iri))

/-- Options that are not refused determine the focus. -/
theorem resolve_eq_ok_iff {subjectVariable : Option String} {focusNode : Option Term} {f : Focus} :
    resolve subjectVariable focusNode = .ok f ↔ Determines subjectVariable focusNode f := by
  constructor
  · intro h
    cases subjectVariable with
    | none =>
      cases focusNode with
      | none => cases h
      | some t =>
        cases t with
        | iri iri =>
          cases h
          exact .iri iri
        | blank label => cases h
        | var name => cases h
        | literal l => cases h
    | some name =>
      cases focusNode with
      | some t => cases h
      | none =>
        rw [resolve_name] at h
        split at h
        · cases h
        · split at h
          · cases h
          · rename_i hbare
            cases h
            exact .name hbare
  · rintro (hbare | iri)
    · have hname : ¬_ = "" := fun heq => hbare (heq ▸ bareName_empty)
      rw [resolve_name, if_neg hname, if_neg hbare]
    · rfl

/-- Question marks in front of a name are dropped, so what is accepted does not begin with one. -/
theorem accepted_of_resolve {subjectVariable : Option String} {focusNode : Option Term} {f : Focus}
    (h : resolve subjectVariable focusNode = .ok f) : f.Accepted := by
  cases resolve_eq_ok_iff.1 h with
  | name hbare => exact ⟨exists_head_bareName hbare, Or.inl rfl⟩
  | iri iri =>
    have hname : defaultName.toList = 'r' :: "esource".toList := by decide
    exact ⟨⟨'r', _, hname, by decide⟩, Or.inr ⟨iri, rfl⟩⟩

/-- The object at a place is the variable of its name. -/
theorem term_below {f : Focus} (hf : f.Accepted) (objectPrefix : String) {path : List Nat}
    (hpath : path ≠ []) :
    (f.below objectPrefix path).term = .var (f.below objectPrefix path).name := by
  obtain ⟨c, rest, hname, hc⟩ := hf.name
  cases path with
  | nil => exact absurd rfl hpath
  | cons n tail =>
    have hchars : (f.name ++ placeSuffix objectPrefix (n :: tail)).toList =
        c :: (rest ++ (placeSuffix objectPrefix (n :: tail)).toList) := by
      rw [String.toList_append, hname, List.cons_append]
    exact named_eq_var hchars hc

theorem name_of_term_below {f : Focus} (hf : f.Accepted) {objectPrefix : String} {path : List Nat}
    {name : String} (h : (f.below objectPrefix path).term = .var name) :
    name = (f.below objectPrefix path).name := by
  cases path with
  | nil =>
    have hterm : f.term = .var name := h
    rcases hf.term with hvar | ⟨iri, hiri⟩
    · exact Term.var.inj (hterm.symm.trans hvar)
    · rw [hiri] at hterm
      cases hterm
  | cons n rest =>
    rw [term_below hf objectPrefix (List.cons_ne_nil n rest)] at h
    exact (Term.var.inj h).symm

theorem term_targetClass {f : Focus} (hf : f.Accepted) (objectPrefix : String) (path : List Nat) :
    (f.below objectPrefix path).targetClass.term =
      .var (f.below objectPrefix path).targetClass.name := by
  obtain ⟨c, rest, hname, hc⟩ := hf.name
  have hchars : ((f.below objectPrefix path).name ++ "_" ++ "targetClass").toList =
      c :: (rest ++ (placeSuffix objectPrefix path ++ "_" ++ "targetClass").toList) := by
    simp [name_below, hname]
  exact named_eq_var hchars hc

end Focus

end ShaclQuery
