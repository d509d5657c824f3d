import Mathlib.Computability.Language
import ShaclQuery.Iri.Address
import ShaclQuery.Proofs.Declarations
import ShaclQuery.Proofs.VariableNames
import ShaclQuery.Turtle.Token

/-! # IRIs as tokens of a query

An IRI that can be written is written between angle brackets, or shortened to a prefix, a colon and the
rest of the IRI as it is. The rest is not looked at for the characters in it, so it need not be a local
name of the grammar of queries: the characters that the cutting of an IRI leaves in a name are not those
that the grammar has there. Which texts are tokens of the grammar is said here exactly, for all tables
and for the IRIs that are cut before their last name.
-/

namespace ShaclQuery

open Text
open scoped Computability

/-! ## 1. The grammar -/

namespace Grammar

def one (p : Char → Bool) : Language Char := {w | ∃ c, p c = true ∧ w = [c]}

def inName (c : Char) : Bool := continuesVariable c || c == '-'

def startsPrefix (c : Char) : Bool := startsVariable c && c != '_' && !c.isDigit

/-- A prefix that is not empty; points stand inside only. -/
def prefixName : Language Char :=
  one startsPrefix * (1 + (one fun c => inName c || c == '.')∗ * one inName)

def percentPair : Language Char := one (· == '%') * one Iri.isHexDigit * one Iri.isHexDigit

def escaped : Language Char := one (· == '\\') * one Turtle.isEscapable

def startsLocal (c : Char) : Bool := startsVariable c || c == ':'

def endsLocal (c : Char) : Bool := inName c || c == ':'

def inLocal (c : Char) : Bool := endsLocal c || c == '.'

/-- Parts of a local name of which the last is no point. -/
def localParts : Language Char :=
  (one inLocal + (percentPair + escaped))∗ * (one endsLocal + (percentPair + escaped))

def localName : Language Char := (one startsLocal + (percentPair + escaped)) * (1 + localParts)

def iriExcluded : List Char := ['<', '>', '\x22', '\x7b', '\x7d', '|', '^', '\x60', '\\']

def iriRef : Language Char :=
  one (· == '<') * (one fun c => decide (0x20 < c.toNat) && !iriExcluded.contains c)∗ * one (· == '>')

def prefixedName : Language Char := (1 + prefixName) * one (· == ':') * (1 + localName)

def iriToken : Language Char := iriRef + prefixedName

/-! ## 2. Words of the grammar -/

theorem mem_kstar_one {p : Char → Bool} {w : List Char} :
    w ∈ (one p)∗ ↔ ∀ c ∈ w, p c = true := by
  constructor
  · intro h c hc
    obtain ⟨words, rfl, hwords⟩ := Language.mem_kstar.1 h
    obtain ⟨word, hword, hmem⟩ := List.mem_flatten.1 hc
    obtain ⟨d, hd, rfl⟩ := hwords word hword
    rwa [List.mem_singleton.1 hmem]
  · intro h
    refine Language.mem_kstar.2 ⟨w.map fun c => [c], ?_, fun word hword => ?_⟩
    · rw [← List.flatMap_def, List.flatMap_singleton']
    · obtain ⟨c, hc, rfl⟩ := List.mem_map.1 hword
      exact ⟨c, h c hc, rfl⟩

theorem mem_one_mul {p : Char → Bool} {l : Language Char} {w : List Char} :
    w ∈ one p * l ↔ ∃ c rest, p c = true ∧ rest ∈ l ∧ w = c :: rest := by
  rw [Language.mem_mul]
  constructor
  · rintro ⟨_, ⟨c, hc, rfl⟩, rest, hrest, rfl⟩
    exact ⟨c, rest, hc, hrest, rfl⟩
  · rintro ⟨c, rest, hc, hrest, rfl⟩
    exact ⟨[c], ⟨c, hc, rfl⟩, rest, hrest, rfl⟩

theorem mem_percentPair {w : List Char} :
    w ∈ percentPair ↔
      ∃ a b, Iri.isHexDigit a = true ∧ Iri.isHexDigit b = true ∧ w = ['%', a, b] := by
  rw [percentPair, mul_assoc, mem_one_mul]
  constructor
  · rintro ⟨c, rest, hc, hrest, rfl⟩
    obtain ⟨a, more, ha, ⟨b, hb, rfl⟩, rfl⟩ := mem_one_mul.1 hrest
    exact ⟨a, b, ha, hb, by rw [eq_of_beq hc]⟩
  · rintro ⟨a, b, ha, hb, rfl⟩
    exact ⟨'%', [a, b], rfl, mem_one_mul.2 ⟨a, [b], ha, ⟨b, hb, rfl⟩, rfl⟩, rfl⟩

/-- A part of a local name without a backslash is a character or a percent sign with two digits. -/
theorem mem_part_iff {p : Char → Bool} {w : List Char} (h : '\\' ∉ w) :
    w ∈ one p + (percentPair + escaped) ↔
      (∃ c, p c = true ∧ w = [c]) ∨
        ∃ a b, Iri.isHexDigit a = true ∧ Iri.isHexDigit b = true ∧ w = ['%', a, b] := by
  have hescaped : w ∉ escaped := by
    intro hmem
    obtain ⟨c, rest, hc, _, rfl⟩ := mem_one_mul.1 hmem
    rw [eq_of_beq hc] at h
    exact h List.mem_cons_self
  rw [Language.mem_add, Language.mem_add, or_iff_left hescaped, mem_percentPair]
  rfl

/-! ## 3. Local names without a backslash -/

def percentsPaired : List Char → Bool
  | [] => true
  | '%' :: a :: b :: rest => Iri.isHexDigit a && Iri.isHexDigit b && percentsPaired rest
  | c :: rest => c != '%' && percentsPaired rest

/-- Whether a text without a backslash may stand behind the first character of a local name. -/
def isPlainTail (w : List Char) : Bool :=
  w.all (fun c => inLocal c || c == '%') && percentsPaired w && decide (w.getLast? ≠ some '.')

def isPlainLocal (w : List Char) : Bool :=
  w.head?.all (fun c => startsLocal c || c == '%') && isPlainTail w

theorem percentsPaired_cons {c : Char} (hc : c ≠ '%') (w : List Char) :
    percentsPaired (c :: w) = percentsPaired w := by
  rw [percentsPaired.eq_3 _ _ (fun a b rest h => absurd h hc)]
  simp [hc]

theorem exists_pair_of_percentsPaired {w : List Char} (h : percentsPaired ('%' :: w) = true) :
    ∃ a b rest, Iri.isHexDigit a = true ∧ Iri.isHexDigit b = true ∧ w = a :: b :: rest := by
  match w with
  | [] => cases h
  | [_] => cases h
  | a :: b :: rest =>
    rw [percentsPaired, Bool.and_eq_true, Bool.and_eq_true] at h
    exact ⟨a, b, rest, h.1.1, h.1.2, rfl⟩

theorem inName_of_startsVariable {c : Char} (h : startsVariable c = true) : inName c = true := by
  rw [inName, continuesVariable, h]
  rfl

theorem isUpper_iff {c : Char} : c.isUpper = true ↔ 0x41 ≤ c.toNat ∧ c.toNat ≤ 0x5a :=
  decide_eq_true_iff

theorem isLower_iff {c : Char} : c.isLower = true ↔ 0x61 ≤ c.toNat ∧ c.toNat ≤ 0x7a := by
  change (_ && _) = true ↔ _
  rw [Bool.and_eq_true, decide_eq_true_eq, decide_eq_true_eq]
  exact Iff.rfl

theorem isAlphanum_iff {c : Char} :
    c.isAlphanum = true ↔
      ((0x41 ≤ c.toNat ∧ c.toNat ≤ 0x5a) ∨ (0x61 ≤ c.toNat ∧ c.toNat ≤ 0x7a)) ∨ c.isDigit = true := by
  change ((c.isUpper || c.isLower) || c.isDigit) = true ↔ _
  rw [Bool.or_eq_true, Bool.or_eq_true, isUpper_iff, isLower_iff]

theorem startsVariable_of_isAlphanum {c : Char} (h : c.isAlphanum = true) :
    startsVariable c = true := by
  rcases isAlphanum_iff.1 h with (hupper | hlower) | hdigit
  · exact inSpans_iff.2 ⟨(0x41, 0x5a), by decide, hupper⟩
  · exact inSpans_iff.2 ⟨(0x61, 0x7a), by decide, hlower⟩
  · exact startsVariable_of_isDigit hdigit

theorem isAlphanum_of_isHexDigit {c : Char} (h : Iri.isHexDigit c = true) :
    c.isAlphanum = true := by
  simp only [Iri.isHexDigit, Bool.or_eq_true, Bool.and_eq_true, decide_eq_true_eq, Char.le_def,
    UInt32.le_iff_toNat_le] at h
  rw [isAlphanum_iff]
  rcases h with (hdigit | hsmall) | hlarge
  · exact .inr hdigit
  · exact .inl (.inr ⟨hsmall.1, hsmall.2.trans (by decide)⟩)
  · exact .inl (.inl ⟨hlarge.1, hlarge.2.trans (by decide)⟩)

theorem inLocal_of_isHexDigit {c : Char} (h : Iri.isHexDigit c = true) : inLocal c = true := by
  have hstart := startsVariable_of_isAlphanum (isAlphanum_of_isHexDigit h)
  rw [inLocal, endsLocal, inName_of_startsVariable hstart]
  rfl

theorem inLocal_of_endsLocal {c : Char} (h : endsLocal c = true) : inLocal c = true := by
  rw [inLocal, h]
  rfl

theorem endsLocal_of_startsLocal {c : Char} (h : startsLocal c = true) : endsLocal c = true := by
  rw [startsLocal, Bool.or_eq_true] at h
  rw [endsLocal, Bool.or_eq_true]
  exact h.imp_left inName_of_startsVariable

theorem ne_point_of_endsLocal {c : Char} (h : endsLocal c = true) : c ≠ '.' := by
  rintro rfl
  revert h
  decide

theorem ne_of_inLocal {c : Char} (h : inLocal c = true) {d : Char} (hd : inLocal d = false) :
    c ≠ d := by
  rintro rfl
  rw [h] at hd
  cases hd

/-- A character of a local name adds nothing amiss, unless it is a point at the end. -/
theorem isPlainTail_cons {c : Char} (hc : inLocal c = true) (w : List Char) :
    isPlainTail (c :: w) = (isPlainTail w && decide (c ≠ '.' ∨ w ≠ [])) := by
  unfold isPlainTail
  rw [percentsPaired_cons (ne_of_inLocal hc (by decide)), List.all_cons, hc]
  cases w with
  | nil => simp [percentsPaired]
  | cons d rest => simp

theorem isPlainTail_pair {a b : Char} (ha : Iri.isHexDigit a = true) (hb : Iri.isHexDigit b = true)
    (w : List Char) : isPlainTail ('%' :: a :: b :: w) = isPlainTail w := by
  have hpoint : b ≠ '.' := by
    rintro rfl
    revert hb
    decide
  unfold isPlainTail
  rw [percentsPaired, ha, hb, List.all_cons, List.all_cons, List.all_cons, inLocal_of_isHexDigit ha,
    inLocal_of_isHexDigit hb]
  cases w with
  | nil => simp [percentsPaired, hpoint]
  | cons d rest => simp

theorem mem_localParts_of_last {w : List Char} (h : w ∈ one endsLocal + (percentPair + escaped)) :
    w ∈ localParts :=
  Language.mem_mul.2 ⟨[], Language.nil_mem_kstar _, w, h, rfl⟩

theorem append_mem_localParts {u w : List Char} (hu : u ∈ one inLocal + (percentPair + escaped))
    (hw : w ∈ localParts) : u ++ w ∈ localParts := by
  obtain ⟨front, hfront, last, hlast, rfl⟩ := Language.mem_mul.1 hw
  obtain ⟨words, rfl, hwords⟩ := Language.mem_kstar.1 hfront
  refine Language.mem_mul.2 ⟨u ++ words.flatten, ?_, last, hlast, List.append_assoc _ _ _⟩
  exact Language.mem_kstar.2 ⟨u :: words, rfl, List.forall_mem_cons.2 ⟨hu, hwords⟩⟩

/-- By the recursion of the check, one part of the name at a time. -/
theorem mem_localParts_of_isPlainTail {w : List Char} (h : isPlainTail w = true) (hne : w ≠ []) :
    w ∈ localParts := by
  fun_induction percentsPaired w with
  | case1 => exact absurd rfl hne
  | case2 a b rest ih =>
    have hpaired := h
    simp only [isPlainTail, percentsPaired, Bool.and_eq_true] at hpaired
    obtain ⟨⟨_, ⟨ha, hb⟩, _⟩, _⟩ := hpaired
    have hpair : ['%', a, b] ∈ percentPair + escaped := .inl (mem_percentPair.2 ⟨a, b, ha, hb, rfl⟩)
    rw [isPlainTail_pair ha hb] at h
    by_cases hrest : rest = []
    · rw [hrest]
      exact mem_localParts_of_last (.inr hpair)
    · exact append_mem_localParts (u := ['%', a, b]) (.inr hpair) (ih h hrest)
  | case3 c rest hno ih =>
    have hparts := h
    simp only [isPlainTail, percentsPaired, List.all_cons, Bool.and_eq_true, bne_iff_ne,
      Bool.or_eq_true, beq_iff_eq] at hparts
    obtain ⟨⟨⟨hc, _⟩, hpercent, _⟩, _⟩ := hparts
    have hc := hc.resolve_right hpercent
    rw [isPlainTail_cons hc, Bool.and_eq_true, decide_eq_true_eq] at h
    by_cases hrest : rest = []
    · -- a last character is no point
      have hends : endsLocal c = true := by
        rw [inLocal, Bool.or_eq_true] at hc
        exact hc.resolve_right fun hpoint => h.2.resolve_right (not_not.2 hrest) (eq_of_beq hpoint)
      rw [hrest]
      exact mem_localParts_of_last (.inl ⟨c, hends, rfl⟩)
    · exact append_mem_localParts (u := [c]) (.inl ⟨c, hc, rfl⟩) (ih h.1 hrest)

theorem ne_nil_of_mem_localParts {w : List Char} (h : w ∈ localParts) (hslash : '\\' ∉ w) :
    w ≠ [] := by
  obtain ⟨front, _, last, hlast, rfl⟩ := Language.mem_mul.1 h
  have hslash' : '\\' ∉ last := fun hmem => hslash (List.mem_append_right _ hmem)
  obtain ⟨c, _, rfl⟩ | ⟨a, b, _, _, rfl⟩ := (mem_part_iff hslash').1 hlast <;> simp

/-- Without a backslash the parts of a local name are characters and percent pairs. -/
theorem isPlainTail_of_mem_localParts {w : List Char} (h : w ∈ localParts) (hslash : '\\' ∉ w) :
    isPlainTail w = true := by
  obtain ⟨front, hfront, last, hlast, rfl⟩ := Language.mem_mul.1 h
  obtain ⟨words, rfl, hwords⟩ := Language.mem_kstar.1 hfront
  clear h hfront
  -- one part after the other, from the last
  induction words with
  | nil =>
    obtain ⟨c, hc, rfl⟩ | ⟨a, b, ha, hb, rfl⟩ := (mem_part_iff hslash).1 hlast
    · rw [List.flatten_nil, List.nil_append, isPlainTail_cons (inLocal_of_endsLocal hc),
        decide_eq_true (.inl (ne_point_of_endsLocal hc))]
      rfl
    · exact isPlainTail_pair ha hb []
  | cons word words ih =>
    obtain ⟨hword, hmore⟩ := List.forall_mem_cons.1 hwords
    rw [List.flatten_cons, List.append_assoc, List.mem_append, not_or] at hslash
    have hrest := ih hmore hslash.2
    rw [List.flatten_cons, List.append_assoc]
    obtain ⟨c, hc, rfl⟩ | ⟨a, b, ha, hb, rfl⟩ := (mem_part_iff hslash.1).1 hword
    · have hne : words.flatten ++ last ≠ [] := ne_nil_of_mem_localParts
        (Language.mem_mul.2 ⟨_, Language.mem_kstar.2 ⟨words, rfl, hmore⟩, last, hlast, rfl⟩) hslash.2
      rw [List.singleton_append, isPlainTail_cons hc, hrest, Bool.true_and, decide_eq_true_eq]
      exact .inr hne
    · exact (isPlainTail_pair ha hb _).trans hrest

theorem mem_localTail_iff {w : List Char} (h : '\\' ∉ w) :
    w ∈ 1 + localParts ↔ isPlainTail w = true := by
  rw [Language.mem_add, Language.mem_one]
  constructor
  · rintro (rfl | hparts)
    · rfl
    · exact isPlainTail_of_mem_localParts hparts h
  · intro hplain
    by_cases hne : w = []
    · exact .inl hne
    · exact .inr (mem_localParts_of_isPlainTail hplain hne)

/-- Without a backslash, the local names of the grammar are the plain ones. -/
theorem mem_localName_iff {w : List Char} (h : '\\' ∉ w) :
    w ∈ 1 + localName ↔ isPlainLocal w = true := by
  rw [Language.mem_add, Language.mem_one, localName, Language.mem_mul]
  constructor
  · rintro (rfl | ⟨first, hfirst, rest, hrest, rfl⟩)
    · rfl
    · rw [List.mem_append, not_or] at h
      rw [mem_localTail_iff h.2] at hrest
      obtain ⟨c, hc, rfl⟩ | ⟨a, b, ha, hb, rfl⟩ := (mem_part_iff h.1).1 hfirst
      · have hends := endsLocal_of_startsLocal hc
        rw [isPlainLocal, List.singleton_append, isPlainTail_cons (inLocal_of_endsLocal hends), hrest,
          decide_eq_true (.inl (ne_point_of_endsLocal hends)), List.head?_cons, Option.all_some, hc]
        rfl
      · exact (isPlainTail_pair ha hb rest).trans hrest
  · intro hplain
    cases w with
    | nil => exact .inl rfl
    | cons c rest =>
      right
      rw [isPlainLocal, Bool.and_eq_true, List.head?_cons, Option.all_some, Bool.or_eq_true] at hplain
      obtain ⟨hc | hc, htail⟩ := hplain
      · have hends := endsLocal_of_startsLocal hc
        rw [isPlainTail_cons (inLocal_of_endsLocal hends), Bool.and_eq_true] at htail
        have hslash : '\\' ∉ rest := fun hmem => h (List.mem_cons_of_mem _ hmem)
        exact ⟨[c], .inl ⟨c, hc, rfl⟩, rest, (mem_localTail_iff hslash).2 htail.1, rfl⟩
      · -- a percent sign starts a name with the two digits behind it
        cases eq_of_beq hc
        have hpaired : percentsPaired ('%' :: rest) = true := by
          simp only [isPlainTail, Bool.and_eq_true] at htail
          exact htail.1.2
        obtain ⟨a, b, more, ha, hb, rfl⟩ := exists_pair_of_percentsPaired hpaired
        rw [isPlainTail_pair ha hb] at htail
        have hslash : '\\' ∉ more := fun hmem => h (by simp [hmem])
        exact ⟨['%', a, b], .inr (.inl (mem_percentPair.2 ⟨a, b, ha, hb, rfl⟩)), more,
          (mem_localTail_iff hslash).2 htail, rfl⟩

/-! ## 4. Tokens -/

theorem inName_of_mem_prefixName {w : List Char} (h : w ∈ 1 + prefixName) :
    ∀ c ∈ w, (inName c || c == '.') = true := by
  rw [Language.mem_add, Language.mem_one, prefixName, mem_one_mul] at h
  obtain rfl | ⟨first, rest, hfirst, hrest, rfl⟩ := h
  · exact fun c hc => absurd hc List.not_mem_nil
  · rw [startsPrefix, Bool.and_eq_true, Bool.and_eq_true] at hfirst
    rw [List.forall_mem_cons, inName_of_startsVariable hfirst.1.1]
    refine ⟨rfl, ?_⟩
    rw [Language.mem_add, Language.mem_one, Language.mem_mul] at hrest
    obtain rfl | ⟨front, hfront, _, ⟨last, hlast, rfl⟩, rfl⟩ := hrest
    · exact fun c hc => absurd hc List.not_mem_nil
    · rw [List.forall_mem_append, List.forall_mem_singleton, hlast]
      exact ⟨mem_kstar_one.1 hfront, rfl⟩

theorem cons_mem_prefixName {c : Char} (hc : startsPrefix c = true) {rest : List Char}
    (hrest : rest.all inName = true) : c :: rest ∈ 1 + prefixName := by
  refine .inr (mem_one_mul.2 ⟨c, rest, hc, ?_, rfl⟩)
  rw [List.all_eq_true] at hrest
  rw [Language.mem_add, Language.mem_one, Language.mem_mul]
  rcases List.eq_nil_or_concat rest with rfl | ⟨front, last, rfl⟩
  · exact .inl rfl
  · rw [List.concat_eq_append, List.forall_mem_append, List.forall_mem_singleton] at hrest
    refine .inr ⟨front, mem_kstar_one.2 fun d hd => ?_, [last], ⟨last, hrest.2, rfl⟩, by simp⟩
    rw [hrest.1 d hd]
    rfl

theorem mem_iriRef {w : List Char} :
    w ∈ iriRef ↔ ∃ iri, (∀ c ∈ iri, (decide (0x20 < c.toNat) && !iriExcluded.contains c) = true) ∧
      w = '<' :: (iri ++ ['>']) := by
  rw [iriRef, mul_assoc, mem_one_mul]
  constructor
  · rintro ⟨c, rest, hc, hrest, rfl⟩
    obtain ⟨iri, hiri, _, ⟨d, hd, rfl⟩, rfl⟩ := Language.mem_mul.1 hrest
    exact ⟨iri, mem_kstar_one.1 hiri, by rw [eq_of_beq hc, eq_of_beq hd]⟩
  · rintro ⟨iri, hiri, rfl⟩
    exact ⟨'<', _, rfl, Language.mem_mul.2 ⟨iri, mem_kstar_one.2 hiri, _, ⟨'>', rfl, rfl⟩, rfl⟩, rfl⟩

theorem mem_prefixedName {w : List Char} :
    w ∈ prefixedName ↔
      ∃ name rest, name ∈ 1 + prefixName ∧ rest ∈ 1 + localName ∧ w = name ++ ':' :: rest := by
  rw [prefixedName, mul_assoc, Language.mem_mul]
  constructor
  · rintro ⟨name, hname, _, hbehind, rfl⟩
    obtain ⟨c, rest, hc, hrest, rfl⟩ := mem_one_mul.1 hbehind
    exact ⟨name, rest, hname, hrest, by rw [eq_of_beq hc]⟩
  · rintro ⟨name, rest, hname, hrest, rfl⟩
    exact ⟨name, hname, ':' :: rest, mem_one_mul.2 ⟨':', rest, rfl, hrest, rfl⟩, rfl⟩

theorem notMem_prefixName {w : List Char} (h : w ∈ 1 + prefixName) {c : Char}
    (hc : (inName c || c == '.') = false) : c ∉ w := by
  intro hmem
  rw [inName_of_mem_prefixName h c hmem] at hc
  cases hc

section Short

variable {name : List Char} (hname : name ∈ 1 + prefixName) (rest : List Char)
include hname

/-- A shortened IRI does not start like a full one. -/
theorem prefixed_ne_bracket (w : List Char) : name ++ ':' :: rest ≠ '<' :: w := by
  intro heq
  cases name with
  | nil => cases heq
  | cons c name =>
    rw [List.cons_append, List.cons.injEq] at heq
    rw [heq.1] at hname
    exact notMem_prefixName hname (by decide) List.mem_cons_self

/-- The first colon ends the prefix. -/
theorem span_prefixed : (name ++ ':' :: rest).span (· != ':') = (name, ':' :: rest) := by
  apply span_append
  · intro c hc
    rw [bne_iff_ne]
    rintro rfl
    exact notMem_prefixName hname (by decide) hc
  · rintro c ⟨⟩
    rfl

/-- A text with a proper prefix in front of its first colon is no full IRI, and divides in one way
only. -/
theorem short_mem_iriToken_iff : name ++ ':' :: rest ∈ iriToken ↔ rest ∈ 1 + localName := by
  have hfull : name ++ ':' :: rest ∉ iriRef := by
    intro h
    obtain ⟨iri, _, heq⟩ := mem_iriRef.1 h
    exact prefixed_ne_bracket hname rest _ heq
  rw [iriToken, Language.mem_add, or_iff_right hfull, mem_prefixedName]
  constructor
  · rintro ⟨name', rest', hname', hrest', heq⟩
    -- no prefix has a colon in it, so the text is taken apart in one way only
    have hspan := congrArg (List.span (· != ':')) heq
    rw [span_prefixed hname rest, span_prefixed hname' rest', Prod.mk.injEq, List.cons.injEq] at hspan
    rwa [hspan.2.2]
  · exact fun hrest => ⟨name, rest, hname, hrest, rfl⟩

end Short

theorem full_mem_iriToken_iff {iri : List Char} :
    '<' :: (iri ++ ['>']) ∈ iriToken ↔
      ∀ c ∈ iri, (decide (0x20 < c.toNat) && !iriExcluded.contains c) = true := by
  have hshort : '<' :: (iri ++ ['>']) ∉ prefixedName := by
    intro h
    obtain ⟨name, rest, hname, _, heq⟩ := mem_prefixedName.1 h
    exact prefixed_ne_bracket hname rest _ heq.symm
  rw [iriToken, Language.mem_add, or_iff_left hshort, mem_iriRef]
  constructor
  · rintro ⟨iri', hiri', heq⟩
    rwa [List.append_cancel_right (List.cons.inj heq).2]
  · exact fun hiri => ⟨iri, hiri, rfl⟩

end Grammar

/-! ## 5. IRIs cut before their last name -/

/-- Characters that the cutting of an IRI leaves in a name and the grammar does not have there. -/
def nameOddities : List Char := ['(', ')', 'ª', 'µ', 'º']

def spansWithin (spans others : List Span) : Bool :=
  spans.all fun s => others.any fun t => t.1.ble s.1 && s.2.ble t.2

theorem nameStarter_within :
    spansWithin nameStarterSpans (variableStartSpans ++ [(0xaa, 0xaa), (0xb5, 0xb5), (0xba, 0xba)]) =
      true := by
  decide +kernel

theorem nameExtender_within :
    spansWithin nameExtenderSpans (variableStartSpans ++ variableMarkSpans) = true := by
  decide +kernel

theorem inSpans_of_within {spans others : List Span} (h : spansWithin spans others = true) {code : Nat}
    (hcode : inSpans spans code = true) : inSpans others code = true := by
  obtain ⟨s, hs, hlow, hhigh⟩ := inSpans_iff.1 hcode
  obtain ⟨t, ht, hwithin⟩ := List.any_eq_true.1 (List.all_eq_true.1 h s hs)
  rw [Bool.and_eq_true, Nat.ble_eq, Nat.ble_eq] at hwithin
  exact inSpans_iff.2 ⟨t, ht, hwithin.1.trans hlow, hhigh.trans hwithin.2⟩

theorem inSpans_append (spans others : List Span) (code : Nat) :
    inSpans (spans ++ others) code = (inSpans spans code || inSpans others code) :=
  List.any_append

/-- Letters, digits and letter numbers are letters of the grammar, up to three of them. -/
theorem startsVariable_of_isNameStarter {c : Char} (h : isNameStarter c = true)
    (hodd : c ∉ nameOddities) : startsVariable c = true := by
  rw [isNameStarter] at h
  split at h
  · exact Grammar.startsVariable_of_isAlphanum h
  have hspans := inSpans_of_within nameStarter_within h
  rw [inSpans_append, Bool.or_eq_true] at hspans
  -- the three spans that the grammar lacks have one letter each
  refine hspans.resolve_right fun hthree => hodd ?_
  obtain ⟨span, hspan, hlow, hhigh⟩ := inSpans_iff.1 hthree
  have hcode : c = Char.ofNat c.toNat := (Char.ofNat_toNat c).symm
  simp only [List.mem_cons, List.not_mem_nil, or_false] at hspan
  rcases hspan with rfl | rfl | rfl
  all_goals
    rw [hcode, le_antisymm hhigh hlow]
    decide

theorem continuesVariable_of_isNameExtender {c : Char} (h : isNameExtender c = true) :
    continuesVariable c = true := by
  rw [isNameExtender, Bool.and_eq_true] at h
  have hspans := inSpans_of_within nameExtender_within h.2
  rwa [inSpans_append] at hspans

theorem startsLocal_of_startsName {c : Char} (h : startsName c = true) (hodd : c ∉ nameOddities) :
    Grammar.startsLocal c = true := by
  rw [startsName, Bool.or_eq_true] at h
  rcases h with hstarter | hunderscore
  · rw [Grammar.startsLocal, startsVariable_of_isNameStarter hstarter hodd]
    rfl
  · rw [eq_of_beq hunderscore]
    decide

/-- What the cutting of an IRI leaves in a name is fit for a local name, up to the oddities. -/
theorem inLocal_or_percent_iff {c : Char} (h : isNameChar c = true) :
    (Grammar.inLocal c || c == '%') = true ↔ c ∉ nameOddities := by
  have hodd : nameOddities.all (fun d => !(Grammar.inLocal d || d == '%')) = true := by decide
  refine ⟨fun hlocal hmem => ?_, fun hc => ?_⟩
  · have hnot := List.all_eq_true.1 hodd c hmem
    rw [hlocal] at hnot
    cases hnot
  have hlocal (hname : Grammar.inName c = true) : (Grammar.inLocal c || c == '%') = true := by
    rw [Grammar.inLocal, Grammar.endsLocal, hname]
    rfl
  rw [isNameChar, Bool.or_eq_true, Bool.or_eq_true] at h
  rcases h with (hstarter | hextender) | hextra
  · exact hlocal (Grammar.inName_of_startsVariable (startsVariable_of_isNameStarter hstarter hc))
  · apply hlocal
    rw [Grammar.inName, continuesVariable_of_isNameExtender hextender]
    rfl
  · have hextras : nameExtras.all
        (fun d => nameOddities.contains d || (Grammar.inLocal d || d == '%')) = true := by decide
    have hone := List.all_eq_true.1 hextras c (List.contains_iff_mem.1 hextra)
    rw [Bool.or_eq_true, List.contains_iff_mem] at hone
    exact hone.resolve_left hc

/-- The last run of name characters in an IRI has one that starts a name. -/
def EndsInName (iri : List Char) : Prop :=
  ∃ c ∈ iri.reverse.takeWhile isNameChar, startsName c = true

theorem isNameChar_of_startsName {c : Char} (h : startsName c = true) : isNameChar c = true := by
  rw [startsName, Bool.or_eq_true] at h
  rcases h with hstarter | hunderscore
  · rw [isNameChar, hstarter]
    rfl
  · rw [eq_of_beq hunderscore]
    decide

/-- A character that is not of a name stands before the last run of name characters. -/
theorem exists_before_run {iri : List Char}
    (h : (iri.reverse.takeWhile isNameChar).length ≠ iri.length) :
    ∃ front x, iri = front ++ x :: (iri.reverse.takeWhile isNameChar).reverse ∧
      isNameChar x = false := by
  have hjoin := List.takeWhile_append_dropWhile (p := isNameChar) (l := iri.reverse)
  have hnot := List.head?_dropWhile_not isNameChar iri.reverse
  cases hback : iri.reverse.dropWhile isNameChar with
  | nil =>
    rw [hback, List.append_nil] at hjoin
    exact absurd (by rw [hjoin, List.length_reverse]) h
  | cons x back =>
    rw [hback] at hjoin hnot
    have hreverse := congrArg List.reverse hjoin
    rw [List.reverse_append, List.reverse_cons, List.reverse_reverse, List.append_assoc] at hreverse
    exact ⟨back.reverse, x, hreverse.symm, hnot⟩

/-- The search for the start of a name in a text goes on behind a character that starts none. -/
theorem nameStart?_append (front : List Char) {run : List Char} {x : Char}
    (hx : startsName x = false) (hrun : ∃ c ∈ run, startsName c = true) :
    ∃ k c more, nameStart? (front ++ x :: run) front.length = some (k + 1 + front.length) ∧
      run.drop k = c :: more ∧ startsName c = true := by
  cases hfound : run.findIdx? startsName with
  | none =>
    obtain ⟨c, hc, hstarts⟩ := hrun
    rw [List.findIdx?_eq_none_iff.1 hfound c hc] at hstarts
    cases hstarts
  | some k =>
    obtain ⟨hk, hstarts, _⟩ := List.findIdx?_eq_some_iff_getElem.1 hfound
    refine ⟨k, run[k], run.drop (k + 1), ?_, List.drop_eq_getElem_cons hk, hstarts⟩
    rw [nameStart?, List.drop_left, List.findIdx?_cons, hx, hfound]
    rfl

/-- An IRI that ends in a name is cut inside its last run of name characters, before one that starts a
name. -/
theorem splitIri?_of_endsInName {iri ns rest : List Char} (h : splitIri? iri = some (ns, rest))
    (hxml : ¬xmlNamespace <+: iri) (hname : EndsInName iri) :
    (∀ c ∈ rest, isNameChar c = true) ∧ ∃ c more, rest = c :: more ∧ startsName c = true := by
  rw [splitIri?, if_neg (by rwa [List.isPrefixOf_iff_prefix])] at h
  simp only at h
  split at h
  · cases h
  rename_i hlength
  obtain ⟨front, x, hiri, hx⟩ := exists_before_run hlength
  have hall := List.all_eq_true.1 (List.all_takeWhile (p := isNameChar) (l := iri.reverse))
  rw [EndsInName] at hname
  generalize iri.reverse.takeWhile isNameChar = run at h hiri hall hname
  subst hiri
  have hstart : (front ++ x :: run.reverse).length - run.length - 1 = front.length := by
    rw [List.length_append, List.length_cons, List.length_reverse]
    omega
  -- the search begins one place before the run, at a character that starts no name
  have hbefore : startsName x = false := by
    rw [Bool.eq_false_iff]
    intro hstarts
    rw [isNameChar_of_startsName hstarts] at hx
    cases hx
  have hstarter : ∃ c ∈ run.reverse, startsName c = true := by simpa using hname
  obtain ⟨k, c, more, hfound, hdrop, hstarts⟩ := nameStart?_append front hbefore hstarter
  obtain ⟨i, hi⟩ : ∃ i, k + 1 + front.length = i + 1 := ⟨k + front.length, by omega⟩
  rw [hstart, hfound, Option.some_or, hi] at h
  cases h
  have hrest : (front ++ x :: run.reverse).drop (i + 1) = run.reverse.drop k := by
    rw [← hi, Nat.add_comm, List.drop_length_add_append, List.drop_succ_cons]
  rw [hrest]
  refine ⟨fun d hd => hall d ?_, c, more, hdrop, hstarts⟩
  exact List.mem_reverse.1 (List.mem_of_mem_drop hd)

/-- A name that an IRI was cut before is a local name, up to oddities, percent signs and a point at the
end. -/
theorem isPlainLocal_iff_of_names {w : List Char} (hall : ∀ c ∈ w, isNameChar c = true)
    (hhead : ∃ c more, w = c :: more ∧ startsName c = true) :
    Grammar.isPlainLocal w = true ↔
      (∀ c ∈ w, c ∉ nameOddities) ∧ Grammar.percentsPaired w = true ∧ w.getLast? ≠ some '.' := by
  have hchars : w.all (fun c => Grammar.inLocal c || c == '%') = true ↔ ∀ c ∈ w, c ∉ nameOddities := by
    rw [List.all_eq_true]
    exact forall₂_congr fun c hc => inLocal_or_percent_iff (hall c hc)
  rw [Grammar.isPlainLocal, Grammar.isPlainTail, Bool.and_eq_true, Bool.and_eq_true, Bool.and_eq_true,
    decide_eq_true_eq, hchars, and_assoc, and_iff_right_of_imp]
  rintro ⟨hodd, _⟩
  obtain ⟨c, more, rfl, hstarts⟩ := hhead
  rw [List.head?_cons, Option.all_some, startsLocal_of_startsName hstarts (hodd c List.mem_cons_self)]
  rfl

/-! ## 6. Written IRIs -/

/-- An IRI that can be written has no backslash, and no other character that the brackets exclude. -/
theorem notMem_of_isWritableIri {iri : String} (h : Term.isWritableIri iri = true) {c : Char}
    (hc : c ∈ Term.iriStops) : c ∉ iri.toList := by
  intro hmem
  rw [Term.isWritableIri, Bool.not_eq_true', List.any_eq_false] at h
  exact h c hmem (List.contains_iff_mem.2 hc)

theorem Grammar.iriExcluded_subset : iriExcluded ⊆ Term.iriStops := by
  decide

/-- Between brackets there is no control character, and behind a prefix there is nothing or a local
name. -/
def IriForm.Fits : IriForm → Prop
  | .full iri => ∀ c ∈ iri.toList, 0x20 < c.toNat
  | .short _ rest => Grammar.isPlainLocal rest.toList = true

/-- An IRI that can be written is a token of the grammar if it stands between brackets and has no control
character, or if it is shortened and its rest is empty or a local name. Of an IRI that is shortened by
the namespace it is cut into, before its last name, the rest fails to be one only by a parenthesis or
one of three letters, by a percent sign that codes nothing, or by a point at the end. -/
theorem iri_token_legal_iff {table : Option PrefixTable} {iri : String} {piece : Piece}
    (hnames : ∀ t, table = some t → ∀ e ∈ t.entries, e.1.toList ∈ 1 + Grammar.prefixName)
    (hpiece : writeTerm table (some (.iri iri)) = .ok piece) :
    (piece.text.toList ∈ Grammar.iriToken ↔ (iriForm table iri).Fits) ∧
    (∀ name ns rest, iriForm table iri = .short name rest →
      splitIri? iri.toList = some (ns, rest.toList) → ¬xmlNamespace <+: iri.toList →
      EndsInName iri.toList →
      (piece.text.toList ∈ Grammar.iriToken ↔
        (∀ c ∈ rest.toList, c ∉ nameOddities) ∧ Grammar.percentsPaired rest.toList = true ∧
          rest.toList.getLast? ≠ some '.')) := by
  obtain ⟨x, hx, hwritable, rfl⟩ := writeTerm_eq_ok_iff.1 hpiece
  cases hx
  -- an IRI that is written has no backslash, so that plain names are all there is
  have hshort {name rest : String} (hform : iriForm table iri = .short name rest) :
      ((Term.iri iri).piece table).text.toList ∈ Grammar.iriToken ↔
        Grammar.isPlainLocal rest.toList = true := by
    obtain ⟨t, ns, htable, hentry, hjoin⟩ := exists_entry_of_iriForm hform
    have htext : ((Term.iri iri).piece table).text.toList = name.toList ++ ':' :: rest.toList := by
      simp [Term.piece, Term.shown, hform, IriForm.text]
    have hslash : '\\' ∉ rest.toList := by
      have hiri := notMem_of_isWritableIri hwritable (c := '\\') (by decide)
      rw [← hjoin, String.toList_append, List.mem_append, not_or] at hiri
      exact hiri.2
    rw [htext, Grammar.short_mem_iriToken_iff (hnames t htable _ hentry),
      Grammar.mem_localName_iff hslash]
  constructor
  · cases hform : iriForm table iri with
    | full iri' =>
      have htext : ((Term.iri iri).piece table).text.toList = '<' :: (iri.toList ++ ['>']) := by
        simp [Term.piece, Term.shown, hform, iriForm_eq_full hform, IriForm.text]
      rw [htext, Grammar.full_mem_iriToken_iff, IriForm.Fits, iriForm_eq_full hform]
      refine forall₂_congr fun c hc => ?_
      have hincluded : Grammar.iriExcluded.contains c = false := by
        rw [Bool.eq_false_iff, Ne, List.contains_iff_mem]
        exact fun hmem => notMem_of_isWritableIri hwritable (Grammar.iriExcluded_subset hmem) hc
      rw [hincluded, Bool.not_false, Bool.and_true, decide_eq_true_eq]
    | short name rest => exact hshort hform
  · intro name ns rest hform hsplit hxml hname
    obtain ⟨hall, hhead⟩ := splitIri?_of_endsInName hsplit hxml hname
    rw [hshort hform, isPlainLocal_iff_of_names hall hhead]

def versionTable : PrefixTable :=
  ⟨[("ex", "http://ex/"), ("v", "http://ex/v1.")], by decide⟩

theorem versionTable_names :
    ∀ t, some versionTable = some t → ∀ e ∈ t.entries, e.1.toList ∈ 1 + Grammar.prefixName := by
  rintro _ ⟨⟩ e he
  simp only [versionTable, List.mem_cons, List.not_mem_nil, or_false] at he
  rcases he with rfl | rfl
  all_goals exact Grammar.cons_mem_prefixName (by decide) (by decide)

theorem iri_token_versionTable :
    (∀ t, some versionTable = some t → ∀ e ∈ t.entries, e.1.toList ∈ 1 + Grammar.prefixName) ∧
    writeTerm (some versionTable) (some (.iri "http://ex/v1.-2")) = .ok ⟨"v:-2", ["v"]⟩ ∧
    ("v:-2".toList ∈ Grammar.iriToken ↔ (iriForm (some versionTable) "http://ex/v1.-2").Fits) ∧
    (∀ name ns rest, iriForm (some versionTable) "http://ex/v1.-2" = .short name rest →
      splitIri? "http://ex/v1.-2".toList = some (ns, rest.toList) →
      ¬xmlNamespace <+: "http://ex/v1.-2".toList → EndsInName "http://ex/v1.-2".toList →
      ("v:-2".toList ∈ Grammar.iriToken ↔
        (∀ c ∈ rest.toList, c ∉ nameOddities) ∧ Grammar.percentsPaired rest.toList = true ∧
          rest.toList.getLast? ≠ some '.')) ∧
    EndsInName "http://ex/half%".toList ∧
    ("ex:half%".toList ∈ Grammar.iriToken ↔
      (∀ c ∈ "half%".toList, c ∉ nameOddities) ∧ Grammar.percentsPaired "half%".toList = true ∧
        "half%".toList.getLast? ≠ some '.') := by
  have hpiece : writeTerm (some versionTable) (some (.iri "http://ex/v1.-2")) =
      .ok ⟨"v:-2", ["v"]⟩ := by
    decide +kernel
  have hhalf : writeTerm (some versionTable) (some (.iri "http://ex/half%")) =
      .ok ⟨"ex:half%", ["ex"]⟩ := by
    decide +kernel
  have hends : EndsInName "http://ex/half%".toList := ⟨'f', by decide +kernel, by decide⟩
  have hlegal := iri_token_legal_iff versionTable_names hpiece
  have hcut := (iri_token_legal_iff versionTable_names hhalf).2 "ex" "http://ex/".toList "half%"
    (by decide +kernel) (by decide +kernel) (by decide +kernel) hends
  exact ⟨versionTable_names, hpiece, hlegal.1, hlegal.2, hends, hcut⟩

/-- A parenthesis in a name is written as it is. -/
theorem parenthesis_not_iriToken :
    writeTerm (some versionTable) (some (.iri "http://ex/f(x)")) = .ok ⟨"ex:f(x)", ["ex"]⟩ ∧
    "ex:f(x)".toList ∉ Grammar.iriToken := by
  refine ⟨by decide +kernel, ?_⟩
  have hname : "ex".toList ∈ 1 + Grammar.prefixName :=
    Grammar.cons_mem_prefixName (by decide) (by decide)
  have htext : "ex:f(x)".toList = "ex".toList ++ ':' :: "f(x)".toList := by decide
  rw [htext, Grammar.short_mem_iriToken_iff hname, Grammar.mem_localName_iff (by decide)]
  decide

end ShaclQuery
