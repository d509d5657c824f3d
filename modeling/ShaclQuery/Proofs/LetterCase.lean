import Mathlib.Data.List.Basic
import Mathlib.Data.Nat.Bitwise
import ShaclQuery.Number.Numeral
import ShaclQuery.Text.Letter

/-! # Letter case

Two facts about the case of whole texts. Putting a text in upper case twice is the same as doing it once,
since no letter becomes one that has another upper case. And a text whose lower case is a certain word is
that word in ASCII letters, in any case, as long as the word avoids the two letters that others become
as well.
-/

namespace ShaclQuery.Text

/-! ## 1. Upper case twice -/

def CaseSpan.codes (s : CaseSpan) : List Nat :=
  (List.range ((s.last - s.first) / s.step + 1)).map fun k => s.first + k * s.step

def CaseSpan.Holds (s : CaseSpan) (code : Nat) : Prop :=
  s.first ≤ code ∧ code ≤ s.last ∧ (code - s.first) % s.step = 0

theorem mem_codes_of_holds {s : CaseSpan} {code : Nat} (h : s.Holds code) : code ∈ s.codes := by
  obtain ⟨hfirst, hlast, hstep⟩ := h
  refine List.mem_map.2 ⟨(code - s.first) / s.step, ?_, ?_⟩
  · rw [List.mem_range, Nat.lt_succ_iff]
    exact Nat.div_le_div_right (Nat.sub_le_sub_right hlast _)
  · rw [Nat.div_mul_cancel (Nat.dvd_of_mod_eq_zero hstep), Nat.add_sub_cancel' hfirst]

def unsettled : List Nat := upperSpans.flatMap CaseSpan.codes ++ upperSequences.map Prod.fst

def capitals : List Nat :=
  (upperSpans.flatMap fun s => s.codes.map fun (code : Nat) => ((code : Int) + s.offset).toNat) ++
    upperSequences.flatMap Prod.snd

/-- A set of numbers as the bits of one number. Disjoint sets are told by one operation, where
comparing each two members would take too long. -/
def bits (codes : List Nat) : Nat := codes.foldr (fun code rest => 2 ^ code ||| rest) 0

theorem testBit_bits (codes : List Nat) (n : Nat) : (bits codes).testBit n = decide (n ∈ codes) := by
  induction codes with
  | nil => exact Nat.zero_testBit n
  | cons code rest ih =>
    change (2 ^ code ||| bits rest).testBit n = _
    rw [Nat.testBit_or, ih, Nat.testBit_two_pow, ← Bool.decide_or]
    simp only [List.mem_cons, eq_comm]

theorem bits_capitals_and_unsettled : bits capitals &&& bits unsettled = 0 := by
  decide +kernel

theorem notMem_unsettled {code : Nat} (h : code ∈ capitals) : code ∉ unsettled := by
  intro hmem
  have hbit := congrArg (Nat.testBit · code) bits_capitals_and_unsettled
  simp only [Nat.testBit_and, testBit_bits, Nat.zero_testBit, h, hmem] at hbit
  cases hbit

theorem shiftCase_eq_some {spans : List CaseSpan} {code code' : Nat}
    (h : shiftCase spans code = some code') :
    ∃ s ∈ spans, s.Holds code ∧ code' = ((code : Int) + s.offset).toNat := by
  obtain ⟨s, hs, rfl⟩ := Option.map_eq_some_iff.1 h
  have hhit := List.find?_some hs
  simp only [Bool.and_eq_true, decide_eq_true_eq, beq_iff_eq] at hhit
  exact ⟨s, List.mem_of_find?_eq_some hs, ⟨hhit.1.1, hhit.1.2, hhit.2⟩, rfl⟩

theorem mem_unsettled {s : CaseSpan} (hs : s ∈ upperSpans) {code : Nat} (h : s.Holds code) :
    code ∈ unsettled :=
  List.mem_append_left _ (List.mem_flatMap.2 ⟨s, hs, mem_codes_of_holds h⟩)

theorem mem_capitals {s : CaseSpan} (hs : s ∈ upperSpans) {code : Nat} (h : s.Holds code) :
    ((code : Int) + s.offset).toNat ∈ capitals :=
  List.mem_append_left _ (List.mem_flatMap.2 ⟨s, hs, List.mem_map_of_mem (mem_codes_of_holds h)⟩)

theorem shiftCase_eq_none {code : Nat} (h : code ∉ unsettled) : shiftCase upperSpans code = none := by
  cases hcase : shiftCase upperSpans code with
  | none => rfl
  | some code' =>
    obtain ⟨s, hs, hcode, _⟩ := shiftCase_eq_some hcase
    exact absurd (mem_unsettled hs hcode) h

theorem lookup_eq_none {code : Nat} (h : code ∉ unsettled) : upperSequences.lookup code = none := by
  rw [List.lookup_eq_none_iff]
  intro e he
  rw [bne_iff_ne]
  rintro rfl
  exact h (List.mem_append_right _ (List.mem_map_of_mem he))

/-- The small letters of ASCII are in the table as well. -/
theorem holds_of_small {c : Char} (h : 'a'.val ≤ c.val ∧ c.val ≤ 'z'.val) :
    CaseSpan.Holds ⟨0x61, 0x7a, 1, -32⟩ c.toNat :=
  ⟨UInt32.le_iff_toNat_le.1 h.1, UInt32.le_iff_toNat_le.1 h.2, Nat.mod_one _⟩

theorem toNat_toUpper_mem_capitals {c : Char} (h : 'a'.val ≤ c.val ∧ c.val ≤ 'z'.val) :
    c.toUpper.toNat ∈ capitals := by
  have hcapital := mem_capitals List.mem_cons_self (holds_of_small h)
  have hcode : c.toUpper.toNat = ((c.toNat : Int) + -32).toNat := by
    have hlow : 97 ≤ c.val.toNat := UInt32.le_iff_toNat_le.1 h.1
    have hhigh : c.val.toNat ≤ 122 := UInt32.le_iff_toNat_le.1 h.2
    change (dite _ _ _ : Char).toNat = _
    rw [dif_pos h]
    change (c.val + ('A'.val - 'a'.val)).toNat = ((c.val.toNat : Int) + -32).toNat
    rw [UInt32.toNat_add, show ('A'.val - 'a'.val).toNat = 2 ^ 32 - 32 from rfl]
    omega
  rwa [hcode]

theorem toUpper_of_not_small {c : Char} (h : ¬('a'.val ≤ c.val ∧ c.val ≤ 'z'.val)) : c.toUpper = c :=
  dif_neg h

/-- What has no other upper case stays as it is. -/
theorem upperChar_of_notMem {c : Char} (h : c.toNat ∉ unsettled) : upperChar c = [c] := by
  unfold upperChar
  split
  · rw [toUpper_of_not_small fun hsmall => h (mem_unsettled List.mem_cons_self (holds_of_small hsmall))]
  · rw [lookup_eq_none h, shiftCase_eq_none h]
    rfl

theorem toNat_ofNat (code : Nat) : (Char.ofNat code).toNat = code ∨ Char.ofNat code = '\x00' := by
  by_cases hvalid : code.isValidChar
  · have hchar : Char.ofNat code = Char.ofNatAux code hvalid := dif_pos hvalid
    rw [hchar]
    exact .inl rfl
  · exact .inr (dif_neg hvalid)

theorem upperChar_ofNat {code : Nat} (h : code ∈ capitals) :
    upperChar (Char.ofNat code) = [Char.ofNat code] := by
  rcases toNat_ofNat code with hcode | hzero
  · apply upperChar_of_notMem
    rw [hcode]
    exact notMem_unsettled h
  · rw [hzero]
    rfl

/-- The upper case of an upper case is itself. -/
theorem upperChar_of_mem {c d : Char} (h : d ∈ upperChar c) : upperChar d = [d] := by
  unfold upperChar at h
  split at h
  · rename_i hascii
    rw [List.mem_singleton.1 h]
    -- a small letter becomes a capital of the table, and the others stay
    by_cases hsmall : 'a'.val ≤ c.val ∧ c.val ≤ 'z'.val
    · exact upperChar_of_notMem (notMem_unsettled (toNat_toUpper_mem_capitals hsmall))
    · rw [toUpper_of_not_small hsmall, upperChar, if_pos hascii, toUpper_of_not_small hsmall]
  · rename_i hascii
    split at h
    · rename_i codes hcodes
      obtain ⟨code, hcode, rfl⟩ := List.mem_map.1 h
      obtain ⟨front, back, hsplit, _⟩ := List.lookup_eq_some_iff.1 hcodes
      have hmem : (c.toNat, codes) ∈ upperSequences := by simp [hsplit]
      exact upperChar_ofNat (List.mem_append_right _ (List.mem_flatMap.2 ⟨_, hmem, hcode⟩))
    · rename_i hlookup
      rw [List.mem_singleton.1 h]
      cases hshift : shiftCase upperSpans c.toNat with
      | none =>
        rw [Option.map_none, Option.getD_none, upperChar, if_neg hascii, hlookup, hshift]
        rfl
      | some code =>
        obtain ⟨s, hs, hcode, rfl⟩ := shiftCase_eq_some hshift
        exact upperChar_ofNat (mem_capitals hs hcode)

/-- Upper case is settled at once. -/
theorem upper_upper (text : String) : upper (upper text) = upper text := by
  unfold upper
  rw [String.toList_ofList, List.flatMap_assoc]
  refine congrArg String.ofList (List.flatMap_congr fun c _ => ?_)
  calc (upperChar c).flatMap upperChar
    _ = (upperChar c).flatMap fun d => [d] := List.flatMap_congr fun d hd => upperChar_of_mem hd
    _ = upperChar c := List.flatMap_singleton' _

/-! ## 2. Words in lower case -/

/-- Small letters that only letters of ASCII become; the capital I with a dot becomes an `i` and the
Kelvin sign a `k`. -/
def isPlainSmall (c : Char) : Bool := c.isLower && c != 'i' && c != 'k'

theorem lowerSpans_outside_ascii :
    (lowerSpans.all fun s => s.last < 128 || 128 ≤ ((s.first : Int) + s.offset).toNat ||
      s.first == s.last && (s.first : Int) + s.offset == 0x6b) = true := by
  decide +kernel

theorem toNat_lt_of_isPlainSmall {c : Char} (h : isPlainSmall c = true) : c.toNat < 128 := by
  rw [isPlainSmall, Bool.and_eq_true, Bool.and_eq_true] at h
  have hlast : c.val ≤ 'z'.val := of_decide_eq_true (Bool.and_eq_true_iff.1 h.1.1).2
  exact Nat.lt_of_le_of_lt (UInt32.le_iff_toNat_le.1 hlast) (by decide)

theorem isPlainSmall_ofNat {code : Nat} (h : 128 ≤ code) : isPlainSmall (Char.ofNat code) = false := by
  rw [Bool.eq_false_iff]
  intro hsmall
  rcases toNat_ofNat code with hcode | hzero
  · have hlt := toNat_lt_of_isPlainSmall hsmall
    omega
  · rw [hzero] at hsmall
    revert hsmall
    decide

/-- Outside ASCII, no letter becomes one of these small letters. -/
theorem isPlainSmall_shiftCase {code code' : Nat} (hcode : 128 ≤ code)
    (h : shiftCase lowerSpans code = some code') : isPlainSmall (Char.ofNat code') = false := by
  obtain ⟨s, hs, ⟨hfirst, hlast, _⟩, rfl⟩ := shiftCase_eq_some h
  have hspan := List.all_eq_true.1 lowerSpans_outside_ascii s hs
  simp only [Bool.or_eq_true, Bool.and_eq_true, decide_eq_true_eq, beq_iff_eq] at hspan
  rcases hspan with (hascii | hlow) | ⟨hone, hkelvin⟩
  · omega
  · exact isPlainSmall_ofNat (by omega)
  · have hk : ((code : Int) + s.offset).toNat = 0x6b := by omega
    rw [hk]
    decide

theorem lowerChar_head {c : Char} (hc : ¬c.toNat < 128) (before after : List Char) :
    ∃ d more, lowerChar before after c = d :: more ∧ isPlainSmall d = false := by
  have hself : isPlainSmall c = false :=
    Bool.eq_false_iff.2 fun h => hc (toNat_lt_of_isPlainSmall h)
  unfold lowerChar
  rw [if_neg hc]
  split
  · dsimp only
    split
    · exact ⟨_, _, rfl, by decide⟩
    · exact ⟨_, _, rfl, by decide⟩
  · split
    · exact ⟨_, _, rfl, by decide⟩
    · refine ⟨_, _, rfl, ?_⟩
      cases hshift : shiftCase lowerSpans c.toNat with
      | none => exact hself
      | some code => exact isPlainSmall_shiftCase (Nat.le_of_not_lt hc) hshift

theorem toLower_of_not_ascii {c : Char} (hc : ¬c.toNat < 128) : c.toLower = c := by
  refine dif_neg fun hcapital => hc ?_
  exact Nat.lt_of_le_of_lt (UInt32.le_iff_toNat_le.1 hcapital.2) (by decide)

/-- For a word of plain small letters lower case is that of ASCII. -/
theorem lowerFrom_eq_iff {word : List Char} (hword : ∀ c ∈ word, isPlainSmall c = true)
    (before text : List Char) : lowerFrom before text = word ↔ text.map Char.toLower = word := by
  induction text generalizing before word with
  | nil => exact Iff.rfl
  | cons c rest ih =>
    rw [lowerFrom, List.map_cons]
    by_cases hascii : c.toNat < 128
    · rw [lowerChar, if_pos hascii, List.singleton_append]
      cases word with
      | nil => simp
      | cons d word =>
        rw [List.cons.injEq, List.cons.injEq, ih (List.forall_mem_cons.1 hword).2]
    · -- neither side starts with a letter of the word
      obtain ⟨d, more, hlower, hd⟩ := lowerChar_head hascii before rest
      rw [hlower, toLower_of_not_ascii hascii]
      refine iff_of_false ?_ ?_
      · rintro rfl
        rw [hword d List.mem_cons_self] at hd
        cases hd
      · rintro rfl
        exact hascii (toNat_lt_of_isPlainSmall (hword c List.mem_cons_self))

/-- A text whose lower case is a word is that word in any letter case of ASCII. -/
theorem lower_eq_iff_spells {word : String} (hword : word.toList.all isPlainSmall = true)
    (text : String) : lower text = word ↔ Number.spells word text.toList = true := by
  rw [Number.spells, beq_iff_eq, ← lowerFrom_eq_iff (List.all_eq_true.1 hword) [], lower,
    ← String.toList_inj, String.toList_ofList]

end ShaclQuery.Text
