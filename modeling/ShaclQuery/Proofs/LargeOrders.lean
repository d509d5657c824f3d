import ShaclQuery.Proofs.PropertyOrder
import ShaclQuery.Proofs.ReadingErrors

/-! # Orders too large for a double

Nearly every `sh:order` can be told: a number is rounded to a double, and a value that is no number, or
no literal at all, counts as infinity. The exception are whole numbers that round beyond the largest
double. This file finds where these begin, half-way between the largest double and the next power of
two, and shows that reading a shape fails exactly when it comes to a property with such an order.
-/

namespace ShaclQuery

open Number Vocabulary

/-! ## 1. Whole numbers that round to infinity -/

namespace Number.Double

/-- The number half-way between the largest double and the next power of two. -/
def overflowBound : Nat := Nat.pow 2 1024 - Nat.pow 2 970

/-- The two ways to round a quotient; a tie goes to the even neighbour. -/
theorem roundQuotient_cases (num den : Nat) :
    roundQuotient num den = num / den ∧
      (2 * (num % den) < den ∨ 2 * (num % den) = den ∧ num / den % 2 = 0) ∨
    roundQuotient num den = num / den + 1 ∧
      (den < 2 * (num % den) ∨ 2 * (num % den) = den ∧ num / den % 2 = 1) := by
  unfold roundQuotient
  dsimp only
  split
  · rename_i hup
    simp only [Bool.or_eq_true, Bool.and_eq_true, decide_eq_true_eq] at hup
    exact .inr ⟨rfl, hup⟩
  · rename_i hup
    simp only [Bool.or_eq_true, Bool.and_eq_true, decide_eq_true_eq] at hup
    exact .inl ⟨rfl, by omega⟩

def inUnits (n : Nat) : Nat × Nat := scaleDown n 1 ((n.log2 : Int) - 52)

/-- In its unit a whole number has 53 bits. -/
theorem inUnits_bits {n : Nat} (hn : n ≠ 0) :
    binade ≤ (inUnits n).1 / (inUnits n).2 ∧ (inUnits n).1 / (inUnits n).2 < 2 * binade := by
  have hlow := Nat.log2_self_le hn
  have hhigh := Nat.lt_log2_self (n := n)
  unfold inUnits
  cases hunit : (n.log2 : Int) - 52 with
  | ofNat e =>
    have hlog : n.log2 = e + 52 := by
      rw [Int.ofNat_eq_natCast] at hunit
      omega
    have hpos := Nat.two_pow_pos e
    simp only [scaleDown, Nat.pow_eq, Nat.one_mul, binade]
    rw [hlog] at hlow hhigh
    constructor
    · rw [Nat.le_div_iff_mul_le hpos, ← Nat.pow_add, Nat.add_comm]
      exact hlow
    · rw [Nat.div_lt_iff_lt_mul hpos, ← Nat.pow_succ', ← Nat.pow_add,
        show 52 + 1 + e = e + 52 + 1 by omega]
      exact hhigh
  | negSucc e =>
    -- the unit is a fraction, and dividing by it is multiplying
    have hlog : n.log2 + (e + 1) = 52 := by omega
    simp only [scaleDown, Nat.pow_eq, Nat.div_one, binade]
    constructor
    · rw [← hlog, Nat.pow_add]
      exact Nat.mul_le_mul_right _ hlow
    · rw [← hlog, ← Nat.pow_succ', Nat.succ_eq_add_one,
        show n.log2 + (e + 1) + 1 = n.log2 + 1 + (e + 1) by omega, Nat.pow_add _ (n.log2 + 1)]
      exact Nat.mul_lt_mul_of_pos_right hhigh (Nat.two_pow_pos _)

theorem unitExponent_one {n : Nat} (hn : n ≠ 0) : unitExponent n 1 = (n.log2 : Int) - 52 := by
  have hbits := (inUnits_bits hn).1
  have hlog : (Nat.log2 1 : Int) = 0 := rfl
  unfold inUnits at hbits
  unfold unitExponent
  rw [hlog, Int.sub_zero]
  dsimp only
  rw [if_neg (by omega)]
  omega

/-- The rank of a whole number: that of the power of two at its highest bit, less one binade, and its
own significand. -/
theorem rankOfRatio_one {n : Nat} (hn : n ≠ 0) :
    rankOfRatio n 1 =
      min infinityRank ((n.log2 + 1022) * binade + roundQuotient (inUnits n).1 (inUnits n).2) := by
  have hunit : ((n.log2 : Int) - 52 + 1074).toNat = n.log2 + 1022 := by omega
  unfold rankOfRatio
  rw [if_neg hn, unitExponent_one hn]
  dsimp only
  rw [hunit, inUnits]

/-- A number of 53 bits rounds up to one bit more from half a unit below on. -/
theorem two_mul_binade_le_roundQuotient_iff {n half : Nat} (hhalf : 0 < half)
    (hn : n / (2 * half) < 2 * binade) :
    2 * binade ≤ roundQuotient n (2 * half) ↔ 2 * binade * (2 * half) - half ≤ n := by
  have hmod := Nat.div_add_mod n (2 * half)
  have hlt := Nat.mod_lt n (show 0 < 2 * half by omega)
  have hcases := roundQuotient_cases n (2 * half)
  have hbinade : 0 < binade := by decide
  have hodd : (2 * binade - 1) % 2 = 1 := by decide
  generalize n / (2 * half) = q at *
  generalize n % (2 * half) = r at *
  by_cases hlast : q = 2 * binade - 1
  · -- the last quotient is odd, so a tie is rounded up
    have hproduct : 2 * half * q = 2 * binade * (2 * half) - 2 * half := by
      rw [hlast, Nat.mul_sub, Nat.mul_comm (2 * half), Nat.mul_one]
    have hroom : 2 * half ≤ 2 * binade * (2 * half) := Nat.le_mul_of_pos_left _ (by omega)
    generalize 2 * binade * (2 * half) = top at *
    rw [← hlast] at hodd
    omega
  · have hroom : 2 * half * q + 2 * (2 * half) ≤ 2 * binade * (2 * half) := by
      rw [Nat.mul_comm (2 * half) q, ← Nat.add_mul]
      exact Nat.mul_le_mul_right _ (by omega)
    generalize 2 * binade * (2 * half) = top at *
    omega

theorem scaleDown_succ (n k : Nat) : scaleDown n 1 (k + 1 : Nat) = (n, 2 * Nat.pow 2 k) := by
  change (n, 1 * Nat.pow 2 (k + 1)) = _
  rw [Nat.one_mul, Nat.pow_eq, Nat.pow_succ', Nat.pow_eq]

theorem pow_add_53 (k : Nat) : Nat.pow 2 (53 + k) = 2 * binade * Nat.pow 2 k := by
  simp only [binade, Nat.pow_eq, Nat.pow_add, Nat.reducePow, Nat.reduceMul]

theorem pow_add_54 (k : Nat) : Nat.pow 2 (54 + k) = 2 * binade * (2 * Nat.pow 2 k) := by
  have hpow := pow_add_53 (k + 1)
  rw [show 53 + (k + 1) = 54 + k by omega] at hpow
  rw [hpow, Nat.pow_eq, Nat.pow_succ', Nat.pow_eq]

theorem lt_of_log2_lt {n k : Nat} (hn : n ≠ 0) (h : n.log2 < 53 + k) :
    n < 2 * binade * Nat.pow 2 k := by
  rw [← pow_add_53]
  exact (Nat.log2_lt hn).1 h

theorem le_of_le_log2 {n k : Nat} (hn : n ≠ 0) (h : 54 + k ≤ n.log2) :
    2 * binade * (2 * Nat.pow 2 k) ≤ n := by
  rw [← pow_add_54]
  exact (Nat.le_log2 hn).1 h

theorem inUnits_of_log2_eq {n k : Nat} (h : n.log2 = 53 + k) : inUnits n = (n, 2 * Nat.pow 2 k) := by
  rw [inUnits, show (n.log2 : Int) - 52 = (k + 1 : Nat) by omega, scaleDown_succ]

/-- The whole numbers that round beyond the largest double are those from the half-way point on. -/
theorem infinityRank_le_rankOfRatio_one_iff {n : Nat} (hn : n ≠ 0) :
    infinityRank ≤ rankOfRatio n 1 ↔ overflowBound ≤ n := by
  -- the largest doubles are `2 ^ (k + 1)` apart
  obtain ⟨k, hk⟩ : ∃ k, k = 970 := ⟨970, rfl⟩
  have hbound : overflowBound = 2 * binade * (2 * Nat.pow 2 k) - Nat.pow 2 k := by
    subst hk
    decide +kernel
  have hbits := inUnits_bits hn
  have hround := roundQuotient_cases (inUnits n).1 (inUnits n).2
  have hbinade : 0 < binade := by decide
  have hhalf : 0 < Nat.pow 2 k := Nat.two_pow_pos k
  rw [rankOfRatio_one hn, infinityRank, Nat.le_min, and_iff_right (Nat.le_refl _), hbound]
  rcases Nat.lt_trichotomy n.log2 (53 + k) with hlog | hlog | hlog
  · -- it rounds to a power of two at most, and that is a double
    have hbelow := lt_of_log2_lt hn hlog
    have hroom : 2 * Nat.pow 2 k ≤ 2 * binade * Nat.pow 2 k := Nat.mul_le_mul_right _ (by omega)
    have hmul : (n.log2 + 1022) * binade ≤ 2044 * binade := Nat.mul_le_mul_right _ (by omega)
    rw [Nat.mul_left_comm]
    omega
  · -- the next power of two is no double any more
    rw [inUnits_of_log2_eq hlog] at hbits ⊢
    dsimp only at hbits ⊢
    have htop := two_mul_binade_le_roundQuotient_iff hhalf hbits.2
    rw [show n.log2 + 1022 = 2045 by omega, ← htop]
    omega
  · have habove := le_of_le_log2 (k := k) hn (by omega)
    have hmul : 2046 * binade ≤ (n.log2 + 1022) * binade := Nat.mul_le_mul_right _ (by omega)
    omega

theorem isInfinite_ofInt_iff (n : Int) :
    (ofInt n).isInfinite = true ↔ overflowBound ≤ n.natAbs := by
  simp only [ofInt, ofRatio, isInfinite, decide_eq_true_eq]
  by_cases hn : n.natAbs = 0
  · have hzero : rankOfRatio 0 1 < infinityRank := by decide
    have hbound : 0 < overflowBound := by decide +kernel
    rw [hn]
    omega
  · exact infinityRank_le_rankOfRatio_one_iff hn

end Number.Double

/-! ## 2. Orders that cannot be told -/

section Orders

variable [ForeignTypes]

/-- Only a whole number has no order, and only when it is too large. -/
theorem Term.order_eq_error_iff {t : Term} {e : OrderError} :
    t.order = .error e ↔ ∃ l n, t = .literal l ∧ l.value? = some (.integer n) ∧
      Double.overflowBound ≤ n.natAbs := by
  constructor
  · intro h
    cases t with
    | literal l =>
      simp only [order] at h
      cases hvalue : l.value? with
      | none =>
        rw [hvalue] at h
        cases h
      | some v =>
        rw [hvalue] at h
        -- decimals and doubles beyond all bounds are infinite; only whole numbers fail
        cases v with
        | integer n =>
          simp only [Value.order] at h
          split at h
          · rename_i hinfinite
            exact ⟨l, n, rfl, hvalue, (Double.isInfinite_ofInt_iff n).1 hinfinite⟩
          · cases h
        | text s => cases h
        | decimal d => cases h
        | double x => cases h
        | boolean b => cases h
        | date d => cases h
        | foreign canonical => cases h
        | octets os => cases h
    | iri text => cases h
    | blank label => cases h
    | var name => cases h
  · rintro ⟨l, n, rfl, hvalue, hlarge⟩
    cases e
    simp only [order, hvalue, Value.order, (Double.isInfinite_ofInt_iff n).2 hlarge, if_true]

namespace Graph

/-- The `sh:order` of a property is a whole number that rounds beyond the largest double. -/
def HasLargeOrder (g : Graph) (property : Term) : Prop :=
  ∃ l n, g.value? property (.iri (sh "order")) = some (.literal l) ∧
    l.value? = some (.integer n) ∧ Double.overflowBound ≤ n.natAbs

variable {g : Graph} {property : Term}

theorem orderOf_eq_error_iff {e : OrderError} :
    g.orderOf property = .error e ↔ g.HasLargeOrder property := by
  unfold orderOf HasLargeOrder
  cases g.value? property (.iri (sh "order")) with
  | none => simp
  | some t => simp [Term.order_eq_error_iff]

/-- Every other order is the sort key of the property. -/
theorem orderOf_of_not_large (h : ¬g.HasLargeOrder property) :
    g.orderOf property = .ok (g.sortKey property) := by
  cases horder : g.orderOf property with
  | ok x => rw [sortKey_of_orderOf horder]
  | error e => exact absurd (orderOf_eq_error_iff.1 horder) h

/-- A whole number is a usable order, however large. -/
theorem HasLargeOrder.usableOrder?_ne_none (h : g.HasLargeOrder property) :
    g.usableOrder? property ≠ none := by
  obtain ⟨l, n, hvalue, hinteger, _⟩ := h
  simp [usableOrder?, hvalue, Term.number?, hinteger, Value.number?]

end Graph

/-- Reading a shape fails exactly when it comes to a property whose `sh:order` is a whole number that
rounds beyond the largest double; no other value of any property stops it. An order that is no number
counts as infinity, and properties with such orders stand behind those with finite ones. -/
theorem reading_fails_iff_large_order (g : Graph) (node : Term) :
    ((∃ v, (g.readShape node).result = .ok v) ↔
      ∀ s, g.Reads node s → ∀ p ∈ g.objects s (.iri (sh "property")), ¬g.HasLargeOrder p) ∧
    ((g.readShape node).result = .error .tooLarge ↔
      ∃ s, g.Reads node s ∧ ∃ p ∈ g.objects s (.iri (sh "property")), g.HasLargeOrder p) ∧
    (∀ p, g.usableOrder? p = none → g.orderOf p = .ok (.infinity false)) ∧
    (∀ s properties, g.orderedProperties s = .ok properties → g.NoNan s →
      ∀ p ∈ properties, ∀ q ∈ properties, ∀ x, g.usableOrder? p = some x → x.isInfinite = false →
        g.usableOrder? q = none → [p, q].Sublist properties) := by
  have herror : (g.readShape node).result = .error .tooLarge ↔
      ∃ s, g.Reads node s ∧ ∃ p ∈ g.objects s (.iri (sh "property")), g.HasLargeOrder p := by
    rw [g.readShape_eq_error_iff]
    simp only [Graph.orderOf_eq_error_iff]
  refine ⟨?_, herror, fun p hnone => ?_, fun s properties hok hnan p hp q hq x hx hfinite hnone =>
    hnan.unusable_last hok hp hq hx hfinite hnone⟩
  · rw [g.readShape_isOk_iff]
    constructor
    · intro horder s hs p hp hlarge
      obtain ⟨x, hx⟩ := horder s hs p hp
      rw [Graph.orderOf_eq_error_iff (e := .tooLarge).2 hlarge] at hx
      cases hx
    · intro hnone s hs p hp
      exact ⟨_, Graph.orderOf_of_not_large (hnone s hs p hp)⟩
  · rw [← Graph.sortKey_of_unusable hnone]
    exact Graph.orderOf_of_not_large fun hlarge => hlarge.usableOrder?_ne_none hnone

end Orders

def ticketOrder : Literal :=
  ⟨String.ofList ('1' :: List.replicate 309 '0'), none, some (xsd "integer")⟩

theorem value?_ticketOrder [ForeignTypes] : ticketOrder.value? = some (.integer (Nat.pow 10 309)) := by
  have hread : readInteger ('1' :: List.replicate 309 '0') = some (Nat.pow 10 309 : Int) := by
    decide +kernel
  have hkind : ticketOrder.kind = .integer := by decide +kernel
  have htext : ticketOrder.text.toList = '1' :: List.replicate 309 '0' := String.toList_ofList
  rw [Literal.value?, hkind]
  change (readInteger ticketOrder.text.toList).map Value.integer = _
  rw [htext, hread, Option.map_some]

def ticketGraph : Graph where
  triples :=
    [⟨exampleTerm "TicketShape", .iri (sh "property"), .blank "number"⟩,
      ⟨.blank "number", .iri (sh "path"), exampleTerm "number"⟩,
      ⟨.blank "number", .iri (sh "order"), .literal ticketOrder⟩]

open scoped Standard

/-- One order beyond all doubles stops the reading of the whole shape. -/
theorem ticketGraph_not_read :
    ¬∃ v, (ticketGraph.readShape (exampleTerm "TicketShape")).result = .ok v := by
  have hlarge : ticketGraph.HasLargeOrder (.blank "number") := by
    refine ⟨ticketOrder, Nat.pow 10 309, ?_, value?_ticketOrder, by decide +kernel⟩
    rfl
  have herror : (ticketGraph.readShape (exampleTerm "TicketShape")).result = .error .tooLarge := by
    rw [ticketGraph.readShape_eq_error_iff]
    exact ⟨_, .root, .blank "number", by decide +kernel, Graph.orderOf_eq_error_iff.2 hlarge⟩
  rw [herror]
  rintro ⟨v, hv⟩
  cases hv

end ShaclQuery
