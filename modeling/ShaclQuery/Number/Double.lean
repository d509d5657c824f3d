/-! # Double-precision numbers

A double is held by its sign and its rank: how many doubles lie between zero and its magnitude.
Order, neighbours and rounding are then plain arithmetic on natural numbers. `Double.ofRatio` rounds
a fraction to the nearest double, ties to the even one.
-/

namespace ShaclQuery.Number

/-- A double-precision number: not a number, or a sign and a rank. Rank 0 is zero, rank
`infinityRank` is infinity. -/
inductive Double
  | nan
  | number (negative : Bool) (rank : Nat)
  deriving DecidableEq, Repr

namespace Double

/-! ## 1. Ranks -/

/-- Doubles between two powers of two. -/
def binade : Nat := Nat.pow 2 52

def infinityRank : Nat := 2047 * binade

/-- The magnitude of a finite rank as a whole number of units `2 ^ exponent`. -/
def significand (rank : Nat) : Nat × Int :=
  if rank < binade then (rank, -1074)
  else (binade + rank % binade, (rank / binade : Nat) - 1075)

def ratio (rank : Nat) : Nat × Nat :=
  match significand rank with
  | (m, .ofNat e) => (m * Nat.pow 2 e, 1)
  | (m, .negSucc e) => (m, Nat.pow 2 (e + 1))

def infinity (negative : Bool) : Double := .number negative infinityRank

def isInfinite : Double → Bool
  | .nan => false
  | .number _ rank => infinityRank ≤ rank

def isNan : Double → Bool
  | .nan => true
  | .number _ _ => false

/-! ## 2. Order -/

/-- The place of a number on the line; both zeros are at 0. -/
def place : Double → Option Int
  | .nan => none
  | .number false rank => some rank
  | .number true rank => some (-(rank : Int))

/-- Strictly smaller. A `nan` is neither smaller nor larger than anything. -/
def lt (a b : Double) : Bool :=
  match a.place, b.place with
  | some x, some y => x < y
  | _, _ => false

/-! ## 3. Rounding a fraction -/

/-- The quotient rounded to the nearest whole number, a tie to the even one. -/
def roundQuotient (num den : Nat) : Nat :=
  let q := num / den
  let r := num % den
  if den < 2 * r || (2 * r = den && q % 2 = 1) then q + 1 else q

def scaleDown (num den : Nat) : Int → Nat × Nat
  | .ofNat e => (num, den * Nat.pow 2 e)
  | .negSucc e => (num * Nat.pow 2 (e + 1), den)

/-- The exponent of the unit in which `num / den` has 53 bits, but no less than the least one. -/
def unitExponent (num den : Nat) : Int :=
  let guess : Int := (Nat.log2 num : Int) - Nat.log2 den - 52
  let (n, d) := scaleDown num den guess
  max (-1074) (if n / d < binade then guess - 1 else guess)

/-- The rank nearest to a fraction; beyond the largest double it is the rank of infinity. -/
def rankOfRatio (num den : Nat) : Nat :=
  if num = 0 then 0
  else
    let e := unitExponent num den
    let (n, d) := scaleDown num den e
    min infinityRank ((e + 1074).toNat * binade + roundQuotient n d)

def ofRatio (negative : Bool) (num den : Nat) : Double :=
  .number negative (rankOfRatio num den)

/-- The double nearest to `± coefficient · 10 ^ exponent`. Magnitudes from `10 ^ 310` on are
infinite and those below `10 ^ -330` are zero, so no larger power is ever formed. -/
def ofScientific (negative : Bool) (coefficient : Nat) (exponent : Int) : Double :=
  let top := (Nat.toDigits 10 coefficient).length + exponent
  if coefficient = 0 || top < -330 then .number negative 0
  else if 310 < top then infinity negative
  else
    match exponent with
    | .ofNat e => ofRatio negative (coefficient * Nat.pow 10 e) 1
    | .negSucc e => ofRatio negative coefficient (Nat.pow 10 (e + 1))

def ofInt (n : Int) : Double :=
  ofRatio (n < 0) n.natAbs 1

end Double

end ShaclQuery.Number
