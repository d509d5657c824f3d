import ShaclQuery.Number.Double

/-! # The shortest decimal of a double

The text of a double has the fewest digits that read back as the same double, and of those the
digits nearest to it. Exponents from -4 to 15 are written positionally, with `.0` kept on whole
numbers; others with a signed exponent of at least two digits.
-/

namespace ShaclQuery.Number

def natText (n : Nat) : List Char := Nat.toDigits 10 n

/-- `p` such that `num / den` lies between `10 ^ (p - 1)` and `10 ^ p`, the lower end included. -/
def decimalPoint (num den : Nat) : Int :=
  if den ≤ num then (natText (num / den)).length
  else
    let l := (natText (den / num)).length
    if den ≤ num * Nat.pow 10 (l - 1) then 2 - (l : Int) else 1 - (l : Int)

def scaleDecimal (num den : Nat) : Int → Nat × Nat
  | .ofNat s => (num * Nat.pow 10 s, den)
  | .negSucc s => (num, den * Nat.pow 10 (s + 1))

/-- The rank that `d · 10 ^ -s` reads back as. -/
def readBack (d : Nat) (s : Int) : Nat :=
  let (n, den) := scaleDecimal d 1 (-s)
  Double.rankOfRatio n den

/-- The nearest of the two grid points around a fraction that read back as `rank`, if any does.
The grid has `10 ^ s` points to the unit. -/
def gridPoint? (rank num den : Nat) (s : Int) : Option Nat :=
  let (n, d) := scaleDecimal num den s
  let low := n / d
  let lowHits := readBack low s == rank
  let highHits := readBack (low + 1) s == rank
  if lowHits && highHits then some (Double.roundQuotient n d)
  else if lowHits then some low
  else if highHits then some (low + 1)
  else none

/-- Searches grids of growing fineness, from `digits` digits on; the last grid is taken as it is. -/
def shortestFrom (rank num den : Nat) (point : Int) : Nat → Nat → Nat × Int
  | 0, digits =>
    let s := (digits : Int) - point
    let (n, d) := scaleDecimal num den s
    (Double.roundQuotient n d, s)
  | more + 1, digits =>
    let s := (digits : Int) - point
    match gridPoint? rank num den s with
    | some d => (d, s)
    | none => shortestFrom rank num den point more (digits + 1)

/-- The shortest decimal of a positive finite rank: digits `d` and the number `s` of them that
stand behind the point. Seventeen digits always read back, so no finer grid is needed. -/
def shortest (rank : Nat) : Nat × Int :=
  let (num, den) := Double.ratio rank
  shortestFrom rank num den (decimalPoint num den) 16 1

def dropTrailingZeros (digits : List Char) : List Char :=
  (digits.reverse.dropWhile (· == '0')).reverse

/-- The digits of a decimal laid out: `digits` behind a point, times `10 ^ point`. -/
def layOut (digits : List Char) (point : Int) : List Char :=
  let n := digits.length
  if -4 < point && point ≤ 16 then
    if point ≤ 0 then '0' :: '.' :: (List.replicate (-point).toNat '0' ++ digits)
    else
      let p := point.toNat
      if n ≤ p then digits ++ List.replicate (p - n) '0' ++ ['.', '0']
      else digits.take p ++ '.' :: digits.drop p
  else
    let e := point - 1
    let mark := if e < 0 then '-' else '+'
    let power := natText e.natAbs
    let padded := if power.length < 2 then '0' :: power else power
    digits.take 1 ++ (if n ≤ 1 then [] else '.' :: digits.drop 1) ++ 'e' :: mark :: padded

def Double.text : Double → List Char
  | .nan => ['n', 'a', 'n']
  | .number negative rank =>
    let body :=
      if infinityRank ≤ rank then ['i', 'n', 'f']
      else if rank = 0 then ['0', '.', '0']
      else
        let (d, s) := shortest rank
        let digits := natText d
        layOut (dropTrailingZeros digits) (digits.length - s)
    if negative then '-' :: body else body

end ShaclQuery.Number
