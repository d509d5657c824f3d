import ShaclQuery.Number.Double
import ShaclQuery.Number.Shortest

/-! # Decimal numbers

A decimal keeps the digits it was written with: `1.50` and `1.5` are equal in value and different
in text. Its text never has an exponent.
-/

namespace ShaclQuery.Number

/-- A decimal number: `± coefficient · 10 ^ exponent`, an infinity, or not a number, the latter
quiet or signalling and with a payload. -/
inductive Decimal
  | finite (negative : Bool) (coefficient : Nat) (exponent : Int)
  | infinite (negative : Bool)
  | nan (negative signalling : Bool) (payload : Nat)
  deriving DecidableEq, Repr

namespace Decimal

/-- The digits of `coefficient · 10 ^ exponent`, written without an exponent. -/
def positional (coefficient : Nat) : Int → List Char
  | .ofNat e =>
    if coefficient = 0 then ['0'] else natText coefficient ++ List.replicate e '0'
  | .negSucc e =>
    let digits := natText coefficient
    let padded := List.replicate (e + 2 - digits.length) '0' ++ digits
    let whole := padded.length - (e + 1)
    padded.take whole ++ '.' :: padded.drop whole

def text : Decimal → List Char
  | .finite negative coefficient exponent =>
    (if negative then ['-'] else []) ++ positional coefficient exponent
  | .infinite negative => (if negative then ['-'] else []) ++ "Infinity".toList
  | .nan negative signalling payload =>
    (if negative then ['-'] else []) ++ (if signalling then ['s'] else []) ++ "NaN".toList
      ++ (if payload = 0 then [] else natText payload)

/-- The nearest double; a signalling nan has none. -/
def toDouble? : Decimal → Option Double
  | .finite negative coefficient exponent => some (.ofScientific negative coefficient exponent)
  | .infinite negative => some (.infinity negative)
  | .nan _ signalling _ => if signalling then none else some .nan

end Decimal

end ShaclQuery.Number
