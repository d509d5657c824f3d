import ShaclQuery.Number.Decimal
import ShaclQuery.Number.Double
import ShaclQuery.Text.Blank
import ShaclQuery.Text.Digit

/-! # Reading numerals

Three grammars: whole numbers, doubles and decimals. All take the decimal digits of any script and
blanks around the numeral. Whole numbers and doubles allow single underscores between digits;
decimals ignore underscores wherever they stand.
-/

namespace ShaclQuery.Number

open ShaclQuery.Text

/-! ## 1. Pieces -/

def digitsValue (digits : List Char) : Nat :=
  digits.foldl (fun acc c => acc * 10 + (c.toNat - 48)) 0

/-- Removes single underscores that stand between two digits; any other underscore is refused. -/
def dropSeparators : List Char → Option (List Char)
  | [] => some []
  | '_' :: _ => none
  | [c] => some [c]
  | c :: '_' :: d :: rest =>
    if c.isDigit && d.isDigit then (dropSeparators (d :: rest)).map (c :: ·) else none
  | c :: rest => (dropSeparators rest).map (c :: ·)

def splitSign : List Char → Bool × List Char
  | '-' :: rest => (true, rest)
  | '+' :: rest => (false, rest)
  | text => (false, text)

def plainNumeral (blank : Char → Bool) (text : List Char) : List Char :=
  (trim blank text).map toAsciiDigit

/-- A signed exponent such as `e+12` that is the whole rest of a numeral; no rest is exponent 0. -/
def readExponent : List Char → Option Int
  | [] => some 0
  | c :: rest =>
    if c = 'e' || c = 'E' then
      let (negative, digits) := splitSign rest
      if !digits.isEmpty && digits.all Char.isDigit then
        let value : Int := digitsValue digits
        some (if negative then -value else value)
      else none
    else none

/-- An unsigned number with optional point and exponent, as its coefficient and exponent. At least
one digit stands before or behind the point. -/
def readScientific (text : List Char) : Option (Nat × Int) :=
  let whole := text.takeWhile Char.isDigit
  let rest := text.dropWhile Char.isDigit
  let (fraction, rest) := match rest with
    | '.' :: more => (more.takeWhile Char.isDigit, more.dropWhile Char.isDigit)
    | _ => ([], rest)
  if whole.isEmpty && fraction.isEmpty then none
  else (readExponent rest).map fun e => (digitsValue (whole ++ fraction), e - fraction.length)

def spells (word : String) (text : List Char) : Bool :=
  text.map Char.toLower == word.toList

/-! ## 2. Whole numbers -/

def maxIntegerDigits : Nat := 4300

def readInteger (text : List Char) : Option Int := do
  let (negative, body) := splitSign (plainNumeral isNumeralBlank text)
  let digits ← dropSeparators body
  if digits.isEmpty || !digits.all Char.isDigit || maxIntegerDigits < digits.length then none
  else
    let value : Int := digitsValue digits
    some (if negative then -value else value)

/-! ## 3. Doubles -/

/-- The double a numeral stands for: a number with optional point and exponent, `inf`, `infinity`
or `nan` in any letter case. -/
def readDouble (text : List Char) : Option Double := do
  let body ← dropSeparators (plainNumeral isNumeralBlank text)
  let (negative, body) := splitSign body
  if spells "inf" body || spells "infinity" body then some (.infinity negative)
  else if spells "nan" body then some .nan
  else
    let (coefficient, exponent) ← readScientific body
    some (.ofScientific negative coefficient exponent)

/-! ## 4. Decimals -/

def readDecimal (text : List Char) : Option Decimal := do
  let (negative, body) := splitSign ((plainNumeral isSpace text).filter (· != '_'))
  if spells "inf" body || spells "infinity" body then some (.infinite negative)
  else
    let (signalling, tail) := match body with
      | c :: rest => if c.toLower = 's' then (true, rest) else (false, body)
      | [] => (false, body)
    if spells "nan" (tail.take 3) && (tail.drop 3).all Char.isDigit then
      some (.nan negative signalling (digitsValue (tail.drop 3)))
    else
      let (coefficient, exponent) ← readScientific body
      some (.finite negative coefficient exponent)

end ShaclQuery.Number
