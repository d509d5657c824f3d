/-! # Octets as text

Two encodings of octets: pairs of hexadecimal digits, and base 64. Reading base 64 skips characters
outside the alphabet and stops at complete padding.
-/

namespace ShaclQuery

/-! ## 1. Hexadecimal -/

def hexValue? (c : Char) : Option Nat :=
  if c.isDigit then some (c.toNat - 48)
  else if 'a' ≤ c && c ≤ 'f' then some (c.toNat - 87)
  else if 'A' ≤ c && c ≤ 'F' then some (c.toNat - 55)
  else none

def readHex : List Char → Option (List Nat)
  | [] => some []
  | [_] => none
  | a :: b :: rest => do
    let high ← hexValue? a
    let low ← hexValue? b
    let more ← readHex rest
    some ((high * 16 + low) :: more)

def hexText (octets : List Nat) : List Char :=
  octets.flatMap fun o => [Nat.digitChar (o / 16), Nat.digitChar (o % 16)]

/-! ## 2. Base 64 -/

def base64Alphabet : List Char :=
  "ABCDEFGHIJKLMNOPQRSTUVWXYZabcdefghijklmnopqrstuvwxyz0123456789+/".toList

/-- Reads on with `held` the value of the `place` characters since the last full group of four and
`pads` the padding characters since the last of them. -/
def readBase64From (place held pads : Nat) : List Char → Option (List Nat)
  | [] => if place = 0 then some [] else none
  | c :: rest =>
    if c.toNat ≥ 128 then none
    else if c = '=' then
      if 2 ≤ place && 4 ≤ place + pads + 1 then
        if rest.all (·.toNat < 128) then some [] else none
      else readBase64From place held (if 2 ≤ place then pads + 1 else pads) rest
    else
      match base64Alphabet.idxOf? c with
      | none => readBase64From place held pads rest
      | some v =>
        match place with
        | 0 => readBase64From 1 v 0 rest
        | 1 => (readBase64From 2 (v % 16) 0 rest).map ((held * 4 + v / 16) :: ·)
        | 2 => (readBase64From 3 (v % 4) 0 rest).map ((held * 16 + v / 4) :: ·)
        | _ => (readBase64From 0 0 0 rest).map ((held * 64 + v) :: ·)

def readBase64 (text : List Char) : Option (List Nat) :=
  readBase64From 0 0 0 text

def base64Char (v : Nat) : Char := base64Alphabet.getD v '='

def base64Text : List Nat → List Char
  | [] => []
  | [a] => [base64Char (a / 4), base64Char (a % 4 * 16), '=', '=']
  | [a, b] => [base64Char (a / 4), base64Char (a % 4 * 16 + b / 16), base64Char (b % 16 * 4), '=']
  | a :: b :: c :: rest =>
    base64Char (a / 4) :: base64Char (a % 4 * 16 + b / 16) :: base64Char (b % 16 * 4 + c / 64)
      :: base64Char (c % 64) :: base64Text rest

end ShaclQuery
