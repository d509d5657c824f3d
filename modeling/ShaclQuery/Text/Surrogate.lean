/-! # Surrogates

A numeric escape may name a surrogate, a code point that is no character. In the texts of a document
with such escapes, characters that it does not have stand for the surrogates. A text with one of them
cannot be written as octets.
-/

namespace ShaclQuery.Text

/-- A row of 2048 characters that stand for the surrogates, in the order of their code points. -/
structure Surrogates where
  first : Nat
  deriving DecidableEq, Repr

/-- Why a text has no octets: where the first surrogates in it are, and which. -/
structure EncodingError where
  position : Nat
  codes : List Nat
  deriving DecidableEq, Repr

def codeDigits (code : Nat) : List Char := '\\' :: 'u' :: Nat.toDigits 16 code

def EncodingError.message (e : EncodingError) : String :=
  let what := match e.codes with
    | [code] =>
      "character '" ++ String.ofList (codeDigits code) ++ "' in position " ++ toString e.position
    | codes =>
      "characters in position " ++ toString e.position ++ "-"
        ++ toString (e.position + codes.length - 1)
  "'utf-8' codec can't encode " ++ what ++ ": surrogates not allowed"

namespace Surrogates

def has (s : Surrogates) (c : Char) : Bool := s.first ≤ c.toNat && c.toNat < s.first + 2048

/-- The first row in the private use planes that has no character of a text, and the last row there
when each has one. -/
def outside (text : List Char) : Surrogates :=
  let rows := (List.range 64).map fun k => Surrogates.mk (0xf0000 + 2048 * k)
  (rows.find? fun row => !text.any row.has).getD ⟨0x10f800⟩

/-- The character with a code point, or the one that stands for it. -/
def charOf? (s : Surrogates) (code : Nat) : Option Char :=
  if code.isValidChar then some (Char.ofNat code)
  else if code < 0x110000 then some (Char.ofNat (s.first + (code - 0xd800)))
  else none

def codeOf (s : Surrogates) (c : Char) : Nat := 0xd800 + (c.toNat - s.first)

def encode (s : Surrogates) (text : String) : Except EncodingError String :=
  let front := text.toList.takeWhile (!s.has ·)
  match (text.toList.drop front.length).takeWhile s.has with
  | [] => .ok text
  | run => .error ⟨front.length, run.map s.codeOf⟩

def shown (s : Surrogates) (text : String) : String :=
  String.ofList (text.toList.flatMap fun c => if s.has c then codeDigits (s.codeOf c) else [c])

end Surrogates

end ShaclQuery.Text
