import ShaclQuery.Text.Span

/-! # Blank characters

White space in its two widths: everything that counts as a space, and the smaller set that may
stand around a numeral. They differ in the four information separators U+001C to U+001F.
-/

namespace ShaclQuery.Text

def numeralBlankSpans : List Span := [
  (0x9, 0xd), (0x20, 0x20), (0x85, 0x85), (0xa0, 0xa0), (0x1680, 0x1680), (0x2000, 0x200a),
  (0x2028, 0x2029), (0x202f, 0x202f), (0x205f, 0x205f), (0x3000, 0x3000)]

def isNumeralBlank (c : Char) : Bool :=
  inSpans numeralBlankSpans c.toNat

def isSpace (c : Char) : Bool :=
  isNumeralBlank c || (0x1c ≤ c.toNat && c.toNat ≤ 0x1f)

def trim (drops : Char → Bool) (text : List Char) : List Char :=
  ((text.dropWhile drops).reverse.dropWhile drops).reverse

end ShaclQuery.Text
