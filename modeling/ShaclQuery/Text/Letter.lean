import ShaclQuery.Text.CaseClass
import ShaclQuery.Text.CaseTable

/-! # Upper and lower case

Case of a whole text. A letter may become several characters, and a capital sigma at the end of a
word becomes the final small one.
-/

namespace ShaclQuery.Text

/-- The one-character case of a code point, by the first span that holds it. -/
def shiftCase (spans : List CaseSpan) (code : Nat) : Option Nat :=
  let hit := spans.find? fun span =>
    span.first ≤ code && code ≤ span.last && (code - span.first) % span.step == 0
  hit.map fun span => ((code : Int) + span.offset).toNat

def upperChar (c : Char) : List Char :=
  if c.toNat < 128 then [c.toUpper]
  else
    match upperSequences.lookup c.toNat with
    | some codes => codes.map Char.ofNat
    | none => [((shiftCase upperSpans c.toNat).map Char.ofNat).getD c]

/-- The lower case of one character, given the characters before it (last first) and after it. -/
def lowerChar (before after : List Char) (c : Char) : List Char :=
  if c.toNat < 128 then [c.toLower]
  else if c = '\u03a3' then
    let reaches (side : List Char) : Bool := (side.dropWhile isCaseIgnorable).head?.any isCased
    if reaches before && !reaches after then ['\u03c2'] else ['\u03c3']
  else if c = '\u0130' then ['i', '\u0307']
  else [((shiftCase lowerSpans c.toNat).map Char.ofNat).getD c]

def lowerFrom (before : List Char) : List Char → List Char
  | [] => []
  | c :: rest => lowerChar before rest c ++ lowerFrom (c :: before) rest

def upper (text : String) : String :=
  String.ofList (text.toList.flatMap upperChar)

def lower (text : String) : String :=
  String.ofList (lowerFrom [] text.toList)

end ShaclQuery.Text
