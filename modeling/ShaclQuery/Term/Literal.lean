import ShaclQuery.Number.Numeral
import ShaclQuery.Term.Bytes
import ShaclQuery.Term.Datatype
import ShaclQuery.Term.Date

/-! # Literals

A literal is a text with an optional language tag or datatype. A literal of a known datatype is kept
in the one text that its value is written with; a text that has no value stays as it is.
-/

namespace ShaclQuery

open Number Text

/-- A literal as it stands in a graph or a query. `Literal.make` is the way to build one. -/
structure Literal where
  text : String
  language : Option String
  datatype : Option String
  deriving DecidableEq, Repr

/-! ## 1. Values -/

inductive Value
  | text (s : String)
  | integer (n : Int)
  | decimal (d : Decimal)
  | double (x : Double)
  | boolean (b : Bool)
  | date (d : Date)
  | octets (os : List Nat)
  /-- A value of a datatype that is read elsewhere, by the text that it is written with. -/
  | foreign (canonical : String)
  deriving DecidableEq, Repr

variable [ForeignTypes]

/-- The value that a text has in a datatype. Every text is a truth value: `1` and `true` in any
letter case are true, all others false. -/
def Datatype.value? (dt : Datatype) (text : String) : Option Value :=
  let chars := text.toList
  match dt with
  | .text | .normalizedText | .token => some (.text text)
  | .integer => (readInteger chars).map .integer
  | .decimal => (readDecimal chars).map .decimal
  | .double => (readDouble chars).map .double
  | .boolean => some (.boolean (chars == ['1'] || spells "true" chars))
  | .date => (Date.read chars).map .date
  | .hexBinary => (readHex chars).map .octets
  | .base64Binary => (readBase64 chars).map .octets
  | .foreign iri => (ForeignTypes.canonical? iri text).map .foreign

/-! ## 2. The text of a value -/

def blankLines (text : List Char) : List Char :=
  text.map fun c => if c = '\t' || c = '\n' || c = '\r' then ' ' else c

def collapseBlanks : List Char → List Char
  | ' ' :: ' ' :: rest => collapseBlanks (' ' :: rest)
  | c :: rest => c :: collapseBlanks rest
  | [] => []

def Datatype.normalise (dt : Datatype) (text : String) : String :=
  match dt with
  | .normalizedText => String.ofList (blankLines text.toList)
  | .token => String.ofList (collapseBlanks (trim isSpace (blankLines text.toList)))
  | _ =>
    match dt.value? text with
    | some (.integer n) => toString n
    | some (.decimal d) => String.ofList d.text
    | some (.double x) => String.ofList x.text
    | some (.boolean b) => if b then "true" else "false"
    | some (.date d) => String.ofList d.text
    | some (.octets os) =>
      String.ofList (if dt = .base64Binary then base64Text os else hexText os)
    | some (.text s) => s
    | some (.foreign canonical) => canonical
    | none => text

/-- A foreign literal is kept with the text of its value, and that text has a value again. -/
theorem Datatype.isSome_value?_normalise_foreign (iri text : String) :
    ((foreign iri).value? ((foreign iri).normalise text)).isSome =
      ((foreign iri).value? text).isSome := by
  simp only [normalise, value?]
  cases hvalue : ForeignTypes.canonical? iri text with
  | none => simp [hvalue]
  | some value => simp [ForeignTypes.canonical?_isSome hvalue]

namespace Literal

def kind (l : Literal) : Datatype := Datatype.ofIri? l.datatype

def value? (l : Literal) : Option Value := l.kind.value? l.text

/-- The same literal with its language tag in lower case: two literals are the same term when their
keys are equal. -/
def key (l : Literal) : Literal :=
  { l with language := l.language.map fun tag => String.ofList (tag.toList.map Char.toLower) }

/-! ## 3. Written form -/

/-- Replaces every occurrence of a word, from the left; the first `skip` characters belong to an
occurrence that has been replaced already. -/
def replaceFrom (word other : List Char) : Nat → List Char → List Char
  | _, [] => []
  | skip + 1, _ :: rest => replaceFrom word other skip rest
  | 0, c :: rest =>
    if word.isPrefixOf (c :: rest) then other ++ replaceFrom word other (word.length - 1) rest
    else c :: replaceFrom word other 0 rest

def replaceAll (word other : List Char) (text : List Char) : List Char :=
  replaceFrom word other 0 text

def escapeInLine (c : Char) : List Char :=
  if c = '\\' then ['\\', '\\']
  else if c = '\x22' then ['\\', '\x22']
  else if c = '\r' then ['\\', 'r']
  else [c]

/-- A last quote needs a backslash, unless it has one. -/
def escapeLastQuote (text : List Char) : List Char :=
  match text.reverse with
  | '\x22' :: '\\' :: _ => text
  | '\x22' :: rest => rest.reverse ++ ['\\', '\x22']
  | _ => text

/-- A text inside triple quotes: backslashes, triple quotes, a last quote and carriage returns are
escaped. -/
def escapeLines (text : List Char) : List Char :=
  let slashed := text.flatMap fun c => if c = '\\' then ['\\', '\\'] else [c]
  let quotes := replaceAll ['\x22', '\x22', '\x22']
    ['\\', '\x22', '\\', '\x22', '\\', '\x22'] slashed
  (escapeLastQuote quotes).flatMap fun c => if c = '\r' then ['\\', 'r'] else [c]

/-- A text between quotes, triple ones when it has a line end. -/
def quotedText (text : List Char) : List Char :=
  if text.contains '\n' then
    '\x22' :: '\x22' :: '\x22' :: escapeLines text ++ ['\x22', '\x22', '\x22']
  else '\x22' :: text.flatMap escapeInLine ++ ['\x22']

def schemaSpelling (l : Literal) (body : List Char) : List Char :=
  if l.kind = .double || l.kind = .decimal then
    match readDouble l.text.toList with
    | some x =>
      if x.isInfinite then
        replaceAll "Infinity".toList "INF".toList (replaceAll "inf".toList "INF".toList body)
      else if x.isNan then replaceAll "nan".toList "NaN".toList body
      else body
    | none => body
  else body

def written (l : Literal) : String :=
  let body := String.ofList (l.schemaSpelling (quotedText l.text.toList))
  match l.language, l.datatype with
  | some tag, _ => body ++ "@" ++ tag
  | none, some iri => if iri.isEmpty then body else body ++ "^^<" ++ iri ++ ">"
  | none, none => body

end Literal

end ShaclQuery
