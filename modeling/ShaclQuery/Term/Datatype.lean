import ShaclQuery.Vocabulary

/-! # Datatypes

A datatype IRI decides how the text of a literal is read. Datatypes that are read alike share a
constructor. Times, durations and markup are read outside of this library, which takes only two things
from there: whether a text has a value, and the text that this value is written with.
-/

namespace ShaclQuery

open Vocabulary

/-- How texts are read in the datatypes that are not read here. No value of theirs is a number. -/
class ForeignTypes where
  /-- The text of the value that a text has in the datatype with an IRI. -/
  canonical? (datatype text : String) : Option String
  canonical?_isSome {datatype text value : String} :
    canonical? datatype text = some value → (canonical? datatype value).isSome = true

inductive Datatype
  /-- The text is the value: no datatype, strings, language tags and IRIs. -/
  | text
  /-- Text in which tabs and line ends are blanks. -/
  | normalizedText
  /-- Text without blanks around it and with single blanks inside. -/
  | token
  | integer
  | decimal
  | double
  | boolean
  | date
  | hexBinary
  | base64Binary
  /-- Any other datatype, which is read elsewhere if at all. -/
  | foreign (iri : String)
  deriving DecidableEq, Repr

namespace Datatype

/-- The local names of the whole-number types; their ranges are not checked. -/
def integerNames : List String := [
  "integer", "nonPositiveInteger", "long", "nonNegativeInteger", "negativeInteger", "int",
  "unsignedLong", "positiveInteger", "short", "unsignedInt", "byte", "unsignedShort",
  "unsignedByte"]

def table : List (String × Datatype) :=
  integerNames.map (fun name => (xsd name, .integer)) ++ [
    (xsd "decimal", .decimal), (xsd "double", .double), (xsd "float", .double),
    (xsd "boolean", .boolean), (xsd "date", .date), (xsd "hexBinary", .hexBinary),
    (xsd "base64Binary", .base64Binary), (xsd "normalizedString", .normalizedText),
    (xsd "token", .token), (xsd "string", .text), (xsd "language", .text), (xsd "anyURI", .text)]

def ofIri? : Option String → Datatype
  | none => .text
  | some iri => (table.lookup iri).getD (.foreign iri)

end Datatype

end ShaclQuery
