import ShaclQuery.Prefixes.Table
import ShaclQuery.Text.NameChar

/-! # Shortening IRIs

An IRI is cut into a namespace and a local name. When the namespace has a prefix, the longest bound
namespace that extends it and still begins the IRI gives the prefix, and the rest of the IRI is
written behind a colon as it is.
-/

namespace ShaclQuery

open Text

/-! ## 1. Cutting an IRI -/

def nameExtras : List Char := ['\u00b7', '\u0387', '-', '.', '_', '%', '(', ')']

def isNameChar (c : Char) : Bool :=
  isNameStarter c || isNameExtender c || nameExtras.contains c

def startsName (c : Char) : Bool :=
  isNameStarter c || c == '_'

/-- The namespace of XML itself, which is cut off as a whole. -/
def xmlNamespace : List Char := "http://www.w3.org/XML/1998/namespace".toList

/-- The first place, from `from_` on, at which a local name may start. -/
def nameStart? (iri : List Char) (from_ : Nat) : Option Nat :=
  ((iri.drop from_).findIdx? startsName).map (· + from_)

/-- Cuts an IRI into namespace and local name. The local name starts behind the last character that
cannot stand in a name; when nothing there can start one, the search goes on from the front. The
namespace may not be empty. -/
def splitIri? (iri : List Char) : Option (List Char × List Char) :=
  if xmlNamespace.isPrefixOf iri then some (xmlNamespace, iri.drop xmlNamespace.length)
  else
    let tail := (iri.reverse.takeWhile isNameChar).length
    if tail = iri.length then none
    else
      match (nameStart? iri (iri.length - tail - 1)).or (nameStart? iri 0) with
      | none => none
      | some 0 => none
      | some i => some (iri.take i, iri.drop i)

/-! ## 2. Shortening -/

namespace PrefixTable

/-- The entry with the longer namespace; the first one when they are equally long. -/
def longer (a b : String × String) : String × String :=
  if a.2.length < b.2.length then b else a

def shorten? (t : PrefixTable) (iri : String) : Option (String × String) := do
  let (ns, _) ← splitIri? iri.toList
  let name ← t.nameOf? (String.ofList ns)
  let fitting := t.entries.filter fun e =>
    ns.isPrefixOf e.2.toList && e.2.toList.isPrefixOf iri.toList
  let best := fitting.foldl longer (name, String.ofList ns)
  some (best.1, String.ofList (iri.toList.drop best.2.length))

end PrefixTable

end ShaclQuery
