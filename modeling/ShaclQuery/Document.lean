import ShaclQuery.Files.Tree
import ShaclQuery.Iri.Base
import ShaclQuery.NTriples
import ShaclQuery.Prefixes.Table
import ShaclQuery.Turtle.Reader

/-! # Documents

A document is read into a graph and a table of prefixes. The prefixes of the document are bound after
its triples have been read, on top of the standard ones. Turtle and N-Triples are read here; for any
other format a reader must be given. Readers number blank nodes in the order in which they appear.
-/

namespace ShaclQuery

open Text

structure Document where
  graph : Graph
  prefixes : PrefixTable
  deriving DecidableEq, Repr

inductive Format
  | turtle
  | ntriples
  deriving DecidableEq, Repr

def Format.ofName? (name : String) : Option Format :=
  let names : List (String × Format) := [("turtle", .turtle), ("ttl", .turtle),
    ("text/turtle", .turtle), ("nt", .ntriples), ("nt11", .ntriples), ("ntriples", .ntriples),
    ("application/n-triples", .ntriples)]
  names.lookup name

/-- A reader of formats by their names: it is given stand-ins for surrogates, a base IRI and what there
is to read. -/
abbrev OtherReader := Surrogates → (name base : String) → Content → Option Document

namespace Document

def relabel (labels : Labels) (d : Document) : Document :=
  { d with graph := d.graph.relabel labels }

variable [ForeignTypes]

def read? (row : Surrogates) (format : Format) (base text : String) : Option Document :=
  match format with
  | .turtle => do
    let (triples, bindings) ← Turtle.read? row base text
    let prefixes ← (PrefixTable.standard.bindAll bindings).toOption
    return ⟨Graph.ofList triples, prefixes⟩
  | .ntriples => (NTriples.read? row text).map fun triples => ⟨Graph.ofList triples, .standard⟩

/-- The text without the mark that some Turtle files start with. -/
def withoutMark (format : Format) (text : String) : String :=
  match format, text.toList with
  | .turtle, '\ufeff' :: rest => String.ofList rest
  | _, _ => text

def ofContent? (other : OtherReader) (row : Surrogates) (name base : String) (content : Content) :
    Option Document :=
  match Format.ofName? name, content with
  | some format, .text text => read? row format base (withoutMark format text)
  | some _, .octets _ => none
  | none, content => other row name base content

/-- Reads a text that may come with an identifier. An empty identifier counts as none. -/
def ofText? (other : OtherReader) (workingDirectory : PathName) (name : String)
    (identifier : Option String) (text : String) : Option Document := do
  let directory := workingDirectory.directoryIri.toList
  let base := String.ofList (← Iri.documentBase? directory ((identifier.getD "").toList))
  let row := Surrogates.outside text.toList
  match Format.ofName? name with
  | some format => read? row format base text
  | none => other row name base (.text text)

end Document

end ShaclQuery
