/-! # Prefix tables

A prefix table pairs prefixes with namespaces, one to one. There are two ways to add a pair: a
mapping gives the prefix to the new namespace, a graph keeps what is there and looks for a numbered
prefix. A prefix bound to the empty namespace counts as free.
-/

namespace ShaclQuery

/-- Prefixes with their namespaces. No prefix occurs twice. -/
structure PrefixTable where
  entries : List (String × String)
  names_nodup : (entries.map Prod.fst).Nodup
  deriving DecidableEq, Repr

inductive PrefixError
  | blankInside
  deriving DecidableEq, Repr

def PrefixError.message : PrefixError → String
  | .blankInside => "Prefixes may not contain spaces."

namespace PrefixTable

def empty : PrefixTable := ⟨[], List.nodup_nil⟩

def namespaceOf? (t : PrefixTable) (name : String) : Option String :=
  t.entries.lookup name

def nameOf? (t : PrefixTable) (ns : String) : Option String :=
  (t.entries.find? fun e => e.2 == ns).map (·.1)

/-- Binds a prefix; whatever was bound to it, and the prefix that the namespace had, are dropped. -/
def assign (t : PrefixTable) (name ns : String) : PrefixTable where
  entries := t.entries.filter (fun e => e.1 != name && e.2 != ns) ++ [(name, ns)]
  names_nodup := by
    rw [List.map_append, List.nodup_append]
    refine ⟨t.names_nodup.sublist (List.filter_sublist.map Prod.fst), by simp, ?_⟩
    intro a ha b hb heq
    obtain ⟨e, he, rfl⟩ := List.mem_map.1 ha
    have hkept := (List.mem_filter.1 he).2
    simp_all

/-- The namespace of a prefix, if it is bound and its namespace is not empty. -/
def holder? (t : PrefixTable) (name : String) : Option String :=
  (t.namespaceOf? name).filter (!·.isEmpty)

/-- Gives a namespace the first free one of the prefixes `stem1`, `stem2`, …, counted from `n` and
at most `tries` of them; nothing happens when one of them has this very namespace. -/
def assignNumbered (t : PrefixTable) (stem ns : String) : Nat → Nat → PrefixTable
  | 0, _ => t
  | tries + 1, n =>
    let name := stem ++ toString n
    match t.holder? name with
    | none => t.assign name ns
    | some held => if held == ns then t else assignNumbered t stem ns tries (n + 1)

/-- Binds a prefix as a graph does: a prefix in use stays, and the namespace gets a numbered one.
Among as many numbered prefixes as there are entries and one more, one is free. -/
def bind (t : PrefixTable) (name ns : String) : Except PrefixError PrefixTable :=
  if name.toList.contains ' ' then .error .blankInside
  else
    match t.holder? name with
    | none => .ok (t.assign name ns)
    | some held =>
      if held == ns then .ok (t.assign name ns)
      else
        let stem := if name.isEmpty then "default" else name
        .ok (t.assignNumbered stem ns (t.entries.length + 1) 1)

def bindAll (t : PrefixTable) (pairs : List (String × String)) : Except PrefixError PrefixTable :=
  pairs.foldlM (fun t pair => t.bind pair.1 pair.2) t

/-- A mapping with one entry for each prefix: a repeated prefix keeps its first place and takes its
last namespace. -/
def mapping (pairs : List (String × String)) : List (String × String) :=
  pairs.foldl (fun done pair =>
    if done.any (·.1 == pair.1) then done.map fun e => if e.1 == pair.1 then pair else e
    else done ++ [pair]) []

def ofMapping (pairs : List (String × String)) : Except PrefixError PrefixTable :=
  (mapping pairs).foldlM (fun t pair =>
    if pair.1.toList.contains ' ' then .error .blankInside else .ok (t.assign pair.1 pair.2)) empty

def standard : PrefixTable where
  entries := [
    ("brick", "https://brickschema.org/schema/Brick#"),
    ("csvw", "http://www.w3.org/ns/csvw#"),
    ("dc", "http://purl.org/dc/elements/1.1/"),
    ("dcat", "http://www.w3.org/ns/dcat#"),
    ("dcmitype", "http://purl.org/dc/dcmitype/"),
    ("dcterms", "http://purl.org/dc/terms/"),
    ("dcam", "http://purl.org/dc/dcam/"),
    ("doap", "http://usefulinc.com/ns/doap#"),
    ("foaf", "http://xmlns.com/foaf/0.1/"),
    ("geo", "http://www.opengis.net/ont/geosparql#"),
    ("odrl", "http://www.w3.org/ns/odrl/2/"),
    ("org", "http://www.w3.org/ns/org#"),
    ("prof", "http://www.w3.org/ns/dx/prof/"),
    ("prov", "http://www.w3.org/ns/prov#"),
    ("qb", "http://purl.org/linked-data/cube#"),
    ("schema", "https://schema.org/"),
    ("sh", "http://www.w3.org/ns/shacl#"),
    ("skos", "http://www.w3.org/2004/02/skos/core#"),
    ("sosa", "http://www.w3.org/ns/sosa/"),
    ("ssn", "http://www.w3.org/ns/ssn/"),
    ("time", "http://www.w3.org/2006/time#"),
    ("vann", "http://purl.org/vocab/vann/"),
    ("void", "http://rdfs.org/ns/void#"),
    ("wgs", "https://www.w3.org/2003/01/geo/wgs84_pos#"),
    ("owl", "http://www.w3.org/2002/07/owl#"),
    ("rdf", "http://www.w3.org/1999/02/22-rdf-syntax-ns#"),
    ("rdfs", "http://www.w3.org/2000/01/rdf-schema#"),
    ("xsd", "http://www.w3.org/2001/XMLSchema#"),
    ("xml", "http://www.w3.org/XML/1998/namespace")]
  names_nodup := by decide

end PrefixTable

end ShaclQuery
