import ShaclQuery.Graph
import ShaclQuery.Iri
import ShaclQuery.Query.Compile
import ShaclQuery.Turtle.Token

/-! # Reading Turtle

A reader walks through a document and collects its triples. Triples inside brackets and lists come
when they are read; those of a verb come when all its objects have been read. Blank nodes are
numbered in the order in which they appear.

The productions call each other with fuel. `Turtle.read?` gives enough of it: no more than eight calls
follow each other before a character is read.
-/

namespace ShaclQuery.Turtle

open Vocabulary

variable [ForeignTypes]

/-- What is still to be read, and what has been met. The last triple stands first. -/
structure Reader where
  row : Text.Surrogates
  rest : List Char
  base : List Char
  bindings : List (String × String)
  labels : List (String × Term)
  blanks : Nat
  triples : List Triple

namespace Reader

/-! ## 1. Steps -/

def moveTo (r : Reader) (rest : List Char) : Reader := { r with rest }

def skip (r : Reader) : Reader := r.moveTo (skipBlank r.rest)

def add (r : Reader) (s p o : Term) : Reader := { r with triples := ⟨s, p, o⟩ :: r.triples }

def freshBlank (r : Reader) : Term × Reader :=
  (.blank ("b" ++ toString (r.blanks + 1)), { r with blanks := r.blanks + 1 })

def labelled (r : Reader) (label : String) : Term × Reader :=
  match r.labels.lookup label with
  | some t => (t, r)
  | none =>
    let (t, r) := r.freshBlank
    (t, { r with labels := (label, t) :: r.labels })

/-- Declares a prefix. A prefix that is declared again keeps its place. -/
def declare (r : Reader) (name ns : String) : Reader :=
  if r.bindings.any (·.1 == name) then
    { r with bindings := r.bindings.map fun e => if e.1 == name then (name, ns) else e }
  else { r with bindings := r.bindings ++ [(name, ns)] }

def expect? (r : Reader) (c : Char) : Option Reader :=
  match skipBlank r.rest with
  | d :: rest => if d = c then some (r.moveTo rest) else none
  | [] => none

/-! ## 2. IRIs and literals -/

def iri? (r : Reader) : Option (Term × Reader) :=
  let text := skipBlank r.rest
  match prefixedName? text with
  | some (name, local_, rest) =>
    let r := r.moveTo rest
    match r.bindings.lookup (String.ofList name) with
    | some ns => some (.iri (ns ++ String.ofList local_), r)
    | none => if name = ['_'] then some (r.labelled (String.ofList local_)) else none
  | none => do
    let (reference, rest) ← bracketed? text
    let iri ← Iri.resolve? r.base (← expandIri? r.row reference)
    return (.iri (String.ofList iri), r.moveTo rest)

/-- The string that comes next, with its language or datatype. A datatype makes a language tag
void. -/
def string? (r : Reader) : Option (Term × Reader) := do
  let (text, rest) ← Turtle.string? r.row r.rest
  let (language, rest) ←
    match rest with
    | '@' :: rest => (language? rest).map fun (tag, rest) => (some (String.ofList tag), rest)
    | _ => some (none, rest)
  match rest with
  | '^' :: '^' :: rest =>
    let (datatype, r) ← (r.moveTo rest).iri?
    return (.literal (Literal.typed (String.ofList text) datatype.bareText), r)
  | _ => return (.literal ⟨String.ofList text, language, none⟩, r.moveTo rest)

def isReadable (kind : NumberKind) (text : List Char) : Bool :=
  kind != .integer || (Number.readInteger text).isSome

def number? (r : Reader) : Option (Term × Reader) := do
  let (kind, text, rest) ← Turtle.number? r.rest
  if !isReadable kind text then none
  let datatype := match kind with
    | .integer => xsd "integer"
    | .decimal => xsd "decimal"
    | .double => xsd "double"
  return (.literal (Literal.typed (String.ofList text) datatype), r.moveTo rest)

def boolean? (r : Reader) : Option (Term × Reader) :=
  let value (word : String) : Option (Term × Reader) :=
    (atKeyword? word r.rest).map fun rest =>
      (.literal (Literal.typed word (xsd "boolean")), r.moveTo rest)
  (value "true").or (value "false")

/-! ## 3. Lists -/

def addCells (r : Reader) (cell : Term) : List Term → Reader
  | [] => r
  | [last] => (r.add cell (.iri (rdf "first")) last).add cell (.iri (rdf "rest")) (.iri (rdf "nil"))
  | item :: items =>
    let (next, r) := (r.add cell (.iri (rdf "first")) item).freshBlank
    addCells (r.add cell (.iri (rdf "rest")) next) next items

def addList (r : Reader) : List Term → Term × Reader
  | [] => (.iri (rdf "nil"), r)
  | items =>
    let (head, r) := r.freshBlank
    (head, r.addCells head items)

/-! ## 4. Nodes, properties and statements -/

mutual

def node? : Nat → Reader → Option (Term × Reader)
  | 0, _ => none
  | fuel + 1, r =>
    let r := r.skip
    match r.rest with
    | [] => none
    | '[' :: rest => do
      let (subject, r) := (r.moveTo rest).freshBlank
      let r ← properties? fuel subject r
      return (subject, ← r.expect? ']')
    | '(' :: rest => do
      let (items, r) ← items? fuel (r.moveTo rest)
      return r.addList items
    | _ => r.boolean?.or r.iri?

def item? : Nat → Reader → Option (Term × Reader)
  | 0, _ => none
  | fuel + 1, r => do
    let r := r.skip
    let c ← r.rest.head?
    let (t, r) ←
      if startsNumber c then r.number?
      else if c = '\x22' || c = '\x27' then r.string?
      else node? fuel r
    path? fuel t r

/-- The end of a path that starts at a term: `!` goes to a value of a property, `^` back from it. -/
def path? : Nat → Term → Reader → Option (Term × Reader)
  | 0, _, _ => none
  | fuel + 1, start, r =>
    match r.rest with
    | '!' :: rest => do
      let (stop, r) := (r.moveTo rest).freshBlank
      let (property, r) ← node? fuel r
      path? fuel stop (r.add start property stop)
    | '^' :: rest => do
      let (stop, r) := (r.moveTo rest).freshBlank
      let (property, r) ← node? fuel r
      path? fuel stop (r.add stop property start)
    | _ => some (start, r)

def items? : Nat → Reader → Option (List Term × Reader)
  | 0, _ => none
  | fuel + 1, r =>
    match r.expect? ')' with
    | some r => some ([], r)
    | none => do
      let (t, r) ← item? fuel r
      let (ts, r) ← items? fuel r
      return (t :: ts, r)

def objects? : Nat → Reader → Option (List Term × Reader)
  | 0, _ => none
  | fuel + 1, r => do
    let (t, r) ← item? fuel r
    match r.expect? ',' with
    | none => return ([t], r.skip)
    | some r =>
      let (ts, r) ← objects? fuel r
      return (t :: ts, r)

/-- The properties of a subject, up to a point or a closing bracket. There may be none. -/
def properties? : Nat → Term → Reader → Option Reader
  | 0, _, _ => none
  | fuel + 1, subject, r => do
    let r := r.moveTo (skipSeparators r.rest)
    match r.rest with
    | [] => none
    | ']' :: _ => some r
    | ':' :: '-' :: _ => none
    | '<' :: '=' :: _ => none
    | c :: _ =>
      if c = '.' && (Turtle.number? r.rest).isNone then some r
      else
        let (verb, r) ←
          match atKeyword? "a" r.rest with
          | some rest => some (rdfType, r.moveTo rest)
          | none => item? fuel r
        let (objects, r) ← objects? fuel r
        let r := objects.foldl (fun r o => r.add subject verb o) r
        match r.rest with
        | ';' :: rest => properties? fuel subject (r.moveTo rest)
        | _ => some r

end

/-! ## 5. Directives and documents -/

inductive Directive
  | prefixDeclaration
  | base
  deriving DecidableEq, Repr

/-- The directive that a text starts with, whether a point ends it, and the rest. Words behind an
`@` need the point; any six characters behind it with a colon next declare a prefix. -/
def directive? (text : List Char) : Option (Directive × Bool × List Char) :=
  let bare (word : String) : Option (List Char) :=
    let n := word.toList.length
    if (text.take n).map Char.toLower = word.toList && (text.drop n).head?.any endsName then
      some (text.drop n)
    else none
  let marked : Option (Directive × Bool × List Char) :=
    match text with
    | '@' :: rest =>
      if (keyword? endsKeyword "prefix" rest).isSome || (rest.drop 6).head? = some ':' then
        some (.prefixDeclaration, true, rest.drop 6)
      else (keyword? endsKeyword "base" rest).map (.base, true, ·)
    | _ => none
  ((bare "prefix").map (.prefixDeclaration, false, ·)).or
    (((bare "base").map (.base, false, ·)).or marked)

def follow? (r : Reader) : Directive → Option Reader
  | .prefixDeclaration => do
    let (name, _, rest) ← prefixedName? (skipBlank r.rest)
    let (t, r) ← (r.moveTo rest).iri?
    let ns ← Iri.resolve? r.base t.bareText.toList
    return r.declare (String.ofList name) (String.ofList ns)
  | .base => do
    let (t, r) ← r.iri?
    return { r with base := ← Iri.resolve? r.base t.bareText.toList }

def statements? : Nat → Reader → Option Reader
  | 0, _ => none
  | fuel + 1, r =>
    let r := r.skip
    if r.rest.isEmpty then some r
    else
      match directive? r.rest with
      | some (d, pointed, rest) => do
        let r ← (r.moveTo rest).follow? d
        statements? fuel (← if pointed then r.expect? '.' else some r)
      | none => do
        let (subject, r) ← item? (8 * (r.rest.length + 1)) r
        let r ← properties? (8 * (r.rest.length + 1)) subject r
        statements? fuel (← r.expect? '.')

end Reader

/-- The triples of a Turtle document in order, and its prefixes in the order in which they were first
declared. -/
def read? (row : Text.Surrogates) (base text : String) :
    Option (List Triple × List (String × String)) :=
  let start : Reader := ⟨row, text.toList, base.toList, [], [], 0, []⟩
  (start.statements? (text.toList.length + 1)).map fun r => (r.triples.reverse, r.bindings)

end ShaclQuery.Turtle
