import ShaclQuery.Pattern
import ShaclQuery.Prefixes.Shorten

/-! # Query text

Patterns and templates as SPARQL text. IRIs are shortened by a prefix table, when there is one, and
the prologue declares the prefixes that were used. Terms are written from left to right and the first
one that cannot be written is the error.
-/

namespace ShaclQuery

inductive RenderError
  | missingTerm
  | term (e : TermError)
  | prefixes (e : PrefixError)
  deriving DecidableEq, Repr

def RenderError.message : RenderError → String
  | .missingTerm =>
    "Cannot render a triple pattern without a predicate (missing or unsupported sh:path?)"
  | .term e => e.message
  | .prefixes e => e.message

/-- A piece of text and the prefixes it uses, in order of use. -/
structure Piece where
  text : String
  uses : List String
  deriving DecidableEq, Repr

/-! ## 1. Terms and elements -/

/-- The prefix that a shortened IRI declares: its text up to the first colon. A text that starts
like a full IRI declares none. -/
def declared (text : String) : List String :=
  if text.toList.head? = some '<' then [] else [String.ofList (text.toList.takeWhile (· != ':'))]

def writeTerm (table : Option PrefixTable) : Option Term → Except RenderError Piece
  | none => .error .missingTerm
  | some t =>
    match t.written with
    | .error e => .error (.term e)
    | .ok plain =>
      match t, table with
      | .iri s, some table =>
        match table.shorten? s with
        | some (name, rest) =>
          let text := name ++ ":" ++ rest
          .ok ⟨text, declared text⟩
        | none => .ok ⟨plain, []⟩
      | _, _ => .ok ⟨plain, []⟩

/-- A triple, or a filter, whose values are looked at before its variable. -/
def writeElement (table : Option PrefixTable) : Element → Except RenderError Piece
  | .triple t => do
    let s ← writeTerm table t.subject
    let p ← writeTerm table t.predicate
    let o ← writeTerm table t.object
    .ok ⟨s.text ++ " " ++ p.text ++ " " ++ o.text ++ " .", s.uses ++ p.uses ++ o.uses⟩
  | .oneOf v values => do
    let vs ← values.mapM (writeTerm table)
    let x ← writeTerm table v
    .ok ⟨"FILTER ( " ++ x.text ++ " IN (" ++ String.intercalate ", " (vs.map (·.text)) ++ ") )",
      vs.flatMap (·.uses) ++ x.uses⟩

/-! ## 2. Lines -/

def indent : Nat → String
  | 0 => ""
  | depth + 1 => "  " ++ indent depth

def elementLine (table : Option PrefixTable) (depth : Nat) (e : Element) :
    Except RenderError Piece :=
  (writeElement table e).map fun piece => ⟨indent depth ++ piece.text, piece.uses⟩

def blockLines (table : Option PrefixTable) (depth : Nat) (b : Block) :
    Except RenderError (List Piece) :=
  b.elements.mapM (elementLine table depth)

def plainLine (depth : Nat) (text : String) : Piece := ⟨indent depth ++ text, []⟩

def bracedLines (table : Option PrefixTable) (depth : Nat) (b : Block) :
    Except RenderError (List Piece) :=
  (blockLines table (depth + 1) b).map fun lines =>
    plainLine depth "\x7b" :: lines ++ [plainLine depth "\x7d"]

def unionLines (table : Option PrefixTable) (depth : Nat) :
    List Block → Except RenderError (List Piece)
  | [] => .ok []
  | [b] => bracedLines table depth b
  | b :: rest => do
    let first ← bracedLines table depth b
    let more ← unionLines table depth rest
    .ok (first ++ plainLine depth "UNION" :: more)

/-- The lines of a pattern; a union of one alternative is written as its block. -/
def patternLines (table : Option PrefixTable) (depth : Nat) (p : Pattern) :
    Except RenderError (List Piece) :=
  match p with
  | .block b => blockLines table depth b
  | .union [b] => blockLines table depth b
  | .union bs => unionLines table depth bs

/-! ## 3. Queries -/

def insertText (text : String) : List String → List String
  | [] => [text]
  | t :: rest =>
    if text = t then t :: rest
    else if text < t then text :: t :: rest
    else t :: insertText text rest

def sortTexts : List String → List String
  | [] => []
  | t :: rest => insertText t (sortTexts rest)

def prologue (table : Option PrefixTable) (lines : List Piece) : List String :=
  (sortTexts (lines.flatMap (·.uses))).map fun name =>
    let ns := (table.bind (·.namespaceOf? name)).getD "None"
    "PREFIX " ++ name ++ ": <" ++ ns ++ ">"

def joinLines (lines : List String) : String := String.intercalate "\n" lines

def renderWhere (table : Option PrefixTable) (p : Pattern) : Except RenderError String :=
  (patternLines table 1 p).map fun lines => joinLines (lines.map (·.text))

def renderElements (table : Option PrefixTable) (es : List Element) : Except RenderError String :=
  (blockLines table 1 ⟨es⟩).map fun lines => joinLines (lines.map (·.text))

def renderSelect (table : Option PrefixTable) (p : Pattern) : Except RenderError String :=
  (patternLines table 1 p).map fun body =>
    joinLines (prologue table body ++ "SELECT * WHERE \x7b" :: body.map (·.text) ++ ["\x7d"])

/-- A CONSTRUCT query; the template is written before the pattern. -/
def renderConstruct (table : Option PrefixTable) (template : List Element) (p : Pattern) :
    Except RenderError String := do
  let head ← blockLines table 1 ⟨template⟩
  let body ← patternLines table 1 p
  .ok (joinLines (prologue table (head ++ body) ++ "CONSTRUCT \x7b" :: head.map (·.text)
    ++ "\x7d WHERE \x7b" :: body.map (·.text) ++ ["\x7d"]))

/-! ## 4. Prefixes as they are given -/

inductive Namespaces
  | none
  | mapping (pairs : List (String × String))
  | table (t : PrefixTable)
  deriving DecidableEq, Repr

/-- The table to write with. A mapping with a blank in a prefix has none. -/
def Namespaces.resolve : Namespaces → Except RenderError (Option PrefixTable)
  | .none => .ok Option.none
  | .mapping pairs => ((PrefixTable.ofMapping pairs).map some).mapError .prefixes
  | .table t => .ok (some t)

end ShaclQuery
