import ShaclQuery.Term.Literal
import ShaclQuery.Text.Quoted

/-! # Terms

The terms of graphs and queries: IRIs, blank nodes, variables and literals. Terms are compared by
`Term.key`, which forgets the letter case of language tags and nothing else.
-/

namespace ShaclQuery

inductive Term
  | iri (text : String)
  | blank (label : String)
  | var (name : String)
  | literal (l : Literal)
  deriving DecidableEq, Repr

/-- New labels for blank nodes, different ones for different nodes. -/
structure Labels where
  rename : String → String
  injective : ∀ a b, rename a = rename b → a = b

inductive TermError
  | emptyVariable
  | languageAndDatatype
  | badLanguage (tag : String)
  | badIri (iri : String)
  deriving DecidableEq, Repr

def TermError.message : TermError → String
  | .emptyVariable => "Attempted to create variable with empty string as name!"
  | .languageAndDatatype =>
    "A Literal can only have one of lang or datatype, per http://www.w3.org/TR/rdf-concepts/#section-Graph-Literal"
  | .badLanguage tag => "'" ++ tag ++ "' is not a valid language tag!"
  | .badIri iri =>
    "\"" ++ iri ++ "\" does not look like a valid URI, I cannot serialize this as N3/Turtle. Perhaps you wanted to urlencode it?"

namespace Term

/-! ## 1. Sameness -/

/-- Two terms are the same when their keys are equal. -/
def key : Term → Term
  | .literal l => .literal l.key
  | t => t

def same (a b : Term) : Bool := a.key == b.key

@[simp] theorem key_iri (s : String) : (Term.iri s).key = .iri s := rfl

@[simp] theorem key_blank (s : String) : (Term.blank s).key = .blank s := rfl

@[simp] theorem key_var (s : String) : (Term.var s).key = .var s := rfl

theorem same_iff {a b : Term} : a.same b = true ↔ a.key = b.key := by
  simp [same]

@[simp] theorem same_refl (a : Term) : a.same a = true := by
  simp [same]

def relabel (labels : Labels) : Term → Term
  | .blank label => .blank (labels.rename label)
  | t => t

/-! ## 2. Construction -/

/-- The variable with a name; one leading question mark is not part of it. -/
def named (name : String) : Term :=
  match name.toList with
  | '?' :: rest => .var (String.ofList rest)
  | _ => .var name

def ofName? (name : String) : Except TermError Term :=
  if name.isEmpty then .error .emptyVariable else .ok (named name)

def isVariable : Term → Bool
  | .var _ => true
  | _ => false

def isIri : Term → Bool
  | .iri _ => true
  | _ => false

def isLiteral : Term → Bool
  | .literal _ => true
  | _ => false

def isBlank : Term → Bool
  | .blank _ => true
  | _ => false

def bareText : Term → String
  | .iri s => s
  | .blank s => s
  | .var s => s
  | .literal l => l.text

/-! ## 3. Written form -/

def iriStops : List Char := ['<', '>', '\x22', ' ', '\x7b', '\x7d', '|', '\\', '^', '\x60']

def isWritableIri (iri : String) : Bool :=
  !iri.toList.any iriStops.contains

/-- The term as queries write it when there are no prefixes. -/
def written : Term → Except TermError String
  | .iri s => if isWritableIri s then .ok ("<" ++ s ++ ">") else .error (.badIri s)
  | .blank s => .ok ("_:" ++ s)
  | .var s => .ok ("?" ++ s)
  | .literal l => .ok l.written

def described : Term → String
  | .iri s => "rdflib.term.URIRef(" ++ Text.quoted s ++ ")"
  | .blank s => "rdflib.term.BNode(" ++ Text.quoted s ++ ")"
  | .var s => "rdflib.term.Variable(" ++ Text.quoted s ++ ")"
  | .literal l =>
    let lang := (l.language.map fun tag => ", lang=" ++ Text.quoted tag).getD ""
    let type := (l.datatype.map fun iri =>
      ", datatype=rdflib.term.URIRef(" ++ Text.quoted iri ++ ")").getD ""
    "rdflib.term.Literal(" ++ Text.quoted l.text ++ lang ++ type ++ ")"

end Term

/-! ## 4. Building literals -/

namespace Literal

/-- Parts of letters and digits with hyphens between them; `started` says whether the part at hand
has a character already. -/
def isSubtags (started : Bool) : List Char → Bool
  | [] => started
  | c :: rest =>
    if c = '-' then started && isSubtags false rest else c.isAlphanum && isSubtags true rest

/-- A language tag: letters, then any number of `-` followed by letters and digits. A line end
behind it is let through. -/
def isLanguageTag (tag : String) : Bool :=
  let chars := match tag.toList.reverse with
    | '\n' :: rest => rest.reverse
    | _ => tag.toList
  chars.head?.any Char.isAlpha &&
    match chars.dropWhile Char.isAlpha with
    | [] => true
    | '-' :: more => isSubtags false more
    | _ => false

variable [ForeignTypes]

/-- Builds a literal. An empty language tag counts as none. -/
def make (text : String) (language datatype : Option String) : Except TermError Literal :=
  match language.filter (!·.isEmpty), datatype with
  | some _, some _ => .error .languageAndDatatype
  | some tag, none =>
    if isLanguageTag tag then .ok ⟨text, some tag, none⟩ else .error (.badLanguage tag)
  | none, dt => .ok ⟨(Datatype.ofIri? dt).normalise text, none, dt⟩

def typed (text : String) (datatype : String) : Literal :=
  ⟨(Datatype.ofIri? (some datatype)).normalise text, none, some datatype⟩

end Literal

end ShaclQuery
