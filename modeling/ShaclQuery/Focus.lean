import ShaclQuery.Term.Basic

/-! # Focus

The focus of a shape is the term it is applied to together with the name from which the variables
below it are named. A child of the focus `node` is `node_0`, its grandchild `node_0_3`, and the
variable for its class `node_targetClass`.
-/

namespace ShaclQuery

/-- A focus: a term, and the root of the names below it. -/
structure Focus where
  term : Term
  name : String
  deriving DecidableEq, Repr

inductive FocusError
  | notExactlyOne
  | notAnIri (term : Term)
  | emptyName
  | term (e : TermError)
  deriving DecidableEq, Repr

def FocusError.message : FocusError → String
  | .notExactlyOne => "Provide exactly one of subject_variable or focus_node"
  | .notAnIri t => "focus_node must be an IRI, got " ++ t.described
  | .emptyName => "subject_variable must be a non-empty name"
  | .term e => e.message

namespace Focus

/-- The name from which the variables below a fixed term are named. -/
def defaultName : String := "resource"

def ofName? (name : String) : Except TermError Focus :=
  (Term.ofName? name).map fun t => ⟨t, name⟩

def ofTerm (term : Term) : Focus := ⟨term, defaultName⟩

def isVariable (f : Focus) : Bool := f.term.isVariable

def same (a b : Focus) : Bool := a.term.same b.term && a.name == b.name

def extend (f : Focus) (suffix : String) : Focus :=
  let child := f.name ++ "_" ++ suffix
  ⟨Term.named child, child⟩

/-- The object of the property at a position; a prefix that is not empty comes before the
position. -/
def object (f : Focus) (index : Int) (objectPrefix : String) : Focus :=
  (if objectPrefix.isEmpty then f else f.extend objectPrefix).extend (toString index)

def targetClass (f : Focus) : Focus := f.extend "targetClass"

/-- The focus for a variable name or a fixed IRI, of which exactly one is given. Question marks and
dollar signs in front of the name are dropped. -/
def resolve (subjectVariable : Option String) (focusNode : Option Term) : Except FocusError Focus :=
  match subjectVariable, focusNode with
  | none, none => .error .notExactlyOne
  | some _, some _ => .error .notExactlyOne
  | none, some t => if t.isIri then .ok (ofTerm t) else .error (.notAnIri t)
  | some name, none =>
    if name.isEmpty then .error .emptyName
    else
      let bare := String.ofList (name.toList.dropWhile fun c => c == '?' || c == '$')
      (ofName? bare).mapError .term

end Focus

end ShaclQuery
