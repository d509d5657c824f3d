import ShaclQuery.Term.Basic

/-! # Log

What the library reports besides its results. A computation that reports is a `Logged` value: its
notices in order, and a result or an error. Notices made before an error are kept.
-/

namespace ShaclQuery

inductive QueryForm
  | select
  | construct
  deriving DecidableEq, Repr

def QueryForm.word : QueryForm → String
  | .select => "select"
  | .construct => "construct"

inductive Level
  | debug
  | info
  | warning
  deriving DecidableEq, Repr

def Level.word : Level → String
  | .debug => "DEBUG"
  | .info => "INFO"
  | .warning => "WARNING"

def Level.number : Level → Nat
  | .debug => 10
  | .info => 20
  | .warning => 30

inductive Notice
  /-- A shape, if it has an identifier, is nested in itself through a path. -/
  | truncated (shape : Option Term) (path : Option Term)
  /-- A path of a property is not an IRI. -/
  | unsupportedPath (path property : Term)
  /-- A node shape refers back to itself in the graph. -/
  | cyclicNode (node : Term)
  | compiled (shape : Term) (form : QueryForm)
  | illFormed
  deriving DecidableEq, Repr

namespace Notice

def level : Notice → Level
  | .truncated _ _ => .warning
  | .unsupportedPath _ _ => .warning
  | .cyclicNode _ => .debug
  | .compiled _ _ => .info
  | .illFormed => .info

def channel : Notice → String
  | .truncated _ _ => "shape_to_query.builder"
  | .unsupportedPath _ _ => "shape_to_query.shapes"
  | .cyclicNode _ => "shape_to_query.shapes"
  | .compiled _ _ => "shape_to_query.cli"
  | .illFormed => "shape_to_query.shacl"

def message : Notice → String
  | .truncated shape path =>
    "Shape " ++ (shape.map Term.bareText).getD "<anonymous>" ++ " refers back to itself through "
      ++ (path.map Term.bareText).getD "None" ++ "; not descending further"
  | .unsupportedPath path property =>
    "Ignoring unsupported sh:path " ++ path.bareText ++ " on " ++ property.bareText
      ++ "; only predicate paths are handled"
  | .cyclicNode node => "Cyclic sh:node reference to " ++ node.bareText
  | .compiled shape form => "Compiled shape " ++ shape.bareText ++ " as " ++ form.word ++ " query"
  | .illFormed => "Shapes graph failed meta validation"

def line (n : Notice) : String :=
  n.level.word ++ ":" ++ n.channel ++ ":" ++ n.message

end Notice

structure Logged (ε α : Type) where
  notices : List Notice
  result : Except ε α

namespace Logged

variable {ε ε' α β : Type}

def ok (a : α) : Logged ε α := ⟨[], .ok a⟩

def fail (e : ε) : Logged ε α := ⟨[], .error e⟩

def ofExcept (r : Except ε α) : Logged ε α := ⟨[], r⟩

def note (n : Notice) : Logged ε Unit := ⟨[n], .ok ()⟩

def andThen (x : Logged ε α) (f : α → Logged ε β) : Logged ε β :=
  match x.result with
  | .error e => ⟨x.notices, .error e⟩
  | .ok a => ⟨x.notices ++ (f a).notices, (f a).result⟩

instance : Monad (Logged ε) where
  pure := ok
  bind := andThen

def mapError (f : ε → ε') (x : Logged ε α) : Logged ε' α := ⟨x.notices, x.result.mapError f⟩

def collect (f : α → Logged ε β) : List α → Logged ε (List β)
  | [] => .ok []
  | a :: rest => (f a).andThen fun b => (collect f rest).andThen fun bs => .ok (b :: bs)

end Logged

end ShaclQuery
