import ShaclQuery.Graph
import ShaclQuery.Sorting
import ShaclQuery.Vocabulary

/-! # The order of properties

Properties come in the order of their `sh:order` values, read as doubles. A property without a usable
value comes last, and equal values keep the order of the graph.
-/

namespace ShaclQuery

open Number Vocabulary

inductive OrderError
  /-- A whole number beyond all doubles. -/
  | tooLarge
  deriving DecidableEq, Repr

def OrderError.message : OrderError → String
  | .tooLarge => "int too large to convert to float"

def spelledOrder (text : List Char) : Double := (readDouble text).getD (.infinity false)

/-- The order that a value gives. Octets count as the text that they spell in ASCII. -/
def Value.order : Value → Except OrderError Double
  | .integer n => if (Double.ofInt n).isInfinite then .error .tooLarge else .ok (.ofInt n)
  | .decimal d => .ok (d.toDouble?.getD (.infinity false))
  | .double x => .ok x
  | .boolean b => .ok (.ofInt (if b then 1 else 0))
  | .date _ | .foreign _ => .ok (.infinity false)
  | .text s => .ok (spelledOrder s.toList)
  | .octets os =>
    .ok (if os.all (· < 128) then spelledOrder (os.map Char.ofNat) else .infinity false)

variable [ForeignTypes]

/-- The order that a term gives. A literal without a value counts as its text. -/
def Term.order : Term → Except OrderError Double
  | .literal l =>
    match l.value? with
    | some v => v.order
    | none => .ok (spelledOrder l.text.toList)
  | _ => .ok (.infinity false)

namespace Graph

def orderOf (g : Graph) (property : Term) : Except OrderError Double :=
  match g.value? property (.iri (sh "order")) with
  | some t => t.order
  | none => .ok (.infinity false)

def orderedProperties (g : Graph) (shape : Term) : Except OrderError (List Term) := do
  let properties := distinctBy Term.key (g.objects shape (.iri (sh "property")))
  let keyed ← properties.mapM fun p => (g.orderOf p).map fun x => (x, p)
  .ok ((sortBy (fun a b => a.1.lt b.1) keyed).map (·.2))

end Graph

end ShaclQuery
