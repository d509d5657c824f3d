import ShaclQuery.Command.Run
import ShaclQuery.Shape.WellFormed

/-! # The standard host

What the command runs with: formats that extend Turtle are read as Turtle, and shapes graphs are checked
for the syntax of SHACL. The theory is about every host.
-/

namespace ShaclQuery

namespace Command

/-- Formats of which Turtle is a part. -/
def turtleLike : List String := ["n3", "text/n3", "trig", "application/trig"]

def Host.standard [ForeignTypes] : Host where
  labels := ⟨id, fun _ _ h => h⟩
  other row name base content :=
    match content with
    | .text text => if turtleLike.contains name then Document.read? row .turtle base text else none
    | .octets _ => none
  validate g := if g.isWellFormed then .conforms else .violated true

end Command

end ShaclQuery
