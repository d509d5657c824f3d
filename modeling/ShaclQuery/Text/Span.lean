/-! # Spans of code points

A property of characters is written as a list of closed spans of code points.
-/

namespace ShaclQuery.Text

abbrev Span := Nat × Nat

def inSpans (spans : List Span) (code : Nat) : Bool :=
  spans.any fun span => span.1 ≤ code && code ≤ span.2

theorem inSpans_iff {spans : List Span} {code : Nat} :
    inSpans spans code = true ↔ ∃ span ∈ spans, span.1 ≤ code ∧ code ≤ span.2 := by
  simp [inSpans]

end ShaclQuery.Text
