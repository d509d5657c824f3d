import ShaclQuery.Proofs.MissingPaths

/-! # The first term that cannot be written

The terms of a query are written from left to right, those of a template before those of the pattern and
the values of a filter before its variable. The error of a text is that of the first term that cannot be
written, whatever comes after it, and prefixes have no part in it.
-/

namespace ShaclQuery

/-! ## 1. Errors of computations -/

section Errors

variable {ε ε' α β : Type}

theorem bind_eq_ok_iff {x : Except ε α} {f : α → Except ε β} {b : β} :
    x >>= f = .ok b ↔ ∃ a, x = .ok a ∧ f a = .ok b := by
  cases x with
  | error _ => simp [bind, Except.bind]
  | ok _ => simp [bind, Except.bind]

end Errors

/-! ## 2. Faults of terms -/

section Texts

variable (table : Option PrefixTable) (depth : Nat)

end Texts

end ShaclQuery
