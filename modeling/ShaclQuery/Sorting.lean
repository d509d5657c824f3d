/-! # Sorting by insertion

A list is sorted by taking the run it starts with and inserting the other elements one after the
other. Each goes behind everything that it is not smaller than, so that equal elements keep their
order. The place is found by halving.

For an order every stable sort gives the same list. Where the comparison is none, as with a NaN among
the keys, the outcome depends on which elements are compared: a sort that merges runs compares the
same ones as long as the list has fewer than 64 elements, and others beyond that.
-/

namespace ShaclQuery

variable {α : Type}

/-! ## 1. The run at the front -/

/-- Splits off the longest front in which each element, `a` before the first, stands in the relation
`next` to its successor. -/
def splitRun (next : α → α → Bool) (a : α) : List α → List α × List α
  | [] => ([], [])
  | b :: rest =>
    if next a b then
      let (run, others) := splitRun next b rest
      (b :: run, others)
    else ([], b :: rest)

/-- The run at the front of a list in rising order, and the others. A strictly falling run is turned
round. -/
def firstRun (lt : α → α → Bool) : List α → List α × List α
  | [] => ([], [])
  | [a] => ([a], [])
  | a :: b :: rest =>
    if lt b a then
      let (run, others) := splitRun (fun x y => lt y x) b rest
      ((a :: b :: run).reverse, others)
    else
      let (run, others) := splitRun (fun x y => !lt y x) b rest
      (a :: b :: run, others)

/-! ## 2. Insertion -/

/-- The place of an element in a sorted list, found by halving. -/
def insertionPoint (lt : α → α → Bool) (x : α) (l : List α) : Nat :=
  match h : l.drop (l.length / 2) with
  | [] => 0
  | middle :: upper =>
    if lt x middle then insertionPoint lt x (l.take (l.length / 2))
    else l.length / 2 + 1 + insertionPoint lt x upper
  termination_by l.length
  decreasing_by
  · have hlen := congrArg List.length h
    simp only [List.length_drop, List.length_cons] at hlen
    simp only [List.length_take]
    omega
  · have hlen := congrArg List.length h
    simp only [List.length_drop, List.length_cons] at hlen
    omega

def insertSorted (lt : α → α → Bool) (l : List α) (x : α) : List α :=
  let i := insertionPoint lt x l
  l.take i ++ x :: l.drop i

def sortBy (lt : α → α → Bool) (l : List α) : List α :=
  let (run, others) := firstRun lt l
  others.foldl (insertSorted lt) run

end ShaclQuery
