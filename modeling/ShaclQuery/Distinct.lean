/-! # Distinct elements

Lists in which every key occurs once. `distinctBy` keeps the first element of each key and the order
of what it keeps. The number of elements that are still to be met bounds every walk that enters each
of them once.
-/

namespace ShaclQuery

variable {α β : Type}

/-- Counting by a narrower test gives less when some element passes the wider test only. -/
theorem countP_lt_countP {p q : α → Bool} {l : List α} (hpq : ∀ a ∈ l, p a → q a)
    {x : α} (hx : x ∈ l) (hq : q x = true) (hp : p x = false) : l.countP p < l.countP q := by
  induction l with
  | nil => simp at hx
  | cons a rest ih =>
    have hmono : rest.countP p ≤ rest.countP q :=
      List.countP_mono_left fun b hb => hpq b (List.mem_cons_of_mem a hb)
    have hhead := hpq a List.mem_cons_self
    rcases List.mem_cons.1 hx with rfl | hx'
    · have hnot : ¬p x = true := by rw [hp]; exact Bool.false_ne_true
      rw [List.countP_cons, List.countP_cons, if_pos hq, if_neg hnot]
      omega
    · have hlt := ih (fun b hb => hpq b (List.mem_cons_of_mem a hb)) hx'
      have hle : (if p a = true then 1 else 0) ≤ (if q a = true then 1 else 0) := by
        by_cases hpa : p a = true
        · simp [hpa, hhead hpa]
        · simp [hpa]
      rw [List.countP_cons, List.countP_cons]
      omega

variable [DecidableEq β]

/-- Once an element is met, fewer are left to meet. -/
theorem countP_unmet_lt (key : α → β) {l : List α} {met : List β} {x : α} (hx : x ∈ l)
    (hmet : key x ∉ met) :
    l.countP (fun a => !(key x :: met).contains (key a)) <
      l.countP (fun a => !met.contains (key a)) := by
  apply countP_lt_countP _ hx (by simpa using hmet) (by simp)
  intro a _ ha
  simp only [List.contains_cons, Bool.not_or, Bool.and_eq_true] at ha
  exact ha.2

/-- The list without elements whose key occurred before. -/
def distinctBy (key : α → β) : List α → List α
  | [] => []
  | a :: rest => a :: (distinctBy key rest).filter fun b => key b ≠ key a

theorem distinctBy_sublist (key : α → β) (l : List α) : (distinctBy key l).Sublist l := by
  induction l with
  | nil => exact List.Sublist.slnil
  | cons a rest ih =>
    simp only [distinctBy]
    exact (List.filter_sublist.trans ih).cons_cons a

theorem distinctBy_subset (key : α → β) (l : List α) {a : α} (h : a ∈ distinctBy key l) : a ∈ l :=
  (distinctBy_sublist key l).subset h

/-- No two elements that are kept have the same key. -/
theorem distinctBy_pairwise (key : α → β) (l : List α) :
    (distinctBy key l).Pairwise fun a b => key a ≠ key b := by
  induction l with
  | nil => exact List.Pairwise.nil
  | cons a rest ih =>
    simp only [distinctBy, List.pairwise_cons]
    refine ⟨?_, ih.sublist List.filter_sublist⟩
    intro b hb
    have hkey : key b ≠ key a := by simpa using (List.mem_filter.1 hb).2
    exact fun heq => hkey heq.symm

theorem nodup_map_distinctBy (key : α → β) (l : List α) : ((distinctBy key l).map key).Nodup :=
  List.pairwise_map.2 (distinctBy_pairwise key l)

/-- Every key of the list is kept. -/
theorem exists_mem_distinctBy (key : α → β) (l : List α) {a : α} (h : a ∈ l) :
    ∃ b ∈ distinctBy key l, key b = key a := by
  induction l with
  | nil => simp at h
  | cons c rest ih =>
    by_cases hca : key c = key a
    · exact ⟨c, by simp [distinctBy], hca⟩
    · have hrest : a ∈ rest := by
        rcases List.mem_cons.1 h with rfl | h'
        · exact absurd rfl hca
        · exact h'
      obtain ⟨b, hb, hba⟩ := ih hrest
      refine ⟨b, ?_, hba⟩
      simp only [distinctBy, List.mem_cons, List.mem_filter]
      exact Or.inr ⟨hb, by simpa [hba] using fun heq => hca heq.symm⟩

end ShaclQuery
