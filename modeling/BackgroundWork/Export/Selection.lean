set_option autoImplicit false

/-!
Sets of ids that a user selected, in ascending order and without repetition.
-/

namespace BackgroundWork.Export

/-- Puts an id at its place among ids in ascending order, unless it is there. -/
def insertId (id : String) : List String → List String
  | [] => [id]
  | other :: rest =>
    if id < other then id :: other :: rest
    else if id = other then other :: rest
    else other :: insertId id rest

theorem mem_insertId {id x : String} {ids : List String} :
    x ∈ insertId id ids ↔ x = id ∨ x ∈ ids := by
  induction ids with
  | nil => simp [insertId]
  | cons other rest ih =>
    unfold insertId
    split
    · simp
    · split
      · simp_all
      · simp only [List.mem_cons, ih]
        exact or_left_comm

theorem insertId_ascending {id : String} {ids : List String} (ascending : ids.Pairwise (· < ·)) :
    (insertId id ids).Pairwise (· < ·) := by
  induction ids with
  | nil => simp [insertId]
  | cons other rest ih =>
    have ⟨first, later⟩ := List.pairwise_cons.1 ascending
    unfold insertId
    split
    · rename_i less
      refine List.pairwise_cons.2 ⟨fun x found => ?_, ascending⟩
      rcases List.mem_cons.1 found with rfl | found
      · exact less
      · exact String.lt_trans less (first x found)
    · split
      · exact ascending
      · rename_i notLess different
        refine List.pairwise_cons.2 ⟨fun x found => ?_, ih later⟩
        rcases mem_insertId.1 found with rfl | found
        · exact Std.lt_of_le_of_ne notLess (Ne.symm different)
        · exact first x found

/-- A set of ids. -/
structure Selection where
  ids : List String
  ascending : ids.Pairwise (· < ·)
  deriving DecidableEq

namespace Selection

/-- Nothing selected. -/
def empty : Selection := ⟨[], List.Pairwise.nil⟩

/-- Whether nothing is selected. -/
def isEmpty (selection : Selection) : Bool :=
  selection.ids.isEmpty

/-- The selection with one more id. -/
def insert (selection : Selection) (id : String) : Selection :=
  ⟨insertId id selection.ids, insertId_ascending selection.ascending⟩

/-- The ids that occur in a list. -/
def ofList (ids : List String) : Selection :=
  ids.foldl insert empty

end Selection
end BackgroundWork.Export
