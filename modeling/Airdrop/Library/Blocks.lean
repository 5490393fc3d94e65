/-
Module: Airdrop.Library.Blocks
Purpose: A list cut into consecutive blocks of one size, the last of which may be
  shorter.
Trusted boundary: none
Main exports: blocks, blocks_of_ne_nil, blocks_induction, flatten_blocks,
  length_of_mem_blocks
-/
import Mathlib.Data.List.Basic

namespace Blocks

variable {α : Type*} {size : Nat}

/-- The consecutive blocks of `size` elements. -/
def blocks (size : Nat) (rows : List α) : List (List α) :=
  (List.range ((rows.length + size - 1) / size)).map fun i =>
    (rows.drop (i * size)).take size

@[simp] theorem blocks_nil (positive : 0 < size) : blocks size ([] : List α) = [] := by
  have none : (size - 1) / size = 0 := Nat.div_eq_of_lt (by omega)
  simp [blocks, none]

/-- The first block is the first `size` elements, and the others are the blocks of
the remaining ones. -/
theorem blocks_of_ne_nil (positive : 0 < size) {rows : List α} (nonempty : rows ≠ []) :
    blocks size rows = rows.take size :: blocks size (rows.drop size) := by
  have some : 0 < rows.length := List.length_pos_iff.mpr nonempty
  have count : (rows.length + size - 1) / size =
      ((rows.drop size).length + size - 1) / size + 1 := by
    rw [← Nat.add_div_right _ positive, List.length_drop]
    by_cases short : rows.length ≤ size
    · -- the only block
      have one (count : Nat) (low : size ≤ count) (high : count < 2 * size) :
          count / size = 1 :=
        Nat.div_eq_of_lt_le (by omega) (by omega)
      rw [one _ (by omega) (by omega), one _ (by omega) (by omega)]
    · congr 1
      omega
  rw [blocks, count, List.range_succ_eq_map, List.map_cons, List.map_map, blocks]
  congr 1
  · simp
  · apply List.map_congr_left
    intro i _
    simp [List.drop_drop, Nat.succ_mul, Nat.add_comm]

/-- What holds for no rows, and holds with one more block in front, holds for the
blocks of all lists. -/
theorem blocks_induction (positive : 0 < size)
    {motive : List α → List (List α) → Prop} (nil : motive [] [])
    (cons : ∀ rows, rows ≠ [] → motive (rows.drop size) (blocks size (rows.drop size)) →
      motive rows (rows.take size :: blocks size (rows.drop size)))
    (rows : List α) : motive rows (blocks size rows) := by
  induction isLength : rows.length using Nat.strongRecOn generalizing rows with
  | ind count inductionHypothesis =>
      by_cases empty : rows = []
      · rw [empty, blocks_nil positive]
        exact nil
      · have some : 0 < rows.length := List.length_pos_iff.mpr empty
        have fewer : (rows.drop size).length < count := by
          rw [List.length_drop]
          omega
        rw [blocks_of_ne_nil positive empty]
        exact cons rows empty (inductionHypothesis _ fewer _ rfl)

/-- The blocks make up the list, in its order. -/
theorem flatten_blocks (positive : 0 < size) (rows : List α) :
    (blocks size rows).flatten = rows := by
  induction rows using blocks_induction positive with
  | nil => rfl
  | cons rows nonempty inductionHypothesis =>
      rw [List.flatten_cons, inductionHypothesis, List.take_append_drop]

/-- No block is empty, and none has more than `size` elements. -/
theorem length_of_mem_blocks (positive : 0 < size) {rows block : List α}
    (member : block ∈ blocks size rows) : 1 ≤ block.length ∧ block.length ≤ size := by
  induction rows using blocks_induction positive with
  | nil => cases member
  | cons rows nonempty inductionHypothesis =>
      have some : 0 < rows.length := List.length_pos_iff.mpr nonempty
      rcases List.mem_cons.mp member with rfl | later
      · rw [List.length_take]
        omega
      · exact inductionHypothesis later

/-- There are no more blocks than elements. -/
theorem length_blocks_le (positive : 0 < size) (rows : List α) :
    (blocks size rows).length ≤ rows.length := by
  induction rows using blocks_induction positive with
  | nil => exact Nat.le_refl _
  | cons rows nonempty inductionHypothesis =>
      have some : 0 < rows.length := List.length_pos_iff.mpr nonempty
      rw [List.length_drop] at inductionHypothesis
      rw [List.length_cons]
      omega

end Blocks
