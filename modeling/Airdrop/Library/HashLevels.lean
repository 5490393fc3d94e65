/-
Module: Airdrop.Library.HashLevels
Purpose: The levels of a hash tree by their number: how many there are, how wide they are,
  where the nodes of a path stand in them, and how many nodes they have together.
Trusted boundary: none
Main exports: levelWidth, levelAt, levelAt_length, levelAt_succ_getElem,
  upperLevels_eq_map, length_nodes_lt, path_length
-/
import Airdrop.Library.HashTree
import Mathlib.Algebra.Order.Floor.Div
import Mathlib.Data.Nat.Log

namespace HashTree

variable {D : Type*} (combine : D → D → D)

/-! ## Widths -/

/-- `⌈width / 2 ^ k⌉`: the width of level `k` over a level. -/
def levelWidth (width k : Nat) : Nat := (width + 2 ^ k - 1) / 2 ^ k

theorem levelWidth_le_iff {width k bound : Nat} :
    levelWidth width k ≤ bound ↔ width ≤ 2 ^ k * bound :=
  ceilDiv_le_iff_le_mul (Nat.two_pow_pos k)

theorem levelWidth_zero (width : Nat) : levelWidth width 0 = width := by
  simp [levelWidth]

/-- Half a width, rounded up, is the next one. -/
theorem half_levelWidth (width k : Nat) :
    (levelWidth width k + 1) / 2 = levelWidth width (k + 1) := by
  refine eq_of_forall_ge_iff fun bound => ?_
  have half : (levelWidth width k + 1) / 2 ≤ bound ↔ levelWidth width k ≤ 2 * bound := by omega
  rw [half, levelWidth_le_iff, levelWidth_le_iff, pow_succ, mul_assoc]

/-- The widths end with 1. -/
theorem levelWidth_clog {width : Nat} (positive : 0 < width) :
    levelWidth width (Nat.clog 2 width) = 1 := by
  have narrow : levelWidth width (Nat.clog 2 width) ≤ 1 := by
    rw [levelWidth_le_iff, mul_one]
    exact Nat.le_pow_clog (by decide) _
  have inhabited : ¬ levelWidth width (Nat.clog 2 width) ≤ 0 := by
    rw [levelWidth_le_iff, mul_zero]
    omega
  omega

/-! ## One level -/

/-- Level `k` over a level, which is level 0 itself. -/
def levelAt (level : List D) (k : Nat) : List D := (nextLevel combine)^[k] level

@[simp] theorem levelAt_zero (level : List D) : levelAt combine level 0 = level := rfl

/-- Level `k + 1` is level `k` over the next level. -/
theorem levelAt_next (level : List D) (k : Nat) :
    levelAt combine level (k + 1) = levelAt combine (nextLevel combine level) k :=
  Function.iterate_succ_apply _ _ _

theorem levelAt_succ (level : List D) (k : Nat) :
    levelAt combine level (k + 1) = nextLevel combine (levelAt combine level k) :=
  Function.iterate_succ_apply' _ _ _

/-- Each level has half the width of the one below it, rounded up. -/
theorem levelAt_length (level : List D) (k : Nat) :
    (levelAt combine level k).length = levelWidth level.length k := by
  induction k with
  | zero => rw [levelAt_zero, levelWidth_zero]
  | succ k inductionHypothesis =>
      rw [levelAt_succ, nextLevel_length, inductionHypothesis, half_levelWidth]

/-- Node `i` of a level joins two nodes of the level below it, the last one twice where that
level is odd. -/
theorem levelAt_succ_getElem {level : List D} {k i : Nat}
    (inside : i < (levelAt combine level (k + 1)).length) :
    ∃ left right, (levelAt combine level k)[2 * i]? = some left ∧
      (levelAt combine level k)[min (2 * i + 1) ((levelAt combine level k).length - 1)]? =
        some right ∧
      (levelAt combine level (k + 1))[i]? = some (combine left right) := by
  rw [levelAt_succ, nextLevel_length] at inside
  have leftInside : 2 * i < (levelAt combine level k).length := by omega
  have left := List.getElem?_eq_getElem leftInside
  rw [levelAt_succ, nextLevel_getElem?, left]
  by_cases paired : 2 * i + 1 < (levelAt combine level k).length
  · have right := List.getElem?_eq_getElem paired
    rw [Nat.min_eq_left (by omega), right]
    exact ⟨_, _, rfl, rfl, rfl⟩
  · have last : min (2 * i + 1) ((levelAt combine level k).length - 1) = 2 * i := by omega
    rw [last, left, List.getElem?_eq_none (Nat.not_lt.mp paired)]
    exact ⟨_, _, rfl, rfl, rfl⟩

/-- The ancestor of a node has half its number, rounded down, in each level. -/
theorem inside_levelAt {level : List D} {i : Nat} (inside : i < level.length) (k : Nat) :
    i / 2 ^ k < (levelAt combine level k).length := by
  rw [levelAt_length, ← not_le, levelWidth_le_iff, not_le]
  exact (Nat.mul_div_le i (2 ^ k)).trans_lt inside

/-- The other child of the parent of an even node: the last node of the level has none but
itself. -/
theorem sibling_of_even {level : List D} {i : Nat} (inside : i < level.length)
    (even : i % 2 = 0) : sibling level i = level[min (i + 1) (level.length - 1)]? := by
  rw [sibling, if_pos even]
  by_cases paired : i + 1 < level.length
  · rw [Nat.min_eq_left (by omega), List.getElem?_eq_getElem paired]
    rfl
  · have last : min (i + 1) (level.length - 1) = i := by omega
    rw [last, List.getElem?_eq_none (Nat.not_lt.mp paired)]
    rfl

/-! ## All levels -/

theorem upperLevels_eq_map (level : List D) :
    upperLevels combine level =
      (List.range (Nat.clog 2 level.length)).map fun k => levelAt combine level (k + 1) := by
  induction level using upperLevels.induct combine with
  | case1 level wide inductionHypothesis =>
      rw [upperLevels_of_lt combine wide, inductionHypothesis, nextLevel_length,
        Nat.clog_of_one_lt (by decide) wide, List.range_succ_eq_map, List.map_cons, List.map_map]
      refine congrArg₂ List.cons rfl (List.map_congr_left fun k _ => ?_)
      exact (levelAt_next combine level (k + 1)).symm
  | case2 level narrow =>
      rw [upperLevels_of_le combine (Nat.not_lt.mp narrow),
        Nat.clog_of_right_le_one (Nat.not_lt.mp narrow)]
      rfl

/-- The levels from the first one on, in one list. -/
theorem append_upperLevels (level : List D) :
    level ++ (upperLevels combine level).flatten =
      ((List.range (Nat.clog 2 level.length + 1)).map (levelAt combine level)).flatten := by
  rw [upperLevels_eq_map, List.range_succ_eq_map, List.map_cons, List.flatten_cons,
    levelAt_zero, List.map_map]
  rfl

/-- A tree over `n` nodes has fewer than `2 * n + ⌈log₂ n⌉` nodes: each level above the first
one has at most one node more than half of the level below it. -/
theorem length_nodes_lt {level : List D} (nonempty : level ≠ []) :
    (level ++ (upperLevels combine level).flatten).length <
      2 * level.length + Nat.clog 2 level.length := by
  induction level using upperLevels.induct combine with
  | case1 level wide inductionHypothesis =>
      have next := inductionHypothesis (nextLevel_ne_nil combine wide)
      rw [nextLevel_length] at next
      rw [upperLevels_of_lt combine wide, List.flatten_cons, List.length_append,
        Nat.clog_of_one_lt (by decide) wide]
      have half : (level.length + 2 - 1) / 2 = (level.length + 1) / 2 := rfl
      rw [half]
      omega
  | case2 level narrow =>
      have some : 0 < level.length := List.length_pos_iff.mpr nonempty
      rw [upperLevels_of_le combine (Nat.not_lt.mp narrow), List.flatten_nil, List.append_nil]
      omega

/-- Only the empty level has no root. -/
theorem root_eq_none_iff {level : List D} : root combine level = none ↔ level = [] := by
  constructor
  · intro missing
    by_contra nonempty
    obtain ⟨digest, isRoot⟩ := root_isSome combine nonempty
    rw [missing] at isRoot
    cases isRoot
  · rintro rfl
    rw [root, if_neg (by simp)]
    rfl

/-- A path has an entry for each level but the last one. -/
theorem path_length {level : List D} {i : Nat} (inside : i < level.length) :
    (path combine level i).length = Nat.clog 2 level.length := by
  induction level using upperLevels.induct combine generalizing i with
  | case1 level wide inductionHypothesis =>
      obtain ⟨other, found⟩ := exists_sibling inside
      have next := inductionHypothesis (half_lt_nextLevel combine inside)
      rw [nextLevel_length] at next
      rw [path, if_pos wide, found, Nat.clog_of_one_lt (by decide) wide, List.length_append, next,
        Nat.add_comm]
      rfl
  | case2 level narrow =>
      rw [path, if_neg narrow, Nat.clog_of_right_le_one (Nat.not_lt.mp narrow)]
      rfl

end HashTree
