/-
Module: Airdrop.Library.HashTree
Purpose: Hash trees built level by level over any digest type, a lone last node
  paired with itself.  Every path folds to the root when the combiner does not
  depend on the order of its arguments, and with sorted pairs and no collision
  among the inputs used, nothing else folds to the root.
Trusted boundary: none
Main exports: nextLevel, levelPairs, combinedPairs, upperLevels, root, path, foldl_path,
  sortedPair, foldPairs_path, Separated, Grown.sound, root_grown
-/
import Mathlib.Data.List.Basic
import Mathlib.Data.Set.Function
import Mathlib.Order.Basic
import Mathlib.Tactic.Common

namespace HashTree

variable {D : Type*}

/-! ## Levels -/

section Levels

variable (combine : D → D → D)

/-- The parents of one level.  A lone last node is combined with itself. -/
def nextLevel : List D → List D
  | [] => []
  | [last] => [combine last last]
  | left :: right :: rest => combine left right :: nextLevel rest

@[simp] theorem nextLevel_length (level : List D) :
    (nextLevel combine level).length = (level.length + 1) / 2 := by
  induction level using nextLevel.induct with
  | case1 => simp [nextLevel]
  | case2 => simp [nextLevel]
  | case3 left right rest inductionHypothesis =>
      simp only [nextLevel, List.length_cons, inductionHypothesis]
      omega

theorem nextLevel_ne_nil {level : List D} (wide : 1 < level.length) :
    nextLevel combine level ≠ [] := by
  rw [← List.length_pos_iff, nextLevel_length]
  omega

/-- The place of the parent of node `i` is in the next level. -/
theorem half_lt_nextLevel {level : List D} {i : Nat} (inside : i < level.length) :
    i / 2 < (nextLevel combine level).length := by
  rw [nextLevel_length]
  omega

/-- Node `i` of the next level joins nodes `2 * i` and `2 * i + 1`, or node
`2 * i` with itself where the level ends there. -/
theorem nextLevel_getElem? (level : List D) (i : Nat) :
    (nextLevel combine level)[i]? =
      level[2 * i]?.map fun left =>
        combine left (level[2 * i + 1]?.getD left) := by
  induction level using nextLevel.induct generalizing i with
  | case1 => simp [nextLevel]
  | case2 last => cases i <;> simp [nextLevel]
  | case3 left right rest inductionHypothesis =>
      cases i with
      | zero => simp [nextLevel]
      | succ i =>
          have even : 2 * (i + 1) = 2 * i + 2 := by omega
          have odd : 2 * (i + 1) + 1 = 2 * i + 1 + 2 := by omega
          rw [odd, even]
          simp only [nextLevel, List.getElem?_cons_succ, inductionHypothesis]

/-- The pairs that are combined to build the next level. -/
def levelPairs : List D → List (D × D)
  | [] => []
  | [last] => [(last, last)]
  | left :: right :: rest => (left, right) :: levelPairs rest

theorem nextLevel_eq_map (level : List D) :
    nextLevel combine level = (levelPairs level).map fun pair => combine pair.1 pair.2 := by
  induction level using levelPairs.induct with
  | case1 => rfl
  | case2 last => rfl
  | case3 left right rest inductionHypothesis =>
      rw [nextLevel, levelPairs, List.map_cons, inductionHypothesis]

@[inherit_doc nextLevel_getElem?]
theorem levelPairs_getElem? (level : List D) (i : Nat) :
    (levelPairs level)[i]? =
      level[2 * i]?.map fun left => (left, level[2 * i + 1]?.getD left) := by
  induction level using levelPairs.induct generalizing i with
  | case1 => simp [levelPairs]
  | case2 last => cases i <;> simp [levelPairs]
  | case3 left right rest inductionHypothesis =>
      cases i with
      | zero => simp [levelPairs]
      | succ i =>
          have even : 2 * (i + 1) = 2 * i + 2 := by omega
          have odd : 2 * (i + 1) + 1 = 2 * i + 1 + 2 := by omega
          rw [odd, even]
          simp only [levelPairs, List.getElem?_cons_succ, inductionHypothesis]

/-- The pairs that are combined to build a whole tree over a level. -/
def combinedPairs (level : List D) : List (D × D) :=
  if 1 < level.length then
    levelPairs level ++ combinedPairs (nextLevel combine level)
  else
    []
termination_by level.length
decreasing_by
  rw [nextLevel_length]
  omega

/-- The levels above a given one, up to the level with a single node. -/
def upperLevels (level : List D) : List (List D) :=
  if 1 < level.length then
    nextLevel combine level :: upperLevels (nextLevel combine level)
  else
    []
termination_by level.length
decreasing_by
  rw [nextLevel_length]
  omega

theorem upperLevels_of_lt {level : List D} (wide : 1 < level.length) :
    upperLevels combine level =
      nextLevel combine level :: upperLevels combine (nextLevel combine level) := by
  rw [upperLevels, if_pos wide]

theorem upperLevels_of_le {level : List D} (narrow : level.length ≤ 1) :
    upperLevels combine level = [] := by
  rw [upperLevels, if_neg (Nat.not_lt.mpr narrow)]

/-- The root of a level: its only node, or the root of the next level. -/
def root (level : List D) : Option D :=
  if 1 < level.length then root (nextLevel combine level) else level.head?
termination_by level.length
decreasing_by
  rw [nextLevel_length]
  omega

/-- Only the empty level has no root. -/
theorem root_isSome {level : List D} (nonempty : level ≠ []) :
    ∃ digest, root combine level = some digest := by
  induction level using root.induct combine with
  | case1 level wide inductionHypothesis =>
      rw [root, if_pos wide]
      exact inductionHypothesis (nextLevel_ne_nil combine wide)
  | case2 level narrow =>
      rw [root, if_neg narrow]
      exact ⟨level.head nonempty, List.head?_eq_some_head nonempty⟩

/-- The root is the last node of the concatenated levels. -/
theorem root_eq_getLast? (level : List D) :
    root combine level =
      (level ++ (upperLevels combine level).flatten).getLast? := by
  induction level using root.induct combine with
  | case1 level wide inductionHypothesis =>
      rw [root, if_pos wide, inductionHypothesis, upperLevels_of_lt combine wide,
        List.flatten_cons]
      have nonempty := nextLevel_ne_nil combine wide
      rw [List.getLast?_append_of_ne_nil level (by simp [nonempty])]
  | case2 level narrow =>
      rw [root, if_neg narrow, upperLevels_of_le combine (Nat.not_lt.mp narrow)]
      match level, narrow with
      | [], _ => rfl
      | [only], _ => rfl
      | _ :: _ :: _, impossible => simp at impossible

/-! ## Paths -/

/-- The other child under the parent of node `i`: the neighbour, or the node
itself where the level ends with it. -/
def sibling (level : List D) (i : Nat) : Option D :=
  if i % 2 = 0 then level[i + 1]?.or level[i]? else level[i - 1]?

/-- The siblings met on the way from node `i` to the root. -/
def path (level : List D) (i : Nat) : List D :=
  if 1 < level.length then
    (sibling level i).toList ++ path (nextLevel combine level) (i / 2)
  else
    []
termination_by level.length
decreasing_by
  rw [nextLevel_length]
  omega

/-- A node of the level has a sibling. -/
theorem exists_sibling {level : List D} {i : Nat} (inside : i < level.length) :
    ∃ other, sibling level i = some other := by
  unfold sibling
  split
  · rw [List.getElem?_eq_getElem inside]
    cases level[i + 1]? with
    | none => exact ⟨_, rfl⟩
    | some other => exact ⟨other, rfl⟩
  · exact ⟨level[i - 1], List.getElem?_eq_getElem (by omega)⟩

/-- A node of the level has a parent in the next level. -/
theorem exists_parent {level : List D} {i : Nat} (inside : i < level.length) :
    ∃ parent, (nextLevel combine level)[i / 2]? = some parent :=
  ⟨_, List.getElem?_eq_getElem (half_lt_nextLevel combine inside)⟩

/-- A node of the level has a sibling, and combining the two in either order
gives their parent. -/
theorem combine_sibling (commutes : ∀ a b, combine a b = combine b a)
    {level : List D} {i : Nat} {node : D} (present : level[i]? = some node) :
    ∃ other, sibling level i = some other ∧
      (nextLevel combine level)[i / 2]? = some (combine node other) := by
  rcases Nat.mod_two_eq_zero_or_one i with even | odd
  · have whole : 2 * (i / 2) = i := by omega
    refine ⟨level[i + 1]?.getD node, ?_, ?_⟩
    · rw [sibling, if_pos even, present]
      cases level[i + 1]? <;> rfl
    · rw [nextLevel_getElem?, whole, present]
      rfl
  · have whole : 2 * (i / 2) = i - 1 := by omega
    have next : i - 1 + 1 = i := by omega
    obtain ⟨inside, _⟩ := List.getElem?_eq_some_iff.mp present
    have left : level[i - 1]? = some level[i - 1] :=
      List.getElem?_eq_getElem (by omega)
    refine ⟨level[i - 1], ?_, ?_⟩
    · rw [sibling, if_neg (by omega), left]
    · rw [nextLevel_getElem?, whole, left, next, present]
      exact congrArg some (commutes _ _)

/-- Completeness: folding the path of a node onto the node gives the root. -/
theorem foldl_path (commutes : ∀ a b, combine a b = combine b a)
    {level : List D} {i : Nat} {node : D} (present : level[i]? = some node) :
    root combine level = some ((path combine level i).foldl combine node) := by
  induction level using root.induct combine generalizing i node with
  | case1 level wide inductionHypothesis =>
      obtain ⟨other, found, parent⟩ := combine_sibling combine commutes present
      rw [root, if_pos wide, path, if_pos wide, found]
      exact inductionHypothesis parent
  | case2 level narrow =>
      rw [root, if_neg narrow, path, if_neg narrow, List.foldl_nil]
      obtain ⟨inside, _⟩ := List.getElem?_eq_some_iff.mp present
      have first : i = 0 := by omega
      rw [List.head?_eq_getElem?, ← first, present]

end Levels

/-! ## Sorted pairs -/

section Sorted

variable [LinearOrder D]

/-- Two digests in order. -/
def sortedPair (a b : D) : D × D :=
  if a ≤ b then (a, b) else (b, a)

theorem sortedPair_comm (a b : D) : sortedPair a b = sortedPair b a := by
  unfold sortedPair
  rcases lt_trichotomy a b with less | same | greater
  · rw [if_pos less.le, if_neg (not_le.mpr less)]
  · rw [same]
  · rw [if_neg (not_le.mpr greater), if_pos greater.le]

/-- A sorted pair determines its two members up to their order. -/
theorem sortedPair_eq {a b c d : D} (same : sortedPair a b = sortedPair c d) :
    a = c ∨ a = d := by
  unfold sortedPair at same
  split at same <;> split at same <;> simp only [Prod.mk.injEq] at same
  · exact Or.inl same.1
  · exact Or.inr same.1
  · exact Or.inr same.2
  · exact Or.inl same.2

variable {Item : Type*} (leaf : Item → D) (node : D × D → D)

/-- The combiner that hashes the sorted pair. -/
def combineSorted (a b : D) : D :=
  node (sortedPair a b)

theorem combineSorted_comm (a b : D) :
    combineSorted node a b = combineSorted node b a := by
  rw [combineSorted, combineSorted, sortedPair_comm]

/-- The pairs hashed to build the next level. -/
def nextLevelPairs : List D → List (D × D)
  | [] => []
  | [last] => [sortedPair last last]
  | left :: right :: rest => sortedPair left right :: nextLevelPairs rest

/-- The pairs hashed to build a whole tree over a level. -/
def treePairs (level : List D) : List (D × D) :=
  if 1 < level.length then
    nextLevelPairs level ++ treePairs (nextLevel (combineSorted node) level)
  else
    []
termination_by level.length
decreasing_by
  rw [nextLevel_length]
  omega

/-- The pairs hashed while a proof is folded onto a digest. -/
def foldPairs : D → List D → List (D × D)
  | _, [] => []
  | digest, element :: proof =>
      sortedPair digest element ::
        foldPairs (combineSorted node digest element) proof

theorem foldPairs_concat (digest : D) (proof : List D) (last : D) :
    foldPairs node digest (proof ++ [last]) =
      foldPairs node digest proof ++
        [sortedPair (proof.foldl (combineSorted node) digest) last] := by
  induction proof generalizing digest with
  | nil => rfl
  | cons element proof inductionHypothesis =>
      simp only [List.cons_append, foldPairs, inductionHypothesis,
        List.foldl_cons]

/-- A node and its sibling are a pair that is hashed. -/
theorem sortedPair_sibling_mem {level : List D} {i : Nat} {digest other : D}
    (present : level[i]? = some digest) (found : sibling level i = some other) :
    sortedPair digest other ∈ nextLevelPairs level := by
  induction level using nextLevelPairs.induct generalizing i with
  | case1 => cases present
  | case2 last =>
      cases i with
      | zero =>
          cases present
          cases found
          exact List.mem_singleton_self _
      | succ i => cases present
  | case3 left right rest inductionHypothesis =>
      rw [nextLevelPairs]
      rcases i with _ | _ | i
      · cases present
        cases found
        exact List.mem_cons_self
      · cases present
        cases found
        rw [sortedPair_comm]
        exact List.mem_cons_self
      · -- the pair stands further down, at the same place in the rest
        apply List.mem_cons_of_mem
        apply inductionHypothesis present
        rw [← found]
        change sibling rest i = sibling (left :: right :: rest) (i + 2)
        unfold sibling
        rw [Nat.add_mod_right]
        split
        · rfl
        · have below : i + 2 - 1 = i - 1 + 2 := by omega
          rw [below]
          rfl

/-- Folding the path of a node hashes only what was hashed to build the tree. -/
theorem foldPairs_path {level : List D} {i : Nat} {digest : D}
    (present : level[i]? = some digest) :
    ∀ pair ∈ foldPairs node digest (path (combineSorted node) level i),
      pair ∈ treePairs node level := by
  induction level using root.induct (combineSorted node) generalizing i digest with
  | case1 level wide inductionHypothesis =>
      obtain ⟨other, found, parent⟩ :=
        combine_sibling (combineSorted node) (combineSorted_comm node) present
      rw [path, if_pos wide, found, treePairs, if_pos wide]
      intro pair member
      rcases List.mem_cons.mp member with rfl | later
      · exact List.mem_append_left _ (sortedPair_sibling_mem present found)
      · exact List.mem_append_right _ (inductionHypothesis parent pair later)
  | case2 level narrow =>
      rw [path, if_neg narrow]
      intro pair member
      cases member

/-! ## Soundness -/

/-- No collision among the inputs used: leaf inputs `items`, inner inputs
`pairs`, and no leaf input hashes like an inner one. -/
structure Separated (items : Set Item) (pairs : Set (D × D)) : Prop where
  leaf_inj : Set.InjOn leaf items
  node_inj : Set.InjOn node pairs
  apart : ∀ item ∈ items, ∀ pair ∈ pairs, leaf item ≠ node pair

/-- A digest grown from the leaves of `items` by hashing pairs among `pairs`. -/
inductive Grown (items : Set Item) (pairs : Set (D × D)) : D → Prop where
  | leaf {item : Item} (member : item ∈ items) : Grown items pairs (leaf item)
  | node {a b : D} (left : Grown items pairs a) (right : Grown items pairs b)
      (used : sortedPair a b ∈ pairs) :
      Grown items pairs (node (sortedPair a b))

variable {leaf node}

/-- Soundness: whatever the proof, if a candidate leaf folds to a digest grown
from `items`, then the candidate is one of `items`. -/
theorem Grown.sound {items used : Set Item} {pairs : Set (D × D)} {target : D}
    (separated : Separated leaf node used pairs) (subset : items ⊆ used)
    (grown : Grown leaf node items pairs target)
    {candidate : Item} (candidateUsed : candidate ∈ used) :
    ∀ {proof : List D},
      (∀ pair ∈ foldPairs node (leaf candidate) proof, pair ∈ pairs) →
      proof.foldl (combineSorted node) (leaf candidate) = target →
      candidate ∈ items := by
  induction grown with
  | leaf member =>
      intro proof proofUsed folds
      rcases List.eq_nil_or_concat' proof with rfl | ⟨rest, last, rfl⟩
      · have same :=
          separated.leaf_inj candidateUsed (subset member) folds
        exact same ▸ member
      · rw [foldPairs_concat] at proofUsed
        rw [List.foldl_concat] at folds
        exact absurd folds.symm
          (separated.apart _ (subset member) _ (proofUsed _ (by simp)))
  | @node a b left right pairUsed leftSound rightSound =>
      intro proof proofUsed folds
      rcases List.eq_nil_or_concat' proof with rfl | ⟨rest, last, rfl⟩
      · exact absurd folds (separated.apart _ candidateUsed _ pairUsed)
      · rw [foldPairs_concat] at proofUsed
        rw [List.foldl_concat] at folds
        have restUsed :
            ∀ pair ∈ foldPairs node (leaf candidate) rest, pair ∈ pairs :=
          fun pair member =>
            proofUsed pair (List.mem_append_left _ member)
        have samePair :=
          separated.node_inj (proofUsed _ (by simp)) pairUsed folds
        -- The last digest folded is one of the two children.
        rcases sortedPair_eq samePair with isLeft | isRight
        · exact leftSound restUsed isLeft
        · exact rightSound restUsed isRight

/-- The next level of grown digests is grown. -/
theorem nextLevel_grown {items : Set Item} {pairs : Set (D × D)}
    {level : List D}
    (grown : ∀ digest ∈ level, Grown leaf node items pairs digest)
    (used : ∀ pair ∈ nextLevelPairs level, pair ∈ pairs) :
    ∀ digest ∈ nextLevel (combineSorted node) level,
      Grown leaf node items pairs digest := by
  induction level using nextLevelPairs.induct with
  | case1 => simp [nextLevel]
  | case2 last =>
      simp only [nextLevel, List.mem_singleton, forall_eq]
      exact .node (grown _ (by simp)) (grown _ (by simp))
        (used _ (by simp [nextLevelPairs]))
  | case3 left right rest inductionHypothesis =>
      simp only [nextLevel, List.mem_cons, forall_eq_or_imp]
      constructor
      · exact .node (grown _ (by simp)) (grown _ (by simp))
          (used _ (by simp [nextLevelPairs]))
      · exact inductionHypothesis
          (fun digest member => grown digest (by simp [member]))
          (fun pair member => used pair (by simp [nextLevelPairs, member]))

/-- The root of a tree over grown digests is grown. -/
theorem root_grown {items : Set Item} {pairs : Set (D × D)}
    {level : List D} {digest : D}
    (grown : ∀ digest ∈ level, Grown leaf node items pairs digest)
    (used : ∀ pair ∈ treePairs node level, pair ∈ pairs)
    (top : root (combineSorted node) level = some digest) :
    Grown leaf node items pairs digest := by
  induction level using root.induct (combineSorted node) with
  | case1 level wide inductionHypothesis =>
      rw [root, if_pos wide] at top
      rw [treePairs, if_pos wide] at used
      exact inductionHypothesis
        (nextLevel_grown grown fun pair member =>
          used pair (List.mem_append_left _ member))
        (fun pair member => used pair (List.mem_append_right _ member)) top
  | case2 level narrow =>
      rw [root, if_neg narrow] at top
      exact grown digest (List.mem_of_head? top)

end Sorted

end HashTree
