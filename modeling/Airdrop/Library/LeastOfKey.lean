/-
Module: Airdrop.Library.LeastOfKey
Purpose: Pairs that are sorted by key and value, of which the first one of each run of a key
  is kept: that is one pair for each key, with the least value that the key has.
Trusted boundary: none
Main exports: keyTotal, sortPairs, dedupByKey, LeastEntries, leastEntries,
  LeastEntries.sum_eq_iff
-/
import Mathlib.Algebra.Order.BigOperators.Group.List
import Mathlib.Algebra.Order.Ring.Nat
import Mathlib.Data.List.Destutter
import Mathlib.Data.List.Sort
import Mathlib.Data.Prod.Lex

namespace LeastOfKey

variable {α β : Type*} [LinearOrder α]

/-! ## Values by key -/

section Values

variable {pairs : List (α × β)} (value : β → Nat)

/-- What the entries of a key are worth together. -/
def keyTotal (pairs : List (α × β)) (key : α) : Nat :=
  ((pairs.filter fun entry => entry.1 = key).map fun entry => value entry.2).sum

/-- Every entry counts for exactly one key. -/
theorem sum_keyTotal {keys : List α} (distinct : keys.Nodup)
    (covered : ∀ entry ∈ pairs, entry.1 ∈ keys) :
    (keys.map (keyTotal value pairs)).sum = (pairs.map fun entry => value entry.2).sum := by
  induction keys generalizing pairs with
  | nil =>
      have empty : pairs = [] :=
        List.eq_nil_iff_forall_not_mem.mpr fun entry isEntry =>
          List.not_mem_nil (covered entry isEntry)
      simp [empty]
  | cons key keys inductionHypothesis =>
      obtain ⟨notLater, distinct⟩ := List.nodup_cons.mp distinct
      let others := pairs.filter fun entry => !decide (entry.1 = key)
      have unchanged (other : α) (isOther : other ∈ keys) :
          keyTotal value pairs other = keyTotal value others other := by
        have different : other ≠ key := fun same => notLater (same ▸ isOther)
        rw [keyTotal, keyTotal, List.filter_filter]
        congr 2
        refine List.filter_congr fun entry _ => ?_
        by_cases same : entry.1 = other <;> simp [same, different]
      have rest := @inductionHypothesis others distinct fun entry isOther => by
        obtain ⟨isEntry, different⟩ := List.mem_filter.mp isOther
        exact (List.mem_cons.mp (covered entry isEntry)).resolve_left (by simpa using different)
      have split := ((List.filter_append_perm (fun entry => decide (entry.1 = key)) pairs).map
        fun entry => value entry.2).sum_eq
      rw [List.map_append, List.sum_append] at split
      rw [List.map_cons, List.sum_cons, List.map_congr_left unchanged, rest, ← split]
      rfl

/-- Sums of smaller terms agree when the terms do. -/
theorem sum_map_eq_iff {γ : Type*} {items : List γ} {small large : γ → Nat}
    (le : ∀ item ∈ items, small item ≤ large item) :
    (items.map small).sum = (items.map large).sum ↔
      ∀ item ∈ items, large item = small item := by
  induction items with
  | nil => simp
  | cons item items inductionHypothesis =>
      obtain ⟨first, later⟩ := List.forall_mem_cons.mp le
      have rest : (items.map small).sum ≤ (items.map large).sum := List.sum_le_sum later
      simp only [List.map_cons, List.sum_cons, List.forall_mem_cons]
      rw [← inductionHypothesis later]
      omega

end Values

/-! ## Sorting and dropping -/

variable [LinearOrder β]

/-- The pairs in lexicographic order. -/
def sortPairs (pairs : List (α × β)) : List (α × β) :=
  pairs.insertionSort fun one other => toLex one ≤ toLex other

/-- Of neighbours with the same key only the first one. -/
def dedupByKey (pairs : List (α × β)) : List (α × β) :=
  pairs.destutter fun one other => one.1 ≠ other.1

theorem sortPairs_perm (pairs : List (α × β)) : (sortPairs pairs).Perm pairs :=
  List.perm_insertionSort _ _

theorem sortPairs_sorted (pairs : List (α × β)) :
    (sortPairs pairs).Pairwise fun one other => toLex one ≤ toLex other := by
  have : Std.Total fun one other : α × β => toLex one ≤ toLex other :=
    ⟨fun one other => le_total (toLex one) (toLex other)⟩
  have : IsTrans (α × β) fun one other => toLex one ≤ toLex other :=
    ⟨fun _ _ _ => le_trans⟩
  exact List.pairwise_insertionSort _ _

/-- `kept` has one entry for each key of `pairs`, the least one, in the order of the keys. -/
structure LeastEntries (pairs kept : List (α × β)) : Prop where
  increasing : (kept.map Prod.fst).Pairwise (· < ·)
  keys : ∀ key, key ∈ kept.map Prod.fst ↔ key ∈ pairs.map Prod.fst
  member : ∀ entry ∈ kept, entry ∈ pairs
  least : ∀ entry ∈ kept, ∀ other ∈ pairs, other.1 = entry.1 → entry.2 ≤ other.2

theorem LeastEntries.of_perm {pairs sorted kept : List (α × β)}
    (least : LeastEntries sorted kept) (same : sorted.Perm pairs) : LeastEntries pairs kept where
  increasing := least.increasing
  keys key := (least.keys key).trans (same.map Prod.fst).mem_iff
  member entry isKept := same.mem_iff.mp (least.member entry isKept)
  least entry isKept other isOther := least.least entry isKept other (same.mem_iff.mpr isOther)

/-! ## The first entry of each run -/

section Runs

variable {first next : α × β} {pairs kept : List (α × β)}

/-- An entry before a larger key stays in front. -/
theorem LeastEntries.cons_of_lt (least : LeastEntries (next :: pairs) kept)
    (larger : first.1 < next.1)
    (sorted : (next :: pairs).Pairwise fun one other => toLex one ≤ toLex other) :
    LeastEntries (first :: next :: pairs) (first :: kept) := by
  have above (other : α × β) (isOther : other ∈ next :: pairs) : first.1 < other.1 := by
    rcases List.mem_cons.mp isOther with rfl | later
    · exact larger
    · exact larger.trans_le (Prod.Lex.monotone_fst _ _ (List.rel_of_pairwise_cons sorted later))
  refine ⟨?increasing, ?keys, ?member, ?least⟩
  case increasing =>
    rw [List.map_cons, List.pairwise_cons]
    refine ⟨?_, least.increasing⟩
    intro key isKey
    obtain ⟨entry, isKept, rfl⟩ := List.mem_map.mp isKey
    exact above entry (least.member entry isKept)
  case keys =>
    intro key
    rw [List.map_cons, List.map_cons, List.mem_cons, List.mem_cons, least.keys]
  case member =>
    intro entry isKept
    exact List.mem_cons.mpr ((List.mem_cons.mp isKept).imp_right (least.member entry))
  case least =>
    intro entry isKept other isOther sameKey
    rcases List.mem_cons.mp isKept with rfl | later <;>
      rcases List.mem_cons.mp isOther with rfl | laterOther
    · exact le_rfl
    · exact absurd sameKey (above other laterOther).ne'
    · exact absurd sameKey (above entry (least.member entry later)).ne
    · exact least.least entry later other laterOther sameKey

/-- An entry after one with its key is left out. -/
theorem LeastEntries.cons_of_eq (least : LeastEntries (first :: pairs) kept)
    (sameKey : first.1 = next.1) (before : first.2 ≤ next.2) :
    LeastEntries (first :: next :: pairs) kept := by
  refine ⟨least.increasing, ?keys, ?member, ?least⟩
  case keys =>
    intro key
    rw [least.keys]
    simp [← sameKey]
  case member =>
    intro entry isKept
    rcases List.mem_cons.mp (least.member entry isKept) with rfl | later
    · exact List.mem_cons_self
    · exact List.mem_cons_of_mem _ (List.mem_cons_of_mem _ later)
  case least =>
    intro entry isKept other isOther ofKey
    rcases List.mem_cons.mp isOther with rfl | later
    · exact least.least entry isKept other List.mem_cons_self ofKey
    · rcases List.mem_cons.mp later with rfl | later
      · exact (least.least entry isKept first List.mem_cons_self
          (sameKey.trans ofKey)).trans before
      · exact least.least entry isKept other (List.mem_cons_of_mem _ later) ofKey

theorem leastEntries_of_sorted
    (sorted : (first :: pairs).Pairwise fun one other => toLex one ≤ toLex other) :
    LeastEntries (first :: pairs)
      (pairs.destutter' (fun one other => one.1 ≠ other.1) first) := by
  induction pairs generalizing first with
  | nil => exact ⟨by simp, by simp, by simp, by simp⟩
  | cons next pairs inductionHypothesis =>
      obtain ⟨firstBefore, later⟩ := List.pairwise_cons.mp sorted
      have order := Prod.Lex.toLex_le_toLex.mp (firstBefore next List.mem_cons_self)
      by_cases sameKey : first.1 = next.1
      · rw [List.destutter'_cons_neg _ (not_not.mpr sameKey)]
        have before : first.2 ≤ next.2 :=
          order.elim (fun larger => absurd sameKey larger.ne) And.right
        have rest : (first :: pairs).Pairwise fun one other => toLex one ≤ toLex other :=
          List.pairwise_cons.mpr ⟨fun other isOther =>
            firstBefore other (List.mem_cons_of_mem _ isOther), (List.pairwise_cons.mp later).2⟩
        exact (inductionHypothesis rest).cons_of_eq sameKey before
      · rw [List.destutter'_cons_pos _ sameKey]
        have larger : first.1 < next.1 :=
          order.elim id fun equal => absurd equal.1 sameKey
        exact (inductionHypothesis later).cons_of_lt larger later

end Runs

/-- Sorting and then dropping the repeated keys leaves the least entry of each key. -/
theorem leastEntries (pairs : List (α × β)) :
    LeastEntries pairs (dedupByKey (sortPairs pairs)) := by
  refine LeastEntries.of_perm ?_ (sortPairs_perm pairs)
  have sorted := sortPairs_sorted pairs
  cases listed : sortPairs pairs with
  | nil => exact ⟨by simp [dedupByKey], by simp [dedupByKey], by simp [dedupByKey],
      by simp [dedupByKey]⟩
  | cons first pairs =>
      rw [listed] at sorted
      exact leastEntries_of_sorted sorted

/-! ## Sums over the kept entries -/

/-- Nothing is lost by keeping one entry for each key, exactly if each of them is worth what
all entries of its key are. -/
theorem LeastEntries.sum_eq_iff {pairs kept : List (α × β)} (value : β → Nat)
    (least : LeastEntries pairs kept) :
    (kept.map fun entry => value entry.2).sum = (pairs.map fun entry => value entry.2).sum ↔
      ∀ entry ∈ kept, keyTotal value pairs entry.1 = value entry.2 := by
  have distinct : (kept.map Prod.fst).Nodup := least.increasing.imp ne_of_lt
  have covered : ∀ entry ∈ pairs, entry.1 ∈ kept.map Prod.fst := fun entry isEntry =>
    (least.keys entry.1).mpr (List.mem_map_of_mem isEntry)
  have part (entry : α × β) (isKept : entry ∈ kept) :
      value entry.2 ≤ keyTotal value pairs entry.1 := by
    refine List.le_sum_of_mem (List.mem_map.mpr ⟨entry, List.mem_filter.mpr ⟨?_, ?_⟩, rfl⟩)
    · exact least.member entry isKept
    · exact decide_eq_true rfl
  rw [← sum_keyTotal value distinct covered, List.map_map]
  exact sum_map_eq_iff part

end LeastOfKey
