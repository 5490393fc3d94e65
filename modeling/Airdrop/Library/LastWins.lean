/-
Module: Airdrop.Library.LastWins
Purpose: Maps filled by a sequence of insertions, where a later one replaces an
  earlier one under the same key, and maps merged in an order of precedence.
Trusted boundary: none
Main exports: Map, insertAll, lastValue, lookup_insertAll, lastValue_append,
  lastValue_eq_some, merge, lookup_merge_append
-/
import Mathlib.Data.List.AList
import Mathlib.Data.List.Nodup

namespace LastWins

variable {Key Value : Type*}

abbrev Map (Key Value : Type*) := AList fun _ : Key => Value

variable [DecidableEq Key]

/-! ## Insertions -/

/-- Insert entries one after another. -/
def insertAll (map : Map Key Value) (entries : List (Key × Value)) : Map Key Value :=
  entries.foldl (fun map entry => map.insert entry.1 entry.2) map

/-- The value of the last entry with a key. -/
def lastValue : List (Key × Value) → Key → Option Value
  | [], _ => none
  | entry :: entries, key =>
      (lastValue entries key).or (if entry.1 = key then some entry.2 else none)

theorem lastValue_append (first second : List (Key × Value)) (key : Key) :
    lastValue (first ++ second) key = (lastValue second key).or (lastValue first key) := by
  induction first with
  | nil => rw [List.nil_append, lastValue, Option.or_none]
  | cons entry first inductionHypothesis =>
      rw [List.cons_append, lastValue, inductionHypothesis, lastValue, Option.or_assoc]

theorem lastValue_singleton (entry : Key × Value) (key : Key) :
    lastValue [entry] key = if entry.1 = key then some entry.2 else none := by
  rw [lastValue, lastValue, Option.none_or]

theorem lookup_insert_eq (map : Map Key Value) (entry : Key × Value) (key : Key) :
    (map.insert entry.1 entry.2).lookup key =
      (if entry.1 = key then some entry.2 else none).or (map.lookup key) := by
  split
  · rename_i same
    rw [← same, AList.lookup_insert, Option.some_or]
  · rename_i other
    rw [AList.lookup_insert_ne (Ne.symm other), Option.none_or]

/-- The map holds under each key what was inserted last. -/
theorem lookup_insertAll (map : Map Key Value) (entries : List (Key × Value)) (key : Key) :
    (insertAll map entries).lookup key = (lastValue entries key).or (map.lookup key) := by
  induction entries generalizing map with
  | nil => rfl
  | cons entry entries inductionHypothesis =>
      change (insertAll (map.insert entry.1 entry.2) entries).lookup key = _
      rw [inductionHypothesis, lookup_insert_eq, lastValue, Option.or_assoc]

/-- Nothing is found under a key that was never inserted. -/
theorem lastValue_eq_none {entries : List (Key × Value)} {key : Key} :
    lastValue entries key = none ↔ key ∉ entries.map Prod.fst := by
  induction entries with
  | nil => simp [lastValue]
  | cons entry entries inductionHypothesis =>
      rw [lastValue, Option.or_eq_none_iff, inductionHypothesis, List.map_cons,
        List.mem_cons, not_or, and_comm, ite_eq_right_iff]
      simp [eq_comm]

/-- What is found was inserted. -/
theorem mem_of_lastValue {entries : List (Key × Value)} {key : Key} {value : Value}
    (found : lastValue entries key = some value) : (key, value) ∈ entries := by
  induction entries with
  | nil => cases found
  | cons entry entries inductionHypothesis =>
      rw [lastValue, Option.or_eq_some_iff] at found
      rcases found with later | ⟨_, here⟩
      · exact List.mem_cons_of_mem _ (inductionHypothesis later)
      · split at here
        · rename_i same
          rw [← same, ← Option.some.inj here]
          exact List.mem_cons_self
        · cases here

/-- Among entries with distinct keys, every entry is found. -/
theorem lastValue_of_mem {entries : List (Key × Value)}
    (distinct : (entries.map Prod.fst).Nodup) {key : Key} {value : Value}
    (member : (key, value) ∈ entries) : lastValue entries key = some value := by
  induction entries with
  | nil => cases member
  | cons entry entries inductionHypothesis =>
      rw [List.map_cons, List.nodup_cons] at distinct
      rw [lastValue]
      rcases List.mem_cons.mp member with rfl | later
      · rw [lastValue_eq_none.mpr distinct.1, Option.none_or, if_pos rfl]
      · rw [inductionHypothesis distinct.2 later, Option.some_or]

/-- Renaming the keys without a clash renames what is found. -/
theorem lastValue_map {Name Other : Type*} [DecidableEq Name] {name : Key → Name}
    (injective : Function.Injective name) (image : Value → Other)
    (entries : List (Key × Value)) (key : Key) :
    lastValue (entries.map fun entry => (name entry.1, image entry.2)) (name key) =
      (lastValue entries key).map image := by
  induction entries with
  | nil => rfl
  | cons entry entries inductionHypothesis =>
      rw [List.map_cons, lastValue, inductionHypothesis, lastValue, Option.map_or]
      congr 1
      by_cases same : entry.1 = key
      · rw [if_pos (congrArg name same), if_pos same]
        rfl
      · rw [if_neg fun clash => same (injective clash), if_neg same]
        rfl

/-- Of groups of entries that are inserted one after another, the last group with a
key decides about it. -/
theorem lastValue_flatMap {Group : Type*} {entries : Group → List (Key × Value)}
    {before after : List Group} {group : Group} {key : Key}
    (here : key ∈ (entries group).map Prod.fst)
    (notLater : ∀ other ∈ after, key ∉ (entries other).map Prod.fst) :
    lastValue ((before ++ group :: after).flatMap entries) key =
      lastValue (entries group) key := by
  have none : lastValue (after.flatMap entries) key = none := by
    rw [lastValue_eq_none]
    intro member
    obtain ⟨entry, isEntry, rfl⟩ := List.mem_map.mp member
    obtain ⟨other, isOther, inside⟩ := List.mem_flatMap.mp isEntry
    exact notLater other isOther (List.mem_map_of_mem inside)
  obtain ⟨value, found⟩ : ∃ value, lastValue (entries group) key = some value := by
    rw [← Option.isSome_iff_exists, ← Option.ne_none_iff_isSome]
    exact fun missing => lastValue_eq_none.mp missing here
  rw [List.flatMap_append, List.flatMap_cons, lastValue_append, lastValue_append, none,
    found, Option.none_or, Option.some_or]

/-- Of the groups with a key, one is the last. -/
theorem exists_last {Group : Type*} {groups : List Group} {Has : Group → Prop}
    (some : ∃ group ∈ groups, Has group) :
    ∃ before group after, groups = before ++ group :: after ∧ Has group ∧
      ∀ other ∈ after, ¬ Has other := by
  classical
  induction groups with
  | nil =>
      obtain ⟨_, member, _⟩ := some
      cases member
  | cons first groups inductionHypothesis =>
      by_cases later : ∃ group ∈ groups, Has group
      · obtain ⟨before, group, after, rfl, has, last⟩ := inductionHypothesis later
        exact ⟨first :: before, group, after, rfl, has, last⟩
      · obtain ⟨group, member, has⟩ := some
        rcases List.mem_cons.mp member with rfl | isLater
        · exact ⟨[], group, groups, rfl, has, fun other isOther hasOther =>
            later ⟨other, isOther, hasOther⟩⟩
        · exact absurd ⟨group, isLater, has⟩ later

/-! ## Merging -/

/-- Maps merged in their order: a later one replaces what an earlier one holds. -/
def merge (maps : List (Map Key Value)) : Map Key Value :=
  maps.foldl (fun merged map => map ∪ merged) ∅

theorem lookup_union_eq (first second : Map Key Value) (key : Key) :
    (first ∪ second).lookup key = (first.lookup key).or (second.lookup key) := by
  by_cases present : key ∈ first
  · rw [AList.lookup_union_left present]
    obtain ⟨value, found⟩ := Option.isSome_iff_exists.mp (AList.lookup_isSome.mpr present)
    rw [found, Option.some_or]
  · rw [AList.lookup_union_right present, AList.lookup_eq_none.mpr present,
      Option.none_or]

theorem lookup_merge_append (maps : List (Map Key Value)) (map : Map Key Value)
    (key : Key) :
    (merge (maps ++ [map])).lookup key = (map.lookup key).or ((merge maps).lookup key) := by
  rw [merge, List.foldl_append]
  exact lookup_union_eq map (merge maps) key

/-! ## Sizes -/

theorem length_insert_le (map : Map Key Value) (key : Key) (value : Value) :
    (map.insert key value).keys.length ≤ map.keys.length + 1 := by
  rw [AList.keys_insert, List.length_cons]
  exact Nat.add_le_add_right List.length_erase_le 1

end LastWins
