/-
Module: Airdrop.Proofs.FilteredLists
Purpose: What the list that `process_filter_list_fixed` writes has in common with the list
  that it read, for all lists that it does not stop at.
Trusted boundary: none
Main exports: rowsOf, AllocationsKept, LeastRowSuffices, filterListFixed_keeps_iff
-/
import Airdrop.Cli.FilterList
import Airdrop.Proofs.Sharding

namespace Airdrop

open Checked LeastOfKey

section Lists

variable (texts : Texts)

/-- The pairs that the loop collects. -/
def validPairs (entries : List CsvEntry) : List (Pubkey × String) :=
  entries.filterMap fun entry =>
    (texts.parsePubkey entry.pubkey).map fun key => (key, entry.amount)

/-- The rows of a key. -/
def rowsOf (entries : List CsvEntry) (key : Pubkey) : List CsvEntry :=
  entries.filter fun entry => texts.parsePubkey entry.pubkey = some key

/-- What an amount is worth in tokens, where its text is a number. -/
def tokensOf (decimals : U32) (amount : String) : U64 :=
  match (uiAmountToTokenAmount texts amount decimals : Except (Stop MerkleTreeError) U64) with
  | .ok tokens => tokens
  | .error _ => 0

/-- What is asked of the rows of the new list and of the total that is reported. -/
structure AllocationsKept (decimals : U32) (entries rows : List CsvEntry)
    (totalAmount : U64) : Prop where
  keys : ∃ keys : List Pubkey,
    rows.map (fun row => texts.parsePubkey row.pubkey) = keys.map some ∧
    keys.Pairwise (· < ·) ∧
    ∀ key, key ∈ keys ↔ ∃ entry ∈ entries, texts.parsePubkey entry.pubkey = some key
  complete : ∀ row ∈ rows, ∃ entry ∈ entries,
    texts.parsePubkey entry.pubkey = texts.parsePubkey row.pubkey ∧
    entry.amount = row.amount ∧ entry.lockedAmount = row.lockedAmount
  totalled : ∃ amounts : List U64,
    rows.mapM (fun row => uiAmountToTokenAmount texts row.amount decimals) =
      (.ok amounts : Except (Stop MerkleTreeError) _) ∧
    totalAmount.toNat = (amounts.map BitVec.toNat).sum

/-- The amount of a key whose text comes first. -/
structure LeastAmount (entries : List CsvEntry) (key : Pubkey) (amount : String) : Prop where
  isAmount : ∃ entry ∈ rowsOf texts entries key, entry.amount = amount
  least : ∀ entry ∈ rowsOf texts entries key, amount ≤ entry.amount

/-- For each key the rows other than one with the first text for an amount can go: a row of
that amount has no locked part, and the other rows together are worth nothing. -/
structure LeastRowSuffices (decimals : U32) (entries : List CsvEntry) : Prop where
  unlocked : ∀ key amount, LeastAmount texts entries key amount →
    ∃ entry ∈ rowsOf texts entries key, entry.amount = amount ∧ entry.lockedAmount = none
  unrepeated : ∀ key amount, LeastAmount texts entries key amount →
    ((rowsOf texts entries key).map fun entry =>
      (tokensOf texts decimals entry.amount).toNat).sum =
        (tokensOf texts decimals amount).toNat

variable {texts} {decimals : U32} {entries : List CsvEntry}

theorem mem_rowsOf {key : Pubkey} {entry : CsvEntry} :
    entry ∈ rowsOf texts entries key ↔
      entry ∈ entries ∧ texts.parsePubkey entry.pubkey = some key := by
  simp [rowsOf]

theorem mem_validPairs {key : Pubkey} {amount : String} :
    (key, amount) ∈ validPairs texts entries ↔
      ∃ entry ∈ rowsOf texts entries key, entry.amount = amount := by
  simp only [validPairs, List.mem_filterMap, Option.map_eq_some_iff, Prod.mk.injEq, mem_rowsOf]
  constructor
  · rintro ⟨entry, isEntry, parsed, isKey, rfl, rfl⟩
    exact ⟨entry, ⟨isEntry, isKey⟩, rfl⟩
  · rintro ⟨entry, ⟨isEntry, isKey⟩, rfl⟩
    exact ⟨entry, isEntry, key, isKey, rfl, rfl⟩

theorem keyTotal_validPairs (value : String → Nat) (key : Pubkey) :
    keyTotal value (validPairs texts entries) key =
      ((rowsOf texts entries key).map fun entry => value entry.amount).sum := by
  induction entries with
  | nil => rfl
  | cons entry entries inductionHypothesis =>
      unfold keyTotal validPairs rowsOf at inductionHypothesis ⊢
      cases parsed : texts.parsePubkey entry.pubkey with
      | none => simpa [parsed] using inductionHypothesis
      | some other =>
          by_cases same : other = key
          · simpa [parsed, same] using inductionHypothesis
          · simpa [parsed, same] using inductionHypothesis

theorem rowsOf_eq_singleton {key : Pubkey} {entry : CsvEntry}
    (distinct : entries.Pairwise fun one other =>
      texts.parsePubkey one.pubkey ≠ texts.parsePubkey other.pubkey)
    (isRow : entry ∈ rowsOf texts entries key) : rowsOf texts entries key = [entry] := by
  have different : (rowsOf texts entries key).Pairwise fun one other =>
      texts.parsePubkey one.pubkey ≠ texts.parsePubkey other.pubkey :=
    distinct.sublist List.filter_sublist
  have ofKey : ∀ row ∈ rowsOf texts entries key, texts.parsePubkey row.pubkey = some key :=
    fun row member => (mem_rowsOf.mp member).2
  cases rows : rowsOf texts entries key with
  | nil => exact absurd (rows ▸ isRow) List.not_mem_nil
  | cons one others =>
      rw [rows] at isRow different ofKey
      cases others with
      | nil => rw [List.mem_singleton.mp isRow]
      | cons other others =>
          have same := (ofKey one (by simp)).trans (ofKey other (by simp)).symm
          exact absurd same ((List.pairwise_cons.mp different).1 other (by simp))

/-- So it is for a list without repetitions in which nothing is locked. -/
theorem LeastRowSuffices.of_distinct
    (distinct : entries.Pairwise fun one other =>
      texts.parsePubkey one.pubkey ≠ texts.parsePubkey other.pubkey)
    (unlocked : ∀ entry ∈ entries, entry.lockedAmount = none) :
    LeastRowSuffices texts decimals entries where
  unlocked := by
    rintro key amount ⟨⟨entry, isRow, isAmount⟩, _⟩
    exact ⟨entry, isRow, isAmount, unlocked entry (mem_rowsOf.mp isRow).1⟩
  unrepeated := by
    rintro key amount ⟨⟨entry, isRow, rfl⟩, _⟩
    rw [rowsOf_eq_singleton distinct isRow]
    simp

/-! ## The loop -/

theorem tokensOf_eq {amount : String} {tokens : U64}
    (converted : (uiAmountToTokenAmount texts amount decimals :
      Except (Stop MerkleTreeError) U64) = .ok tokens) :
    tokensOf texts decimals amount = tokens := by
  rw [tokensOf, converted]

/-- The loop keeps the pairs and adds up what they are worth. -/
theorem foldlM_collectEntry {filterListArgs : FilterListFixedArgs}
    {start fullList : List (Pubkey × String)} {startTotal totalAmount : U64}
    (collected : entries.foldlM (collectEntry texts filterListArgs) (start, startTotal) =
      .ok (fullList, totalAmount)) :
    fullList = start ++ validPairs texts entries ∧
    (∀ pair ∈ validPairs texts entries,
      (uiAmountToTokenAmount texts pair.2 filterListArgs.decimals :
        Except (Stop MerkleTreeError) U64) =
          .ok (tokensOf texts filterListArgs.decimals pair.2)) ∧
    totalAmount.toNat = startTotal.toNat + ((validPairs texts entries).map fun pair =>
      (tokensOf texts filterListArgs.decimals pair.2).toNat).sum := by
  induction entries generalizing start startTotal with
  | nil =>
      cases collected
      simp [validPairs]
  | cons entry entries inductionHypothesis =>
      rw [List.foldlM_cons, bind_eq_ok] at collected
      obtain ⟨⟨next, nextTotal⟩, turn, later⟩ := collected
      obtain ⟨rfl, converted, total⟩ := inductionHypothesis later
      unfold collectEntry at turn
      cases parsed : texts.parsePubkey entry.pubkey with
      | none =>
          have skipped : validPairs texts (entry :: entries) = validPairs texts entries := by
            simp [validPairs, parsed]
          rw [parsed] at turn
          cases turn
          rw [skipped]
          exact ⟨rfl, converted, total⟩
      | some key =>
          have added : validPairs texts (entry :: entries) =
              (key, entry.amount) :: validPairs texts entries := by
            simp [validPairs, parsed]
          rw [parsed] at turn
          simp only [bind_eq_ok, unwrap_eq_ok, checkedAdd_eq_some, pure_eq, Except.ok.injEq,
            Prod.mk.injEq] at turn
          obtain ⟨amount, isAmount, sum, isSum, rfl, rfl⟩ := turn
          have tokens := tokensOf_eq isAmount
          rw [added]
          refine ⟨by simp, List.forall_mem_cons.mpr ⟨?_, converted⟩, ?_⟩
          · rw [tokens]
            exact isAmount
          · rw [List.map_cons, List.sum_cons, tokens]
            omega

/-! ## The new list -/

variable (texts) in
/-- The rows of the file that is written. -/
def writtenRows (pairs : List (Pubkey × String)) : List CsvEntry :=
  pairs.map fun pair =>
    { pubkey := texts.pubkeyText pair.1, amount := pair.2, lockedAmount := none }

theorem newFromFile_written (pairs : List (Pubkey × String)) :
    CsvEntry.newFromFile
      { headers := ["pubkey", "amount"]
        records := pairs.map fun address => [texts.pubkeyText address.1, address.2] } =
      .ok (writtenRows texts pairs) := by
  have reads (pair : Pubkey × String) :
      CsvEntry.deserialize ["pubkey", "amount"] [texts.pubkeyText pair.1, pair.2] =
        some { pubkey := texts.pubkeyText pair.1, amount := pair.2, lockedAmount := none } := by
    simp [CsvEntry.deserialize, fieldsNamed]
  rw [CsvEntry.newFromFile, mapM_eq_ok, writtenRows, List.forall₂_map_left_iff,
    List.forall₂_map_right_iff, List.forall₂_same]
  intro pair _
  exact unwrap_eq_ok.mpr (reads pair)

variable {filterListArgs : FilterListFixedArgs} {csv : CsvFile} {filtered : FilteredList}
  {kept : List (Pubkey × String)}

/-- What the command reports and writes, for the entries that it read. -/
theorem processFilterListFixed_spec (read : CsvEntry.newFromFile csv = .ok entries)
    (returned : processFilterListFixed texts filterListArgs csv = .ok filtered) :
    (∀ pair ∈ validPairs texts entries,
      (uiAmountToTokenAmount texts pair.2 filterListArgs.decimals :
        Except (Stop MerkleTreeError) U64) =
          .ok (tokensOf texts filterListArgs.decimals pair.2)) ∧
    filtered.totalAmount.toNat = ((validPairs texts entries).map fun pair =>
      (tokensOf texts filterListArgs.decimals pair.2).toNat).sum ∧
    ∃ kept, LeastEntries (validPairs texts entries) kept ∧
      CsvEntry.newFromFile filtered.destination = .ok (writtenRows texts kept) := by
  simp only [processFilterListFixed, read, bind_eq_ok, unwrapCall_eq_ok, Except.ok.injEq,
    exists_eq_left', pure_eq] at returned
  obtain ⟨⟨fullList, totalAmount⟩, collected, rfl⟩ := returned
  obtain ⟨isList, converted, total⟩ := foldlM_collectEntry collected
  rw [List.nil_append] at isList
  refine ⟨converted, total.trans (Nat.zero_add _), _, ?_, newFromFile_written _⟩
  rw [← isList]
  exact leastEntries fullList

/-- The pairs that are kept are the first amounts of the keys. -/
theorem mem_kept_iff (least : LeastEntries (validPairs texts entries) kept) {key : Pubkey}
    {amount : String} : (key, amount) ∈ kept ↔ LeastAmount texts entries key amount := by
  constructor
  · intro isKept
    refine ⟨mem_validPairs.mp (least.member _ isKept), ?_⟩
    intro entry isRow
    exact least.least _ isKept (key, entry.amount) (mem_validPairs.mpr ⟨entry, isRow, rfl⟩) rfl
  · rintro ⟨isAmount, first⟩
    have isPair := mem_validPairs.mpr isAmount
    have isKey := (least.keys key).mpr (List.mem_map.mpr ⟨_, isPair, rfl⟩)
    obtain ⟨⟨_, other⟩, isKept, rfl⟩ := List.mem_map.mp isKey
    obtain ⟨entry, isRow, isOther⟩ := mem_validPairs.mp (least.member _ isKept)
    have same : other = amount :=
      le_antisymm (least.least _ isKept _ isPair rfl) (isOther ▸ first entry isRow)
    exact same ▸ isKept

/-- The rows are complete where the first amounts stand in rows without a locked part. -/
theorem complete_iff (least : LeastEntries (validPairs texts entries) kept) :
    (∀ row ∈ writtenRows texts kept, ∃ entry ∈ entries,
      texts.parsePubkey entry.pubkey = texts.parsePubkey row.pubkey ∧
      entry.amount = row.amount ∧ entry.lockedAmount = row.lockedAmount) ↔
    ∀ key amount, LeastAmount texts entries key amount →
      ∃ entry ∈ rowsOf texts entries key, entry.amount = amount ∧ entry.lockedAmount = none := by
  simp only [writtenRows, List.forall_mem_map, texts.parse_text, mem_rowsOf, and_assoc]
  constructor
  · intro complete key amount first
    exact complete (key, amount) ((mem_kept_iff least).mpr first)
  · rintro unlocked ⟨key, amount⟩ isKept
    exact unlocked key amount ((mem_kept_iff least).mp isKept)

/-- The total is that of the new rows where the other rows of the keys are worth nothing. -/
theorem totalled_iff {totalAmount : U64}
    (least : LeastEntries (validPairs texts entries) kept)
    (converted : ∀ pair ∈ validPairs texts entries,
      (uiAmountToTokenAmount texts pair.2 decimals : Except (Stop MerkleTreeError) U64) =
        .ok (tokensOf texts decimals pair.2))
    (total : totalAmount.toNat = ((validPairs texts entries).map fun pair =>
      (tokensOf texts decimals pair.2).toNat).sum) :
    (∃ amounts : List U64,
      (writtenRows texts kept).mapM
          (fun row => uiAmountToTokenAmount texts row.amount decimals) =
        (.ok amounts : Except (Stop MerkleTreeError) _) ∧
      totalAmount.toNat = (amounts.map BitVec.toNat).sum) ↔
    ∀ key amount, LeastAmount texts entries key amount →
      ((rowsOf texts entries key).map fun entry =>
        (tokensOf texts decimals entry.amount).toNat).sum =
          (tokensOf texts decimals amount).toNat := by
  have rowAmounts : (writtenRows texts kept).mapM
      (fun row => uiAmountToTokenAmount texts row.amount decimals) =
        (.ok ((writtenRows texts kept).map fun row =>
          tokensOf texts decimals row.amount) : Except (Stop MerkleTreeError) _) := by
    refine mapM_eq_ok_map fun row isRow => ?_
    obtain ⟨pair, isKept, rfl⟩ := List.mem_map.mp isRow
    exact converted pair (least.member pair isKept)
  have rowSum : (((writtenRows texts kept).map fun row =>
      tokensOf texts decimals row.amount).map BitVec.toNat).sum =
        (kept.map fun pair => (tokensOf texts decimals pair.2).toNat).sum := by
    rw [writtenRows, List.map_map, List.map_map]
    rfl
  have sums := least.sum_eq_iff fun amount => (tokensOf texts decimals amount).toNat
  simp only [keyTotal_validPairs] at sums
  rw [rowAmounts]
  simp only [Except.ok.injEq, exists_eq_left']
  rw [rowSum, total, eq_comm, sums]
  constructor
  · intro unrepeated key amount first
    exact unrepeated (key, amount) ((mem_kept_iff least).mpr first)
  · rintro unrepeated ⟨key, amount⟩ isKept
    exact unrepeated key amount ((mem_kept_iff least).mp isKept)

/-- The new list keeps each recipient's allocation exactly if for each key the rows other
than the first one can go. -/
theorem filterListFixed_keeps_iff (read : CsvEntry.newFromFile csv = .ok entries)
    (returned : processFilterListFixed texts filterListArgs csv = .ok filtered) :
    (∃ rows, CsvEntry.newFromFile filtered.destination = .ok rows ∧
      AllocationsKept texts filterListArgs.decimals entries rows filtered.totalAmount) ↔
    LeastRowSuffices texts filterListArgs.decimals entries := by
  obtain ⟨converted, total, kept, least, written⟩ := processFilterListFixed_spec read returned
  have complete := complete_iff least
  have totalled := totalled_iff least converted total
  rw [written]
  simp only [Except.ok.injEq, exists_eq_left']
  constructor
  · intro allocations
    exact ⟨complete.mp allocations.complete, totalled.mp allocations.totalled⟩
  · intro enough
    refine ⟨⟨kept.map Prod.fst, ?_, least.increasing, ?_⟩, complete.mpr enough.unlocked,
      totalled.mpr enough.unrepeated⟩
    · rw [writtenRows, List.map_map, List.map_map]
      exact List.map_congr_left fun pair _ => texts.parse_text pair.1
    · intro key
      rw [least.keys]
      simp only [validPairs, List.mem_map, List.mem_filterMap, Option.map_eq_some_iff]
      constructor
      · rintro ⟨pair, ⟨entry, isEntry, parsed, isKey, rfl⟩, rfl⟩
        exact ⟨entry, isEntry, isKey⟩
      · rintro ⟨entry, isEntry, isKey⟩
        exact ⟨_, ⟨entry, isEntry, key, isKey, rfl⟩, rfl⟩

end Lists

section Sample

/-- Bob and Alice, and a text that is not a key. -/
def distinctCsv : CsvFile :=
  { headers := ["pubkey", "amount"]
    records := [[Base58.encode bob, "2"], ["nobody", "5"], [Base58.encode alice, "1"]] }

/-- The entries of `distinctCsv`. -/
def distinctEntries : List CsvEntry :=
  [{ pubkey := Base58.encode bob, amount := "2", lockedAmount := none },
   { pubkey := "nobody", amount := "5", lockedAmount := none },
   { pubkey := Base58.encode alice, amount := "1", lockedAmount := none }]

/-- What becomes of them. -/
def distinctFiltered : FilteredList :=
  { totalAmount := 300
    destination :=
      { headers := ["pubkey", "amount"]
        records := [[Base58.encode alice, "1"], [Base58.encode bob, "2"]] } }

theorem filterListFixed_keeps_iff_sample :
    ∃ rows, CsvEntry.newFromFile distinctFiltered.destination = .ok rows ∧
      AllocationsKept base58Texts 2 distinctEntries rows distinctFiltered.totalAmount :=
  (@filterListFixed_keeps_iff base58Texts distinctEntries { decimals := 2 } distinctCsv
    distinctFiltered (by decide +kernel) (by decide +kernel)).mpr
      (.of_distinct (by decide +kernel) (by decide +kernel))

/-- Two rows of Alice's, of which one is kept and both are in the total. -/
def repeatedCsv : CsvFile :=
  { headers := ["pubkey", "amount"]
    records := [[Base58.encode alice, "1"], [Base58.encode alice, "4"]] }

/-- A row of Alice's with a locked part. -/
def lockedCsv : CsvFile :=
  { headers := ["pubkey", "amount", "locked_amount"]
    records := [[Base58.encode alice, "1", "3"]] }

/-- The row that is left of both lists. -/
def aliceLeft : CsvFile :=
  { headers := ["pubkey", "amount"], records := [[Base58.encode alice, "1"]] }

/-- The total of the first list is that of both rows, and the second list loses the locked
part. -/
theorem allocations_lost :
    processFilterListFixed base58Texts { decimals := 2 } repeatedCsv =
      .ok { totalAmount := 500, destination := aliceLeft } ∧
    processFilterListFixed base58Texts { decimals := 2 } lockedCsv =
      .ok { totalAmount := 100, destination := aliceLeft } ∧
    (∀ entries, CsvEntry.newFromFile repeatedCsv = .ok entries →
      ¬ ∃ rows, CsvEntry.newFromFile aliceLeft = .ok rows ∧
        AllocationsKept base58Texts 2 entries rows 500) ∧
    ∀ entries, CsvEntry.newFromFile lockedCsv = .ok entries →
      ¬ ∃ rows, CsvEntry.newFromFile aliceLeft = .ok rows ∧
        AllocationsKept base58Texts 2 entries rows 100 := by
  have left : CsvEntry.newFromFile aliceLeft =
      .ok [{ pubkey := Base58.encode alice, amount := "1", lockedAmount := none }] :=
    @newFromFile_written base58Texts [(alice, "1")]
  have locked : CsvEntry.newFromFile lockedCsv =
      .ok [{ pubkey := Base58.encode alice, amount := "1", lockedAmount := some "3" }] := by
    simp [lockedCsv, CsvEntry.newFromFile, CsvEntry.deserialize, fieldsNamed]
  have hundred : [({ pubkey := Base58.encode alice, amount := "1", lockedAmount := none } :
      CsvEntry)].mapM (fun row => uiAmountToTokenAmount base58Texts row.amount 2) =
        (.ok [100] : Except (Stop MerkleTreeError) _) := by
    decide +kernel
  refine ⟨by decide +kernel, by decide +kernel, ?_, ?_⟩
  · rintro entries - ⟨rows, written, kept⟩
    cases left.symm.trans written
    obtain ⟨amounts, converted, total⟩ := kept.totalled
    cases hundred.symm.trans converted
    exact absurd total (by decide)
  · rintro entries read ⟨rows, written, kept⟩
    cases locked.symm.trans read
    cases left.symm.trans written
    obtain ⟨entry, isEntry, _, _, lockedAmount⟩ := kept.complete _ List.mem_cons_self
    rw [List.mem_singleton.mp isEntry] at lockedAmount
    cases lockedAmount

end Sample

end Airdrop
