/-
Module: Airdrop.Proofs.Serving
Purpose: What the server answers for the keys of an allocation list, and when that is
  the whole allocation of a key.
Trusted boundary: none
Main exports: fileRows, ServedInFull, WholeInOneFile, served_from_last,
  served_in_full_iff
-/
import Airdrop.Proofs.ServerSpecs
import Airdrop.Proofs.Sharding
import Mathlib.Algebra.Order.BigOperators.Group.List

namespace Airdrop

open Checked Blocks LastWins

/-- The rows that the files are built from, one list for each file. -/
def fileRows (texts : Texts) (args : CreateMerkleTreeArgs)
    (rows testRows : List TreeNode) : List (List TreeNode) :=
  blocks args.maxNodesPerTree.toNat (keptRows texts args rows) ++
    if args.shouldIncludeTestList then [testRows] else []

/-- The request for a key is answered with all that the rows hold for the key, and the
answer names the distributor of a tree that accepts its proof. -/
def ServedInFull (sha256 : Bytes → Hash)
    (findProgramAddress : List Bytes → Pubkey → Pubkey × UInt8) (texts : Texts)
    (apiArgs : ApiArgs) (files : List TreeFile) (state : RouterState)
    (rows : List TreeNode) (key : Pubkey) : Prop :=
  ∃ record, getUserInfo texts state (texts.pubkeyText key) = .ok record ∧
    record.amount.toNat = claimantSum false key rows ∧
    record.lockedAmount.toNat = claimantSum true key rows ∧
    ∃ file ∈ files,
      record.merkleTree =
        texts.pubkeyText (distributorOf findProgramAddress apiArgs file.tree) ∧
      verify sha256 record.proof file.tree.merkleRoot
        (claimLeaf sha256 key record.amount record.lockedAmount) = true

/-- All that the rows hold for the key goes into the file that comes last, by name,
among those with the key: of two such files the earlier one has nothing for it.  A test
wallet, whose rows are taken out, has in the list what the test list gives it. -/
def WholeInOneFile (texts : Texts) (args : CreateMerkleTreeArgs)
    (rows testRows : List TreeNode) (key : Pubkey) : Prop :=
  if args.shouldIncludeTestList = true ∧ OnTestList texts key then
    ∀ locked, claimantSum locked key rows = claimantSum locked key testRows
  else
    ∀ i j group other, (fileRows texts args rows testRows)[i]? = some group →
      (fileRows texts args rows testRows)[j]? = some other →
      treeFileName (BitVec.ofNat 64 j) < treeFileName (BitVec.ofNat 64 i) →
      key ∈ group.map TreeNode.claimant →
      ∀ locked, claimantSum locked key other = 0

/-! ## The files and their rows -/

section Files

variable {sha256 : Bytes → Hash} {texts : Texts} {args : CreateMerkleTreeArgs}
variable {rows testRows : List TreeNode} {files : List TreeFile}

/-- Different numbers make different names. -/
theorem treeFileName_injective {one other : Nat} (oneFits : one < 2 ^ 64)
    (otherFits : other < 2 ^ 64)
    (same : treeFileName (BitVec.ofNat 64 one) = treeFileName (BitVec.ofNat 64 other)) :
    one = other := by
  have digits := congrArg String.toList same
  simp only [treeFileName, String.toList_append, List.append_cancel_right_eq,
    List.append_cancel_left_eq, BitVec.toNat_ofNat, Nat.mod_eq_of_lt oneFits,
    Nat.mod_eq_of_lt otherFits] at digits
  have values := congrArg (fun chars => Nat.ofDigitChars 10 chars 0) digits
  simpa only [Nat.toString_eq_repr, Nat.toList_repr, Nat.ofDigitChars_ten_toDigits]
    using values

/-- The files of a command, one for each of the lists of rows. -/
theorem shards_of_created (positive : 0 < args.maxNodesPerTree.toNat)
    {entries : List CsvEntry} (valid : Parsed texts args.decimals entries rows)
    (validTests : args.shouldIncludeTestList = true →
      Parsed texts args.decimals (testEntries args) testRows)
    (created : processCreateMerkleTree sha256 texts args entries = .ok files) :
    List.Forall₂ (Shard sha256) (fileRows texts args rows testRows).zipIdx files := by
  rw [processCreateMerkleTree_eq_ok positive] at created
  obtain ⟨kept, shards, testTrees, validKept, isShards, isTests, rfl⟩ := created
  obtain rfl := validKept.unique valid.trimmed
  rw [fileRows, List.zipIdx_append]
  have length := isShards.length_eq
  rw [List.length_zipIdx] at length
  have last : List.Forall₂ (Shard sha256)
      ((if args.shouldIncludeTestList then [testRows] else []).zipIdx
        (0 + (blocks args.maxNodesPerTree.toNat (keptRows texts args rows)).length))
      testTrees := by
    rw [Nat.zero_add, length]
    unfold TestTrees at isTests
    split at isTests
    · rename_i included
      obtain ⟨others, file, validOthers, isShard, rfl⟩ := isTests
      obtain rfl := validOthers.unique (validTests included)
      rw [if_pos included]
      exact .cons isShard .nil
    · rename_i excluded
      rw [isTests, if_neg excluded]
      exact .nil
  exact List.rel_append isShards last

/-- Outside of the test wallets, the files are built from all that the rows hold. -/
theorem claimantSum_fileRows (positive : 0 < args.maxNodesPerTree.toNat)
    (validTests : args.shouldIncludeTestList = true →
      Parsed texts args.decimals (testEntries args) testRows) {key : Pubkey}
    (other : ¬ (args.shouldIncludeTestList = true ∧ OnTestList texts key))
    (locked : Bool) :
    ((fileRows texts args rows testRows).map (claimantSum locked key)).sum =
      claimantSum locked key rows := by
  have noTests : ((if args.shouldIncludeTestList then [testRows] else []).map
      (claimantSum locked key)).sum = 0 := by
    split
    · rename_i included
      have absent : key ∉ testRows.map TreeNode.claimant := by
        rw [mem_testRows (validTests included)]
        exact fun listed => other ⟨included, listed⟩
      rw [List.map_singleton, List.sum_singleton, claimantSum_eq_zero absent]
    · rfl
  rw [fileRows, List.map_append, List.sum_append, noTests, ← claimantSum_flatten,
    flatten_blocks positive, claimantSum_keptRows other, Nat.add_zero]

end Files

/-! ## The answer -/

section Answer

variable {sha256 : Bytes → Hash}
variable {findProgramAddress : List Bytes → Pubkey → Pubkey × UInt8} {texts : Texts}
variable {apiArgs : ApiArgs} {files listing : List TreeFile} {state : RouterState}

/-- A server that found the key in one file, and in no later one, answers with the node
of that file's tree. -/
theorem served_from_file {rows : List TreeNode} {version : U64}
    {before after : List TreeFile} {file : TreeFile} {key : Pubkey}
    (built : AirdropMerkleTree.new sha256 rows version = .ok file.tree)
    (held : state.tree.lookup key = lastValue ((before ++ file :: after).flatMap
      (servedEntries findProgramAddress apiArgs)) key)
    (here : key ∈ file.tree.treeNodes.map TreeNode.claimant)
    (notLater : ∀ other ∈ after, key ∉ other.tree.treeNodes.map TreeNode.claimant) :
    ∃ record, getUserInfo texts state (texts.pubkeyText key) = .ok record ∧
      record.amount.toNat = claimantSum false key rows ∧
      record.lockedAmount.toNat = claimantSum true key rows ∧
      record.merkleTree =
        texts.pubkeyText (distributorOf findProgramAddress apiArgs file.tree) ∧
      verify sha256 record.proof file.tree.merkleRoot
        (claimLeaf sha256 key record.amount record.lockedAmount) = true := by
  have keys (other : TreeFile) :
      (servedEntries findProgramAddress apiArgs other).map Prod.fst =
        other.tree.treeNodes.map TreeNode.claimant := by
    rw [servedEntries, List.map_map]
    rfl
  have whole := builtFrom_of_new built
  obtain ⟨node, isNode, rfl⟩ := List.mem_map.mp here
  have found : lastValue (servedEntries findProgramAddress apiArgs file) node.claimant =
      some (distributorOf findProgramAddress apiArgs file.tree, node) :=
    lastValue_of_mem (keys file ▸ whole.distinct) (List.mem_map.mpr ⟨node, isNode, rfl⟩)
  rw [lastValue_flatMap (keys file ▸ here) fun other member => keys other ▸
    notLater other member, found] at held
  obtain ⟨proof, isProof, accepted⟩ := whole.proofs node isNode
  refine ⟨_, getUserInfo_eq_ok.mpr ⟨node.claimant, _, node, proof,
    texts.parse_text _, held, isProof, rfl⟩, ?_, ?_, rfl, accepted⟩
  · exact whole.amounts node isNode false
  · exact whole.amounts node isNode true

/-- The server answers from the file that comes last, by name, among those with the
key. -/
theorem served_from_last {groups : List (List TreeNode)}
    (shards : List.Forall₂ (Shard sha256) groups.zipIdx files)
    (lists : listing.Perm files)
    (loaded : loadTrees findProgramAddress texts apiArgs listing = .ok state)
    {key : Pubkey} (named : ∃ group ∈ groups, key ∈ group.map TreeNode.claimant) :
    ∃ i group, groups[i]? = some group ∧ key ∈ group.map TreeNode.claimant ∧
      (∀ j other, groups[j]? = some other → key ∈ other.map TreeNode.claimant →
        treeFileName (BitVec.ofNat 64 j) ≤ treeFileName (BitVec.ofNat 64 i)) ∧
      ∃ record, getUserInfo texts state (texts.pubkeyText key) = .ok record ∧
        record.amount.toNat = claimantSum false key group ∧
        record.lockedAmount.toNat = claimantSum true key group ∧
        ∃ file ∈ files,
          record.merkleTree =
            texts.pubkeyText (distributorOf findProgramAddress apiArgs file.tree) ∧
          verify sha256 record.proof file.tree.merkleRoot
            (claimLeaf sha256 key record.amount record.lockedAmount) = true := by
  have isSorted := (sortByPath_perm listing).trans lists
  have inSorted : ∃ file ∈ sortByPath listing,
      key ∈ file.tree.treeNodes.map TreeNode.claimant := by
    obtain ⟨group, member, isNamed⟩ := named
    obtain ⟨i, present⟩ := List.mem_iff_getElem?.mp member
    obtain ⟨file, isFile, _, built⟩ := shard_of_block shards present
    refine ⟨file, isSorted.mem_iff.mpr (List.mem_of_getElem? isFile), ?_⟩
    rw [(builtFrom_of_new built).members]
    exact isNamed
  obtain ⟨before, file, after, order, here, notLater⟩ := exists_last inSorted
  have isFile : file ∈ files := isSorted.mem_iff.mp (by simp [order])
  obtain ⟨i, atIndex⟩ := List.mem_iff_getElem?.mp isFile
  obtain ⟨group, isGroup, name, built⟩ := shard_at shards atIndex
  rw [Nat.zero_add] at name
  have held := lookup_of_loadTrees loaded key
  rw [order] at held
  obtain ⟨record, answered, amount, lockedAmount, distributor, accepted⟩ :=
    served_from_file built held here notLater
  refine ⟨i, group, isGroup, (builtFrom_of_new built).members key |>.mp here, ?_, record,
    answered, amount, lockedAmount, file, isFile, distributor, accepted⟩
  intro j other isOther isNamed
  obtain ⟨otherFile, otherAt, otherName, otherBuilt⟩ := shard_of_block shards isOther
  rw [Nat.zero_add] at otherName
  have otherHere := ((builtFrom_of_new otherBuilt).members key).mpr isNamed
  have inOrder : otherFile ∈ before ++ file :: after := by
    rw [← order, isSorted.mem_iff]
    exact List.mem_of_getElem? otherAt
  have sorted := sortByPath_sorted listing
  rw [order, List.pairwise_append] at sorted
  rw [← name, ← otherName]
  rcases List.mem_append.mp inOrder with earlier | later
  · exact sorted.2.2 otherFile earlier file List.mem_cons_self
  · rcases List.mem_cons.mp later with rfl | later
    · exact le_rfl
    · exact absurd otherHere (notLater otherFile later)

end Answer

/-! ## Whole allocations -/

/-- A sum is one of its parts exactly where the other parts are zero. -/
theorem sum_eq_part_iff {parts : List Nat} {i part : Nat} (here : parts[i]? = some part) :
    parts.sum = part ↔ ∀ j other, j ≠ i → parts[j]? = some other → other = 0 := by
  induction parts generalizing i with
  | nil => cases here
  | cons first parts inductionHypothesis =>
      rw [List.sum_cons]
      cases i with
      | zero =>
          obtain rfl : first = part := Option.some.inj here
          constructor
          · intro whole j other apart present
            obtain ⟨j, rfl⟩ := Nat.exists_eq_succ_of_ne_zero apart
            have member : other ∈ parts := List.mem_of_getElem? present
            have bound := List.le_sum_of_mem member
            omega
          · intro zeros
            have none : parts.sum = 0 := by
              apply List.sum_eq_zero
              intro other member
              obtain ⟨j, present⟩ := List.mem_iff_getElem?.mp member
              exact zeros (j + 1) other (Nat.succ_ne_zero j) present
            omega
      | succ i =>
          have later : parts[i]? = some part := here
          have bound := List.le_sum_of_mem (List.mem_of_getElem? later)
          constructor
          · intro whole j other apart present
            cases j with
            | zero =>
                obtain rfl : first = other := Option.some.inj present
                omega
            | succ j =>
                have rest : parts.sum = part := by omega
                exact (inductionHypothesis later).mp rest j other (by omega) present
          · intro zeros
            have none : first = 0 := zeros 0 first (by omega) rfl
            have rest : parts.sum = part := by
              apply (inductionHypothesis later).mpr
              intro j other apart present
              exact zeros (j + 1) other (by omega) present
            omega

section Whole

variable {texts : Texts} {args : CreateMerkleTreeArgs} {rows testRows : List TreeNode}

/-- Outside of the test wallets: the file that comes last among those with the key was
built from all that the rows hold for it exactly where no earlier one has anything. -/
theorem whole_iff_earlier_empty (positive : 0 < args.maxNodesPerTree.toNat)
    (validTests : args.shouldIncludeTestList = true →
      Parsed texts args.decimals (testEntries args) testRows)
    (counted : (fileRows texts args rows testRows).length < 2 ^ 64) {key : Pubkey}
    (other : ¬ (args.shouldIncludeTestList = true ∧ OnTestList texts key))
    {i : Nat} {group : List TreeNode}
    (isGroup : (fileRows texts args rows testRows)[i]? = some group)
    (named : key ∈ group.map TreeNode.claimant)
    (isLast : ∀ j other, (fileRows texts args rows testRows)[j]? = some other →
      key ∈ other.map TreeNode.claimant →
      treeFileName (BitVec.ofNat 64 j) ≤ treeFileName (BitVec.ofNat 64 i)) :
    (∀ locked, claimantSum locked key group = claimantSum locked key rows) ↔
      WholeInOneFile texts args rows testRows key := by
  have inside {j : Nat} {part : List TreeNode}
      (present : (fileRows texts args rows testRows)[j]? = some part) : j < 2 ^ 64 :=
    (List.getElem?_eq_some_iff.mp present).1.trans counted
  have parts (locked : Bool) : claimantSum locked key group = claimantSum locked key rows ↔
      ∀ j part, j ≠ i → (fileRows texts args rows testRows)[j]? = some part →
        claimantSum locked key part = 0 := by
    have here : ((fileRows texts args rows testRows).map (claimantSum locked key))[i]? =
        some (claimantSum locked key group) := by
      rw [List.getElem?_map, isGroup]
      rfl
    have whole : ((fileRows texts args rows testRows).map (claimantSum locked key)).sum =
        claimantSum locked key rows :=
      claimantSum_fileRows positive validTests other locked
    rw [← whole, eq_comm, sum_eq_part_iff here]
    simp only [List.getElem?_map, Option.map_eq_some_iff]
    constructor
    · intro zeros j part apart present
      exact zeros j _ apart ⟨part, present, rfl⟩
    · rintro zeros j _ apart ⟨part, present, rfl⟩
      exact zeros j part apart present
  simp only [parts]
  rw [WholeInOneFile, if_neg other]
  constructor
  · intro zeros k j later earlier isLater isEarlier before namedLater locked
    have apart : j ≠ i := by
      rintro rfl
      exact absurd before (not_lt.mpr (isLast k later isLater namedLater))
    exact zeros locked j earlier apart isEarlier
  · intro zeros locked j part apart present
    by_cases namedPart : key ∈ part.map TreeNode.claimant
    · have before : treeFileName (BitVec.ofNat 64 j) < treeFileName (BitVec.ofNat 64 i) := by
        apply lt_of_le_of_ne (isLast j part present namedPart)
        intro same
        exact apart (treeFileName_injective (inside present) (inside isGroup) same)
      exact zeros i j group part isGroup present before named locked
    · exact claimantSum_eq_zero namedPart

/-- Every key of the list is named by the rows of some file. -/
theorem exists_group (positive : 0 < args.maxNodesPerTree.toNat)
    (validTests : args.shouldIncludeTestList = true →
      Parsed texts args.decimals (testEntries args) testRows) {key : Pubkey}
    (listed : key ∈ rows.map TreeNode.claimant) :
    ∃ group ∈ fileRows texts args rows testRows, key ∈ group.map TreeNode.claimant := by
  by_cases isTest : args.shouldIncludeTestList = true ∧ OnTestList texts key
  · refine ⟨testRows, ?_, (mem_testRows (validTests isTest.1) key).mpr isTest.2⟩
    rw [fileRows, if_pos isTest.1]
    exact List.mem_append_right _ (List.mem_singleton_self _)
  · obtain ⟨row, isRow, rfl⟩ := List.mem_map.mp listed
    have kept : row ∈ keptRows texts args rows := by
      unfold keptRows
      split
      · rename_i included
        rw [List.mem_filter, decide_eq_true_eq]
        exact ⟨isRow, fun onList => isTest ⟨included, onList⟩⟩
      · exact isRow
    rw [← flatten_blocks positive (keptRows texts args rows)] at kept
    obtain ⟨block, isBlock, inside⟩ := List.mem_flatten.mp kept
    exact ⟨block, List.mem_append_left _ isBlock, List.mem_map_of_mem inside⟩

/-- Only the list of the test wallets names them, where they have a tree of their
own. -/
theorem group_of_testWallet (positive : 0 < args.maxNodesPerTree.toNat) {key : Pubkey}
    (isTest : args.shouldIncludeTestList = true ∧ OnTestList texts key)
    {group : List TreeNode} (isGroup : group ∈ fileRows texts args rows testRows)
    (named : key ∈ group.map TreeNode.claimant) : group = testRows := by
  rw [fileRows, if_pos isTest.1] at isGroup
  rcases List.mem_append.mp isGroup with isBlock | isTests
  · obtain ⟨row, inside, rfl⟩ := List.mem_map.mp named
    have kept : row ∈ keptRows texts args rows := by
      rw [← flatten_blocks positive (keptRows texts args rows)]
      exact List.mem_flatten_of_mem isBlock inside
    exact absurd (List.mem_map_of_mem kept) (not_mem_keptRows isTest.1 isTest.2)
  · exact List.mem_singleton.mp isTests

theorem length_fileRows_le (positive : 0 < args.maxNodesPerTree.toNat) :
    (fileRows texts args rows testRows).length ≤ rows.length + 1 := by
  have few := (length_blocks_le positive (keptRows texts args rows)).trans
    (length_keptRows_le rows)
  rw [fileRows, List.length_append]
  split
  · rw [List.length_singleton]
    omega
  · rw [List.length_nil]
    omega

theorem length_flatten_fileRows (positive : 0 < args.maxNodesPerTree.toNat)
    (validTests : args.shouldIncludeTestList = true →
      Parsed texts args.decimals (testEntries args) testRows) :
    (fileRows texts args rows testRows).flatten.length ≤ rows.length + 3 := by
  have kept : (keptRows texts args rows).length ≤ rows.length := length_keptRows_le rows
  rw [fileRows, List.flatten_append, flatten_blocks positive, List.length_append]
  split
  · rename_i included
    have three : testRows.length = 3 := (validTests included).length_eq.symm
    rw [List.flatten_singleton, three]
    omega
  · rw [List.flatten_nil, List.length_nil]
    omega

end Whole

/-! ## The whole list -/

section WholeList

variable {sha256 : Bytes → Hash}
variable {findProgramAddress : List Bytes → Pubkey → Pubkey × UInt8} {texts : Texts}
variable {args : CreateMerkleTreeArgs} {apiArgs : ApiArgs}
variable {files listing : List TreeFile} {groups : List (List TreeNode)}

/-- The server loads the files of a split whose totals and counts fit together. -/
theorem exists_state (shards : List.Forall₂ (Shard sha256) groups.zipIdx files)
    (lists : listing.Perm files)
    (fits : totalSum false groups.flatten + totalSum true groups.flatten < 2 ^ 64)
    (counted : groups.flatten.length < 2 ^ 64) :
    ∃ state, loadTrees findProgramAddress texts apiArgs listing = .ok state := by
  have claims : files.map claimTotal =
      groups.map fun group => totalSum false group + totalSum true group := by
    refine map_shards (fun tree => tree.totalUnlockedAmount.toNat +
      tree.totalLockedAmount.toNat) _ ?_ shards
    intro rows version tree built
    have whole := builtFrom_of_new built
    rw [whole.totalUnlocked, whole.totalLocked, (sums_of_new built).1,
      (sums_of_new built).1]
  have nodes : (files.map fun file => file.tree.maxNumNodes.toNat) =
      groups.map fun group => (group.map TreeNode.claimant).dedup.length := by
    refine map_shards (fun tree => tree.maxNumNodes.toNat) _ ?_ shards
    intro rows version tree built
    rw [(builtFrom_of_new built).nodeCount, treeNodes_length_of_new built]
  apply exists_loadTrees
  · rw [(lists.map claimTotal).sum_eq, claims, List.sum_map_add, ← totalSum_flatten,
      ← totalSum_flatten]
    exact fits
  · rw [(lists.map fun file => file.tree.maxNumNodes.toNat).sum_eq, nodes]
    apply lt_of_le_of_lt _ counted
    rw [List.length_flatten]
    apply List.sum_le_sum
    intro group _
    have bound := (List.dedup_sublist (group.map TreeNode.claimant)).length_le
    rwa [List.length_map] at bound

/-- One key of the list: it is served in full exactly where all of it went into the
file that is served. -/
theorem servedInFull_iff {rows testRows : List TreeNode} {state : RouterState}
    (positive : 0 < args.maxNodesPerTree.toNat)
    (validTests : args.shouldIncludeTestList = true →
      Parsed texts args.decimals (testEntries args) testRows)
    (counted : (fileRows texts args rows testRows).length < 2 ^ 64)
    (shards : List.Forall₂ (Shard sha256) (fileRows texts args rows testRows).zipIdx files)
    (lists : listing.Perm files)
    (loaded : loadTrees findProgramAddress texts apiArgs listing = .ok state)
    {key : Pubkey} (listed : key ∈ rows.map TreeNode.claimant) :
    ServedInFull sha256 findProgramAddress texts apiArgs files state rows key ↔
      WholeInOneFile texts args rows testRows key := by
  obtain ⟨i, group, isGroup, named, isLast, record, answered, amount, lockedAmount,
    fromTree⟩ := served_from_last shards lists loaded
      (exists_group positive validTests listed)
  have inFull : ServedInFull sha256 findProgramAddress texts apiArgs files state rows key ↔
      ∀ locked, claimantSum locked key group = claimantSum locked key rows := by
    constructor
    · rintro ⟨other, answeredOther, otherAmount, otherLocked, _⟩
      obtain rfl : record = other :=
        Except.ok.inj (answered.symm.trans answeredOther)
      rintro (_ | _)
      · exact amount.symm.trans otherAmount
      · exact lockedAmount.symm.trans otherLocked
    · intro same
      exact ⟨record, answered, amount.trans (same false), lockedAmount.trans (same true),
        fromTree⟩
  rw [inFull]
  by_cases isTest : args.shouldIncludeTestList = true ∧ OnTestList texts key
  · rw [WholeInOneFile, if_pos isTest,
      group_of_testWallet positive isTest (List.mem_of_getElem? isGroup) named]
    simp only [eq_comm]
  · exact whole_iff_earlier_empty positive validTests counted isTest isGroup named isLast

/-- The server loads the files of every allocation list.  A key of the list is then
served in full exactly where all of its rows that hold anything are in the file that
comes last, by name, among those with the key. -/
theorem served_in_full_iff {entries : List CsvEntry} {rows testRows : List TreeNode}
    (positive : 1 ≤ args.maxNodesPerTree.toNat) (counted : entries.length + 3 < 2 ^ 64)
    (valid : Parsed texts args.decimals entries rows)
    (validTests : args.shouldIncludeTestList = true →
      Parsed texts args.decimals (testEntries args) testRows)
    (fits : totalSum false (fileRows texts args rows testRows).flatten +
      totalSum true (fileRows texts args rows testRows).flatten < 2 ^ 64)
    (created : processCreateMerkleTree sha256 texts args entries = .ok files)
    (lists : listing.Perm files) :
    ∃ state, loadTrees findProgramAddress texts apiArgs listing = .ok state ∧
      ∀ key ∈ rows.map TreeNode.claimant,
        ServedInFull sha256 findProgramAddress texts apiArgs files state rows key ↔
          WholeInOneFile texts args rows testRows key := by
  have shards := shards_of_created positive valid validTests created
  rw [valid.length_eq] at counted
  have few : (fileRows texts args rows testRows).flatten.length < 2 ^ 64 :=
    (length_flatten_fileRows positive validTests).trans_lt counted
  obtain ⟨state, loaded⟩ := exists_state shards lists fits few
  refine ⟨state, loaded, ?_⟩
  intro key listed
  have fewFiles : (fileRows texts args rows testRows).length < 2 ^ 64 :=
    (length_fileRows_le positive).trans_lt (by omega)
  exact servedInFull_iff positive validTests fewFiles shards lists loaded listed

end WholeList

/-! ## A small list -/

section Sample

theorem sample_fits :
    totalSum false (fileRows base58Texts testListArgs sampleRows sampleTestRows).flatten +
      totalSum true (fileRows base58Texts testListArgs sampleRows sampleTestRows).flatten <
        2 ^ 64 := by
  decide +kernel

theorem sample_created :
    ∃ files, processCreateMerkleTree sampleSha256 base58Texts testListArgs sampleEntries =
      .ok files := by
  obtain ⟨shards, testTrees, created, _⟩ :=
    exists_created sampleSha256 (by decide : 0 < testListArgs.maxNodesPerTree.toNat)
      sampleEntries_parsed (by decide +kernel)
      fun _ => ⟨sampleTestRows, testEntries_parsed, by decide⟩
  exact ⟨shards ++ testTrees, created⟩

theorem served_in_full_iff_sample :
    ∃ files state,
      processCreateMerkleTree sampleSha256 base58Texts testListArgs sampleEntries =
        .ok files ∧
      loadTrees folderFind base58Texts sampleApiArgs files = .ok state ∧
      ∀ key ∈ sampleRows.map TreeNode.claimant,
        ServedInFull sampleSha256 folderFind base58Texts sampleApiArgs files state
            sampleRows key ↔
          WholeInOneFile base58Texts testListArgs sampleRows sampleTestRows key := by
  obtain ⟨files, created⟩ := sample_created
  obtain ⟨state, loaded, exact⟩ := served_in_full_iff (by decide) (by decide)
    sampleEntries_parsed (fun _ => testEntries_parsed) sample_fits created (.refl files)
  exact ⟨files, state, created, loaded, exact⟩

/-- Alice has rows in the first and in the last block: the server answers with what the
last one holds for her. -/
theorem split_allocation_not_served :
    ∃ files state,
      processCreateMerkleTree sampleSha256 base58Texts testListArgs sampleEntries =
        .ok files ∧
      loadTrees folderFind base58Texts sampleApiArgs files = .ok state ∧
      alice ∈ sampleRows.map TreeNode.claimant ∧
      ¬ ServedInFull sampleSha256 folderFind base58Texts sampleApiArgs files state
          sampleRows alice := by
  obtain ⟨files, created⟩ := sample_created
  have positive : 0 < testListArgs.maxNodesPerTree.toNat := by decide
  have shards := shards_of_created positive sampleEntries_parsed
    (fun _ => testEntries_parsed) created
  obtain ⟨state, loaded⟩ := exists_state shards (.refl files) sample_fits (by decide +kernel)
  have listed : alice ∈ sampleRows.map TreeNode.claimant := by decide
  refine ⟨files, state, created, loaded, listed, ?_⟩
  rw [servedInFull_iff positive (fun _ => testEntries_parsed) (by decide +kernel) shards
    (.refl files) loaded listed, WholeInOneFile, if_neg (by decide +kernel)]
  intro whole
  have first : (fileRows base58Texts testListArgs sampleRows sampleTestRows)[0]? =
      some [{ claimant := alice, amount := 100, lockedAmount := 300, proof := none }] := by
    decide +kernel
  have third : (fileRows base58Texts testListArgs sampleRows sampleTestRows)[2]? =
      some [{ claimant := alice, amount := 400, lockedAmount := 0, proof := none }] := by
    decide +kernel
  have nothing := whole 2 0 _ _ third first (by decide +kernel) (by decide) false
  revert nothing
  decide

end Sample

end Airdrop
