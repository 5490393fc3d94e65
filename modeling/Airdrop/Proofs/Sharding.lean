/-
Module: Airdrop.Proofs.Sharding
Purpose: The split of an allocation list into trees keeps every key's amounts and
  the total: which files `create_merkle_tree` writes, and what they hold together.
Trusted boundary: none
Main exports: Parsed, OnTestList, keptRows, Shard, treeLoop_eq_ok,
  processCreateMerkleTree_eq_ok, Sharded, sharding_exact
-/
import Airdrop.Cli.CreateMerkleTree
import Airdrop.Core.Base58
import Airdrop.Library.Blocks
import Airdrop.Proofs.MerkleCorrectness

namespace Airdrop

open Checked Blocks

/-! ## Rows -/

/-- The entries are valid, and are these rows. -/
def Parsed (texts : Texts) (decimals : U32) (entries : List CsvEntry)
    (rows : List TreeNode) : Prop :=
  List.Forall₂ (fun entry row =>
    (TreeNode.fromCsv texts decimals entry : Except (Stop MerkleTreeError) _) = .ok row)
    entries rows

/-- The key is one of the test wallets. -/
def OnTestList (texts : Texts) (key : Pubkey) : Prop :=
  texts.pubkeyText key ∈ getTestList

instance (texts : Texts) (key : Pubkey) : Decidable (OnTestList texts key) :=
  inferInstanceAs (Decidable (_ ∈ _))

/-- The rows that are split: those of the test wallets are taken out where these get
a tree of their own. -/
def keptRows (texts : Texts) (args : CreateMerkleTreeArgs) (rows : List TreeNode) :
    List TreeNode :=
  if args.shouldIncludeTestList then
    rows.filter fun row => ¬ OnTestList texts row.claimant
  else
    rows

section Rows

variable {texts : Texts} {args : CreateMerkleTreeArgs} {decimals : U32}
variable {entries : List CsvEntry} {rows : List TreeNode}

/-- The claimant of a row is the key that its entry names. -/
theorem text_of_fromCsv {ε : Type} {entry : CsvEntry} {row : TreeNode}
    (valid : (TreeNode.fromCsv texts decimals entry : Except (Stop ε) _) = .ok row) :
    texts.pubkeyText row.claimant = entry.pubkey := by
  rw [TreeNode.fromCsv] at valid
  simp only [bind_eq_ok, unwrap_eq_ok] at valid
  obtain ⟨claimant, parsed, amount, _, rest⟩ := valid
  have same : claimant = row.claimant := by
    split at rest
    · rw [bind_eq_ok] at rest
      obtain ⟨_, _, result⟩ := rest
      exact congrArg TreeNode.claimant (Except.ok.inj result)
    · exact congrArg TreeNode.claimant (Except.ok.inj rest)
  rw [← same]
  exact Texts.text_of_parse parsed

theorem Parsed.unique {first second : List TreeNode}
    (one : Parsed texts decimals entries first)
    (other : Parsed texts decimals entries second) : first = second := by
  apply List.right_unique_forall₂' _ one other
  intro entry row same valid alsoValid
  exact Except.ok.inj (valid.symm.trans alsoValid)

/-- Taking the test wallets out of the entries takes out their rows. -/
theorem Parsed.trimmed (valid : Parsed texts decimals entries rows) :
    Parsed texts decimals (trimmedEntries args entries) (keptRows texts args rows) := by
  unfold trimmedEntries keptRows
  split
  · induction valid with
    | nil => exact .nil
    | @cons entry row entries rows now _ inductionHypothesis =>
        have same : OnTestList texts row.claimant ↔ entry.pubkey ∈ getTestList := by
          rw [OnTestList, text_of_fromCsv now]
        rw [List.filter_cons, List.filter_cons]
        by_cases listed : entry.pubkey ∈ getTestList
        · rw [if_neg (by simp [listed]), if_neg (by simp [same, listed])]
          exact inductionHypothesis
        · rw [if_pos (by simp [listed]), if_pos (by simp [same, listed])]
          exact .cons now inductionHypothesis
  · exact valid

/-- The entries name the claimants of their rows. -/
theorem Parsed.names (valid : Parsed texts decimals entries rows) :
    (rows.map TreeNode.claimant).map texts.pubkeyText = entries.map CsvEntry.pubkey := by
  induction valid with
  | nil => rfl
  | cons now _ inductionHypothesis =>
      rw [List.map_cons, List.map_cons, List.map_cons, inductionHypothesis,
        text_of_fromCsv now]

theorem newFromEntries_eq_ok {sha256 : Bytes → Hash} {version : U64}
    {tree : AirdropMerkleTree} :
    AirdropMerkleTree.newFromEntries sha256 texts entries version decimals = .ok tree ↔
      ∃ rows, Parsed texts decimals entries rows ∧
        AirdropMerkleTree.new sha256 rows version = .ok tree := by
  rw [AirdropMerkleTree.newFromEntries, bind_eq_ok]
  simp only [mapM_eq_ok]
  rfl

end Rows

/-! ## The loop -/

/-- The file holds the tree over a block of rows, under the block's number. -/
def Shard (sha256 : Bytes → Hash) (numbered : List TreeNode × Nat) (file : TreeFile) :
    Prop :=
  file.name = treeFileName (BitVec.ofNat 64 numbered.2) ∧
    AirdropMerkleTree.new sha256 numbered.1 (BitVec.ofNat 64 numbered.2) = .ok file.tree

section Loop

variable {sha256 : Bytes → Hash} {texts : Texts} {args : CreateMerkleTreeArgs}

/-- One round of the loop, where there are rows left. -/
theorem treeLoop_succ_eq_ok {fuel : Nat} {entries : List CsvEntry}
    (nonempty : entries ≠ []) {number : Nat} {files : List TreeFile} {next : U64} :
    treeLoop sha256 texts args (fuel + 1) entries (BitVec.ofNat 64 number) =
        .ok (files, next) ↔
      ∃ tree later,
        AirdropMerkleTree.newFromEntries sha256 texts
          (entries.take args.maxNodesPerTree.toNat) (BitVec.ofNat 64 number)
            args.decimals = .ok tree ∧
        treeLoop sha256 texts args fuel (entries.drop args.maxNodesPerTree.toNat)
          (BitVec.ofNat 64 (number + 1)) = .ok (later, next) ∧
        files = { name := treeFileName (BitVec.ofNat 64 number), tree } :: later := by
  have some : 0 < entries.length := List.length_pos_iff.mpr nonempty
  have front : entries.take (min args.maxNodesPerTree.toNat entries.length) =
      entries.take args.maxNodesPerTree.toNat := by
    rw [← List.take_take, List.take_length]
  have back : entries.drop (min args.maxNodesPerTree.toNat entries.length) =
      entries.drop args.maxNodesPerTree.toNat := by
    rcases Nat.le_total args.maxNodesPerTree.toNat entries.length with fewer | more
    · rw [Nat.min_eq_left fewer]
    · rw [Nat.min_eq_right more, List.drop_length, List.drop_eq_nil_of_le more]
  have following : BitVec.ofNat 64 number + 1 = BitVec.ofNat 64 (number + 1) := by
    rw [BitVec.ofNat_add]
    rfl
  rw [treeLoop, if_pos some]
  simp only [front, back, following, bind_eq_ok, unwrapCall_eq_ok, Prod.exists, pure_eq,
    Except.ok.injEq, Prod.mk.injEq]
  constructor
  · rintro ⟨tree, built, later, _, rest, rfl, rfl⟩
    exact ⟨tree, later, built, rest, rfl⟩
  · rintro ⟨tree, later, built, rest, rfl⟩
    exact ⟨tree, built, later, next, rest, rfl, rfl⟩

/-- The rows of the front and of the back of a list of entries are the front and the
back of its rows. -/
theorem Parsed.append {decimals : U32} {entries : List CsvEntry}
    {front back : List TreeNode} {count : Nat}
    (validFront : Parsed texts decimals (entries.take count) front)
    (validBack : Parsed texts decimals (entries.drop count) back) :
    Parsed texts decimals entries (front ++ back) ∧ (front ++ back).take count = front ∧
      (front ++ back).drop count = back := by
  have whole : Parsed texts decimals (entries.take count ++ entries.drop count)
      (front ++ back) := List.rel_append validFront validBack
  rw [List.take_append_drop] at whole
  have frontAgain : Parsed texts decimals (entries.take count)
      ((front ++ back).take count) := List.forall₂_take count whole
  have backAgain : Parsed texts decimals (entries.drop count)
      ((front ++ back).drop count) := List.forall₂_drop count whole
  exact ⟨whole, frontAgain.unique validFront, backAgain.unique validBack⟩

/-- The loop makes one file of each block of rows, numbered from where it starts. -/
theorem treeLoop_eq_ok (positive : 0 < args.maxNodesPerTree.toNat) {fuel : Nat}
    {entries : List CsvEntry} (enough : entries.length < fuel) {number : Nat}
    {files : List TreeFile} {next : U64} :
    treeLoop sha256 texts args fuel entries (BitVec.ofNat 64 number) =
        .ok (files, next) ↔
      ∃ rows, Parsed texts args.decimals entries rows ∧
        List.Forall₂ (Shard sha256)
          ((blocks args.maxNodesPerTree.toNat rows).zipIdx number) files ∧
        next = BitVec.ofNat 64 (number + files.length) := by
  induction fuel generalizing entries number files next with
  | zero => omega
  | succ fuel inductionHypothesis =>
      by_cases empty : entries = []
      · subst empty
        constructor
        · intro done
          cases done
          exact ⟨[], .nil, by simp [positive], rfl⟩
        · rintro ⟨rows, valid, shards, isNext⟩
          cases valid
          rw [blocks_nil positive, List.zipIdx_nil] at shards
          cases shards
          rw [isNext]
          rfl
      · have some : 0 < entries.length := List.length_pos_iff.mpr empty
        have fewer : (entries.drop args.maxNodesPerTree.toNat).length < fuel := by
          rw [List.length_drop]
          omega
        rw [treeLoop_succ_eq_ok empty]
        simp only [newFromEntries_eq_ok, inductionHypothesis fewer]
        constructor
        · rintro ⟨tree, later, ⟨front, validFront, built⟩, ⟨back, validBack, shards, isNext⟩,
            rfl⟩
          obtain ⟨valid, isFront, isBack⟩ := validFront.append validBack
          have nonempty : front ++ back ≠ [] := by
            rintro none
            rw [none] at valid
            cases valid
            exact empty rfl
          refine ⟨front ++ back, valid, ?_, ?_⟩
          · rw [blocks_of_ne_nil positive nonempty, isFront, isBack, List.zipIdx_cons]
            exact .cons ⟨rfl, built⟩ shards
          · rw [isNext, List.length_cons, Nat.add_assoc, Nat.add_comm 1]
        · rintro ⟨rows, valid, shards, isNext⟩
          have nonempty : rows ≠ [] := by
            rintro rfl
            cases valid
            exact empty rfl
          rw [blocks_of_ne_nil positive nonempty, List.zipIdx_cons,
            List.forall₂_cons_left_iff] at shards
          obtain ⟨⟨_, tree⟩, later, ⟨rfl, built⟩, shards, rfl⟩ := shards
          refine ⟨tree, later, ⟨_, List.forall₂_take _ valid, built⟩,
            ⟨_, List.forall₂_drop _ valid, shards, ?_⟩, rfl⟩
          rw [isNext, List.length_cons, Nat.add_assoc, Nat.add_comm 1]

/-- The files after the loop: the tree of the test wallets, where it is asked for. -/
def TestTrees (sha256 : Bytes → Hash) (texts : Texts) (args : CreateMerkleTreeArgs)
    (number : Nat) (files : List TreeFile) : Prop :=
  if args.shouldIncludeTestList then
    ∃ testRows file, Parsed texts args.decimals (testEntries args) testRows ∧
      Shard sha256 (testRows, number) file ∧ files = [file]
  else
    files = []

/-- The command writes one file for each block of the kept rows, and the test
wallets' after them. -/
theorem processCreateMerkleTree_eq_ok (positive : 0 < args.maxNodesPerTree.toNat)
    {entries : List CsvEntry} {files : List TreeFile} :
    processCreateMerkleTree sha256 texts args entries = .ok files ↔
      ∃ rows shards testTrees,
        Parsed texts args.decimals (trimmedEntries args entries) rows ∧
        List.Forall₂ (Shard sha256) (blocks args.maxNodesPerTree.toNat rows).zipIdx
          shards ∧
        TestTrees sha256 texts args shards.length testTrees ∧
        files = shards ++ testTrees := by
  have start : (0 : U64) = BitVec.ofNat 64 0 := rfl
  rw [processCreateMerkleTree]
  simp only [bind_eq_ok, Prod.exists, start,
    treeLoop_eq_ok positive (Nat.lt_succ_self _), Nat.zero_add]
  constructor
  · rintro ⟨shards, next, ⟨rows, valid, isShards, rfl⟩, rest⟩
    refine ⟨rows, shards, ?_⟩
    by_cases included : args.shouldIncludeTestList = true
    · rw [if_pos included] at rest
      simp only [bind_eq_ok, unwrapCall_eq_ok, newFromEntries_eq_ok, pure_eq,
        Except.ok.injEq] at rest
      obtain ⟨tree, ⟨testRows, validTests, built⟩, rfl⟩ := rest
      refine ⟨_, valid, isShards, ?_, rfl⟩
      rw [TestTrees, if_pos included]
      exact ⟨testRows, _, validTests, ⟨rfl, built⟩, rfl⟩
    · rw [if_neg included, pure_eq, Except.ok.injEq] at rest
      refine ⟨[], valid, isShards, ?_, ?_⟩
      · rw [TestTrees, if_neg included]
      · rw [← rest, List.append_nil]
  · rintro ⟨rows, shards, testTrees, valid, isShards, isTests, rfl⟩
    refine ⟨shards, _, ⟨rows, valid, isShards, rfl⟩, ?_⟩
    by_cases included : args.shouldIncludeTestList = true
    · rw [TestTrees, if_pos included] at isTests
      obtain ⟨testRows, ⟨_, tree⟩, validTests, ⟨rfl, built⟩, rfl⟩ := isTests
      rw [if_pos included]
      simp only [bind_eq_ok, unwrapCall_eq_ok, newFromEntries_eq_ok]
      exact ⟨tree, ⟨testRows, validTests, built⟩, rfl⟩
    · rw [TestTrees, if_neg included] at isTests
      rw [if_neg included, isTests, List.append_nil]
      rfl

end Loop

/-! ## What the trees hold together -/

section Sums

variable {sha256 : Bytes → Hash}

/-- A tree has one node for each claimant of its rows. -/
theorem treeNodes_length_of_new {rows : List TreeNode} {version : U64}
    {tree : AirdropMerkleTree}
    (built : AirdropMerkleTree.new sha256 rows version = .ok tree) :
    tree.treeNodes.length = (rows.map TreeNode.claimant).dedup.length := by
  obtain ⟨merged, done, _, _, _, _, _, _, stored⟩ := AirdropMerkleTree.new_eq_ok.mp built
  rw [stored, provedNodes_length, merged_length done]

/-- A tree holds the sums of its rows. -/
theorem sums_of_new {rows : List TreeNode} {version : U64} {tree : AirdropMerkleTree}
    (built : AirdropMerkleTree.new sha256 rows version = .ok tree) :
    (∀ locked, totalSum locked tree.treeNodes = totalSum locked rows) ∧
      ∀ locked claimant,
        claimantSum locked claimant tree.treeNodes = claimantSum locked claimant rows := by
  obtain ⟨merged, done, _, _, _, _, _, _, stored⟩ := AirdropMerkleTree.new_eq_ok.mp built
  obtain ⟨_, _, totals, sums⟩ := mergeTreeNodes_ok (by exact List.nodup_nil) done
  constructor
  · intro locked
    rw [stored, totalSum_provedNodes, totals, totalSum_nil, Nat.zero_add]
  · intro locked claimant
    rw [stored, claimantSum_provedNodes, sums, claimantSum_nil, Nat.zero_add]

/-- Sums over rows add up over blocks of them. -/
theorem claimantSum_flatten (locked : Bool) (claimant : Pubkey)
    (rows : List (List TreeNode)) :
    claimantSum locked claimant rows.flatten =
      (rows.map (claimantSum locked claimant)).sum := by
  induction rows with
  | nil => rfl
  | cons block rows inductionHypothesis =>
      rw [List.flatten_cons, List.map_cons, List.sum_cons, ← inductionHypothesis]
      simp [claimantSum]

@[inherit_doc claimantSum_flatten]
theorem totalSum_flatten (locked : Bool) (rows : List (List TreeNode)) :
    totalSum locked rows.flatten = (rows.map (totalSum locked)).sum := by
  induction rows with
  | nil => rfl
  | cons block rows inductionHypothesis =>
      rw [List.flatten_cons, List.map_cons, List.sum_cons, ← inductionHypothesis]
      simp [totalSum]

/-- What a tree takes over from its rows, the trees of all blocks take over from all
blocks. -/
theorem map_shards {α : Type*} (ofTree : AirdropMerkleTree → α)
    (ofRows : List TreeNode → α)
    (each : ∀ {rows version tree}, AirdropMerkleTree.new sha256 rows version = .ok tree →
      ofTree tree = ofRows rows)
    {rows : List (List TreeNode)} {number : Nat} {files : List TreeFile}
    (shards : List.Forall₂ (Shard sha256) (rows.zipIdx number) files) :
    (files.map fun file => ofTree file.tree) = rows.map ofRows := by
  induction rows generalizing number files with
  | nil =>
      cases shards
      rfl
  | cons block rows inductionHypothesis =>
      rw [List.zipIdx_cons] at shards
      cases shards with
      | cons first later =>
          rw [List.map_cons, List.map_cons, each first.2, inductionHypothesis later]

theorem shard_get {rows : List (List TreeNode)} {number : Nat} {files : List TreeFile}
    (shards : List.Forall₂ (Shard sha256) (rows.zipIdx number) files) {i : Nat}
    (inRows : i < rows.length) (inFiles : i < files.length) :
    Shard sha256 (rows[i], number + i) files[i] := by
  have inside : i < (rows.zipIdx number).length := List.length_zipIdx.symm ▸ inRows
  have isShard := shards.get inside inFiles
  rw [List.get_eq_getElem, List.get_eq_getElem, List.getElem_zipIdx] at isShard
  exact isShard

/-- The file with number `i` was made of block `i`, under that number. -/
theorem shard_at {rows : List (List TreeNode)} {number : Nat} {files : List TreeFile}
    (shards : List.Forall₂ (Shard sha256) (rows.zipIdx number) files) {i : Nat}
    {file : TreeFile} (present : files[i]? = some file) :
    ∃ block, rows[i]? = some block ∧ Shard sha256 (block, number + i) file := by
  obtain ⟨inFiles, rfl⟩ := List.getElem?_eq_some_iff.mp present
  have inRows : i < rows.length := by
    rw [← List.length_zipIdx, shards.length_eq]
    exact inFiles
  exact ⟨rows[i], List.getElem?_eq_getElem inRows, shard_get shards inRows inFiles⟩

/-- Block `i` was made the file with number `i`. -/
theorem shard_of_block {rows : List (List TreeNode)} {number : Nat}
    {files : List TreeFile}
    (shards : List.Forall₂ (Shard sha256) (rows.zipIdx number) files) {i : Nat}
    {block : List TreeNode} (present : rows[i]? = some block) :
    ∃ file, files[i]? = some file ∧ Shard sha256 (block, number + i) file := by
  obtain ⟨inRows, rfl⟩ := List.getElem?_eq_some_iff.mp present
  have inFiles : i < files.length := by
    rw [← shards.length_eq, List.length_zipIdx]
    exact inRows
  exact ⟨files[i], List.getElem?_eq_getElem inFiles, shard_get shards inRows inFiles⟩

theorem shard_of_mem {rows : List (List TreeNode)} {number : Nat} {files : List TreeFile}
    (shards : List.Forall₂ (Shard sha256) (rows.zipIdx number) files) {file : TreeFile}
    (member : file ∈ files) :
    ∃ block ∈ rows, ∃ version,
      AirdropMerkleTree.new sha256 block version = .ok file.tree := by
  obtain ⟨i, present⟩ := List.mem_iff_getElem?.mp member
  obtain ⟨block, isBlock, isShard⟩ := shard_at shards present
  exact ⟨block, List.mem_of_getElem? isBlock, _, isShard.2⟩

/-- Blocks that each make a tree make the files. -/
theorem exists_shards {rows : List (List TreeNode)} (number : Nat)
    (each : ∀ block ∈ rows, ∀ version, ∃ tree,
      AirdropMerkleTree.new sha256 block version = .ok tree) :
    ∃ files, List.Forall₂ (Shard sha256) (rows.zipIdx number) files := by
  induction rows generalizing number with
  | nil => exact ⟨[], .nil⟩
  | cons block rows inductionHypothesis =>
      rw [List.forall_mem_cons] at each
      obtain ⟨tree, built⟩ := each.1 (BitVec.ofNat 64 number)
      obtain ⟨files, shards⟩ := inductionHypothesis (number + 1) each.2
      exact ⟨{ name := _, tree } :: files, .cons ⟨rfl, built⟩ shards⟩

end Sums

/-! ## The test wallets -/

section TestWallets

variable {sha256 : Bytes → Hash} {texts : Texts} {args : CreateMerkleTreeArgs}
variable {testRows : List TreeNode}

/-- The rows of the test list are for its wallets. -/
theorem mem_testRows (valid : Parsed texts args.decimals (testEntries args) testRows)
    (key : Pubkey) :
    key ∈ testRows.map TreeNode.claimant ↔ OnTestList texts key := by
  have names : (testRows.map TreeNode.claimant).map texts.pubkeyText = getTestList := by
    rw [valid.names]
    rfl
  rw [OnTestList, ← names]
  exact (List.mem_map_of_injective texts.pubkeyText_injective).symm

/-- The kept rows are for none of the test wallets, where these are taken out. -/
theorem not_mem_keptRows (included : args.shouldIncludeTestList = true)
    {rows : List TreeNode} {key : Pubkey} (listed : OnTestList texts key) :
    key ∉ (keptRows texts args rows).map TreeNode.claimant := by
  intro member
  obtain ⟨row, isRow, rfl⟩ := List.mem_map.mp member
  rw [keptRows, if_pos included, List.mem_filter, decide_eq_true_eq] at isRow
  exact isRow.2 listed

/-- The kept rows hold all that the rows hold for every other key. -/
theorem claimantSum_keptRows {rows : List TreeNode} {key : Pubkey}
    (other : ¬ (args.shouldIncludeTestList = true ∧ OnTestList texts key))
    (locked : Bool) :
    claimantSum locked key (keptRows texts args rows) = claimantSum locked key rows := by
  unfold keptRows
  split
  · rename_i included
    induction rows with
    | nil => rfl
    | cons row rows inductionHypothesis =>
        rw [List.filter_cons]
        by_cases listed : OnTestList texts row.claimant
        · have apart : row.claimant ≠ key := by
            rintro rfl
            exact other ⟨included, listed⟩
          rw [if_neg (by simp [listed]), inductionHypothesis, claimantSum_cons,
            if_neg apart, Nat.zero_add]
        · rw [if_pos (by simp [listed]), claimantSum_cons, claimantSum_cons,
            inductionHypothesis]
  · rfl

theorem length_keptRows_le (rows : List TreeNode) :
    (keptRows texts args rows).length ≤ rows.length := by
  unfold keptRows
  split
  · exact List.length_filter_le _ _
  · exact le_rfl

end TestWallets

/-! ## The split -/

/-- The files make up a split of the rows: `shards` are the trees over consecutive
blocks of the kept rows, and `testTrees` is the tree of the test wallets, where it is
asked for. -/
structure Sharded (sha256 : Bytes → Hash) (texts : Texts) (args : CreateMerkleTreeArgs)
    (rows : List TreeNode) (shards testTrees : List TreeFile) : Prop where
  numbered : ∀ i file, (shards ++ testTrees)[i]? = some file →
    file.name = treeFileName (BitVec.ofNat 64 i) ∧ file.tree.airdropVersion.toNat = i
  built : List.Forall₂ (fun block file => ∃ version,
      AirdropMerkleTree.new sha256 block version = .ok file.tree)
    (blocks args.maxNodesPerTree.toNat (keptRows texts args rows)) shards
  claimants : ∀ file ∈ shards, 1 ≤ file.tree.treeNodes.length ∧
    file.tree.treeNodes.length ≤ args.maxNodesPerTree.toNat
  allocations : ∀ key, ¬ (args.shouldIncludeTestList = true ∧ OnTestList texts key) →
    ∀ locked, ((shards ++ testTrees).map fun file =>
      claimantSum locked key file.tree.treeNodes).sum = claimantSum locked key rows
  totals : ∃ totals, (shards.mapM fun file => file.tree.getMaxTotalClaim :
      Except (Stop MerkleTreeError) (List U64)) = .ok totals ∧
    (totals.map BitVec.toNat).sum =
      totalSum false (keptRows texts args rows) + totalSum true (keptRows texts args rows)
  testList : args.shouldIncludeTestList = true → ∃ file, testTrees = [file] ∧
    ∀ key, OnTestList texts key → key ∈ file.tree.treeNodes.map TreeNode.claimant ∧
      ∀ other ∈ shards, key ∉ other.tree.treeNodes.map TreeNode.claimant
  noTestList : args.shouldIncludeTestList = false → testTrees = []

section Split

variable {sha256 : Bytes → Hash} {texts : Texts} {args : CreateMerkleTreeArgs}
variable {rows : List TreeNode} {shards testTrees : List TreeFile}

theorem length_shards_le (positive : 0 < args.maxNodesPerTree.toNat)
    (isShards : List.Forall₂ (Shard sha256)
      (blocks args.maxNodesPerTree.toNat (keptRows texts args rows)).zipIdx shards) :
    shards.length ≤ rows.length := by
  rw [← isShards.length_eq, List.length_zipIdx]
  exact (length_blocks_le positive _).trans (length_keptRows_le rows)

theorem numbered_of_shards (isShards : List.Forall₂ (Shard sha256)
      (blocks args.maxNodesPerTree.toNat (keptRows texts args rows)).zipIdx shards)
    (isTests : TestTrees sha256 texts args shards.length testTrees)
    (counted : shards.length < 2 ^ 64) {i : Nat} {file : TreeFile}
    (present : (shards ++ testTrees)[i]? = some file) :
    file.name = treeFileName (BitVec.ofNat 64 i) ∧ file.tree.airdropVersion.toNat = i := by
  have isShard : i ≤ shards.length ∧ ∃ block, Shard sha256 (block, i) file := by
    rcases Nat.lt_or_ge i shards.length with inside | outside
    · rw [List.getElem?_append_left inside] at present
      obtain ⟨block, _, isShard⟩ := shard_at isShards present
      rw [Nat.zero_add] at isShard
      exact ⟨inside.le, block, isShard⟩
    · rw [List.getElem?_append_right outside] at present
      unfold TestTrees at isTests
      split at isTests
      · obtain ⟨testRows, testFile, _, isShard, rfl⟩ := isTests
        rw [List.getElem?_singleton, ite_eq_iff] at present
        rcases present with ⟨last, here⟩ | ⟨_, nowhere⟩
        · have same : i = shards.length := by omega
          exact ⟨same.le, testRows, same ▸ Option.some.inj here ▸ isShard⟩
        · cases nowhere
      · rw [isTests] at present
        cases present
  obtain ⟨bound, block, name, built⟩ := isShard
  obtain ⟨_, _, _, version, _⟩ := AirdropMerkleTree.new_eq_ok.mp built
  refine ⟨name, ?_⟩
  rw [version, BitVec.toNat_ofNat, Nat.mod_eq_of_lt (by omega)]

theorem claimants_of_shards (positive : 0 < args.maxNodesPerTree.toNat)
    (isShards : List.Forall₂ (Shard sha256)
      (blocks args.maxNodesPerTree.toNat (keptRows texts args rows)).zipIdx shards)
    {file : TreeFile} (member : file ∈ shards) :
    1 ≤ file.tree.treeNodes.length ∧
      file.tree.treeNodes.length ≤ args.maxNodesPerTree.toNat := by
  obtain ⟨block, isBlock, version, built⟩ := shard_of_mem isShards member
  obtain ⟨some, few⟩ := length_of_mem_blocks positive isBlock
  rw [treeNodes_length_of_new built]
  have claimants := (List.dedup_sublist (block.map TreeNode.claimant)).length_le
  rw [List.length_map] at claimants
  have nonempty : (block.map TreeNode.claimant).dedup ≠ [] := by
    rw [Ne, List.dedup_eq_nil, List.map_eq_nil_iff]
    rintro rfl
    cases some
  exact ⟨List.length_pos_iff.mpr nonempty, claimants.trans few⟩

/-- No tree but that of the test wallets holds anything of theirs, and that tree holds
nothing else. -/
theorem claimantSum_testTrees {number : Nat}
    (isTests : TestTrees sha256 texts args number testTrees)
    {key : Pubkey} (other : ¬ (args.shouldIncludeTestList = true ∧ OnTestList texts key))
    (locked : Bool) :
    (testTrees.map fun file => claimantSum locked key file.tree.treeNodes).sum = 0 := by
  unfold TestTrees at isTests
  split at isTests
  · rename_i included
    obtain ⟨testRows, file, valid, ⟨_, built⟩, rfl⟩ := isTests
    have absent : key ∉ testRows.map TreeNode.claimant := by
      rw [mem_testRows valid]
      exact fun listed => other ⟨included, listed⟩
    rw [List.map_singleton, List.sum_singleton, (sums_of_new built).2,
      claimantSum_eq_zero absent]
  · rw [isTests]
    rfl

theorem allocations_of_shards (positive : 0 < args.maxNodesPerTree.toNat)
    (isShards : List.Forall₂ (Shard sha256)
      (blocks args.maxNodesPerTree.toNat (keptRows texts args rows)).zipIdx shards)
    (isTests : TestTrees sha256 texts args shards.length testTrees) {key : Pubkey}
    (other : ¬ (args.shouldIncludeTestList = true ∧ OnTestList texts key))
    (locked : Bool) :
    ((shards ++ testTrees).map fun file =>
      claimantSum locked key file.tree.treeNodes).sum = claimantSum locked key rows := by
  have inShards :
      (shards.map fun file => claimantSum locked key file.tree.treeNodes) =
        (blocks args.maxNodesPerTree.toNat (keptRows texts args rows)).map
          (claimantSum locked key) :=
    map_shards (fun tree => claimantSum locked key tree.treeNodes)
      (claimantSum locked key) (fun built => (sums_of_new built).2 locked key) isShards
  rw [List.map_append, List.sum_append, claimantSum_testTrees isTests other, inShards,
    ← claimantSum_flatten, flatten_blocks positive, claimantSum_keptRows other,
    Nat.add_zero]

theorem totals_of_shards (positive : 0 < args.maxNodesPerTree.toNat)
    (bounded : ∀ block ∈ blocks args.maxNodesPerTree.toNat (keptRows texts args rows),
      totalSum false block + totalSum true block < 2 ^ 64)
    (isShards : List.Forall₂ (Shard sha256)
      (blocks args.maxNodesPerTree.toNat (keptRows texts args rows)).zipIdx shards) :
    ∃ totals, (shards.mapM fun file => file.tree.getMaxTotalClaim :
        Except (Stop MerkleTreeError) (List U64)) = .ok totals ∧
      (totals.map BitVec.toNat).sum = totalSum false (keptRows texts args rows) +
        totalSum true (keptRows texts args rows) := by
  let held (tree : AirdropMerkleTree) : Nat :=
    totalSum false tree.treeNodes + totalSum true tree.treeNodes
  have inShards : (shards.map fun file => held file.tree) =
      (blocks args.maxNodesPerTree.toNat (keptRows texts args rows)).map fun block =>
        totalSum false block + totalSum true block := by
    refine map_shards held _ ?_ isShards
    intro block version tree built
    simp only [held, (sums_of_new built).1]
  have fits (file : TreeFile) (member : file ∈ shards) : held file.tree < 2 ^ 64 := by
    obtain ⟨block, isBlock, version, built⟩ := shard_of_mem isShards member
    simp only [held, (sums_of_new built).1]
    exact bounded block isBlock
  have exact (file : TreeFile) (member : file ∈ shards) :
      (BitVec.ofNat 64 (held file.tree)).toNat = held file.tree := by
    rw [BitVec.toNat_ofNat, Nat.mod_eq_of_lt (fits file member)]
  refine ⟨shards.map fun file => BitVec.ofNat 64 (held file.tree), ?_, ?_⟩
  · apply mapM_eq_ok_map
    intro file member
    obtain ⟨block, isBlock, version, built⟩ := shard_of_mem isShards member
    have whole := builtFrom_of_new built
    rw [AirdropMerkleTree.getMaxTotalClaim, unwrap_eq_ok, checkedAdd_eq_some,
      exact file member, whole.totalUnlocked, whole.totalLocked]
  · rw [List.map_map]
    have same : shards.map (BitVec.toNat ∘ fun file => BitVec.ofNat 64 (held file.tree)) =
        shards.map fun file => held file.tree :=
      List.map_congr_left exact
    rw [same, inShards, List.sum_map_add, ← totalSum_flatten, ← totalSum_flatten,
      flatten_blocks positive]

theorem testList_of_shards (included : args.shouldIncludeTestList = true)
    (isShards : List.Forall₂ (Shard sha256)
      (blocks args.maxNodesPerTree.toNat (keptRows texts args rows)).zipIdx shards)
    (positive : 0 < args.maxNodesPerTree.toNat)
    (isTests : TestTrees sha256 texts args shards.length testTrees) :
    ∃ file, testTrees = [file] ∧ ∀ key, OnTestList texts key →
      key ∈ file.tree.treeNodes.map TreeNode.claimant ∧
        ∀ other ∈ shards, key ∉ other.tree.treeNodes.map TreeNode.claimant := by
  rw [TestTrees, if_pos included] at isTests
  obtain ⟨testRows, file, valid, ⟨_, built⟩, rfl⟩ := isTests
  refine ⟨file, rfl, ?_⟩
  intro key listed
  constructor
  · rw [(builtFrom_of_new built).members, mem_testRows valid]
    exact listed
  · intro other member inTree
    obtain ⟨block, isBlock, version, otherBuilt⟩ := shard_of_mem isShards member
    rw [(builtFrom_of_new otherBuilt).members] at inTree
    obtain ⟨row, inBlock, rfl⟩ := List.mem_map.mp inTree
    have kept : row ∈ keptRows texts args rows := by
      rw [← flatten_blocks positive (keptRows texts args rows)]
      exact List.mem_flatten_of_mem isBlock inBlock
    exact not_mem_keptRows included listed (List.mem_map_of_mem kept)

/-- The files that the command writes are a split of the rows. -/
theorem sharded_of_shards (positive : 0 < args.maxNodesPerTree.toNat)
    (counted : rows.length < 2 ^ 64)
    (bounded : ∀ block ∈ blocks args.maxNodesPerTree.toNat (keptRows texts args rows),
      totalSum false block + totalSum true block < 2 ^ 64)
    (isShards : List.Forall₂ (Shard sha256)
      (blocks args.maxNodesPerTree.toNat (keptRows texts args rows)).zipIdx shards)
    (isTests : TestTrees sha256 texts args shards.length testTrees) :
    Sharded sha256 texts args rows shards testTrees where
  numbered := by
    intro i file present
    have few := (length_shards_le positive isShards).trans_lt counted
    exact numbered_of_shards isShards isTests few present
  built := by
    rw [← List.zipIdx_map_fst 0 (blocks args.maxNodesPerTree.toNat _),
      List.forall₂_map_left_iff]
    exact isShards.imp fun _ _ isShard => ⟨_, isShard.2⟩
  claimants := fun _ member => claimants_of_shards positive isShards member
  allocations := fun _ other => allocations_of_shards positive isShards isTests other
  totals := totals_of_shards positive bounded isShards
  testList := fun included => testList_of_shards included isShards positive isTests
  noTestList := by
    intro excluded
    rw [TestTrees, if_neg (by simp [excluded])] at isTests
    exact isTests

/-- Where the amounts of each block fit and belong to fewer than `2 ^ 32` claimants,
the command ends. -/
theorem exists_created (sha256 : Bytes → Hash) (positive : 0 < args.maxNodesPerTree.toNat)
    {entries : List CsvEntry} (valid : Parsed texts args.decimals entries rows)
    (fits : ∀ block ∈ blocks args.maxNodesPerTree.toNat (keptRows texts args rows),
      (block.map TreeNode.claimant).dedup.length < 2 ^ 32 ∧
        totalSum false block + totalSum true block < 2 ^ 64)
    (testsFit : args.shouldIncludeTestList = true → ∃ testRows,
      Parsed texts args.decimals (testEntries args) testRows ∧
        ∀ locked, totalSum locked testRows < 2 ^ 64) :
    ∃ shards testTrees,
      processCreateMerkleTree sha256 texts args entries = .ok (shards ++ testTrees) ∧
      List.Forall₂ (Shard sha256)
        (blocks args.maxNodesPerTree.toNat (keptRows texts args rows)).zipIdx shards ∧
      TestTrees sha256 texts args shards.length testTrees := by
  have eachBlock : ∀ block ∈ blocks args.maxNodesPerTree.toNat (keptRows texts args rows),
      ∀ version, ∃ tree, AirdropMerkleTree.new sha256 block version = .ok tree := by
    intro block isBlock version
    obtain ⟨few, bounded⟩ := fits block isBlock
    apply exists_new_iff.mpr
    refine ⟨?_, few, ?_⟩
    · rintro rfl
      cases (length_of_mem_blocks positive isBlock).1
    · rintro (_ | _)
      · omega
      · omega
  obtain ⟨shards, isShards⟩ := exists_shards 0 eachBlock
  obtain ⟨testTrees, isTests⟩ : ∃ testTrees,
      TestTrees sha256 texts args shards.length testTrees := by
    by_cases included : args.shouldIncludeTestList = true
    · obtain ⟨testRows, validTests, bounded⟩ := testsFit included
      have three : testRows.length = 3 := validTests.length_eq.symm
      have claimants := (List.dedup_sublist (testRows.map TreeNode.claimant)).length_le
      rw [List.length_map] at claimants
      obtain ⟨tree, built⟩ := (@exists_new_iff sha256 testRows
        (BitVec.ofNat 64 shards.length)).mpr
          ⟨List.ne_nil_of_length_eq_add_one three, by omega, bounded⟩
      refine ⟨[{ name := treeFileName (BitVec.ofNat 64 shards.length), tree }], ?_⟩
      rw [TestTrees, if_pos included]
      exact ⟨testRows, _, validTests, ⟨rfl, built⟩, rfl⟩
    · refine ⟨[], ?_⟩
      rw [TestTrees, if_neg included]
  refine ⟨shards, testTrees, ?_, isShards, isTests⟩
  rw [processCreateMerkleTree_eq_ok positive]
  exact ⟨_, shards, testTrees, valid.trimmed, isShards, isTests, rfl⟩

/-- Sharding loses and invents nothing.  For every allocation list whose entries are
valid, where the amounts of each block fit and belong to fewer than `2 ^ 32` claimants,
the command ends, and the trees it writes are a split of the rows.  The number of
entries is the length of a vector. -/
theorem sharding_exact (sha256 : Bytes → Hash) {texts : Texts}
    {args : CreateMerkleTreeArgs} {entries : List CsvEntry} {rows : List TreeNode}
    (positive : 1 ≤ args.maxNodesPerTree.toNat) (counted : entries.length < 2 ^ 64)
    (valid : Parsed texts args.decimals entries rows)
    (fits : ∀ block ∈ blocks args.maxNodesPerTree.toNat (keptRows texts args rows),
      (block.map TreeNode.claimant).dedup.length < 2 ^ 32 ∧
        totalSum false block + totalSum true block < 2 ^ 64)
    (testsFit : args.shouldIncludeTestList = true → ∃ testRows,
      Parsed texts args.decimals (testEntries args) testRows ∧
        ∀ locked, totalSum locked testRows < 2 ^ 64) :
    ∃ shards testTrees,
      processCreateMerkleTree sha256 texts args entries = .ok (shards ++ testTrees) ∧
        Sharded sha256 texts args rows shards testTrees := by
  obtain ⟨shards, testTrees, created, isShards, isTests⟩ :=
    exists_created sha256 positive valid fits testsFit
  refine ⟨shards, testTrees, created, ?_⟩
  rw [valid.length_eq] at counted
  exact sharded_of_shards positive counted (fun block isBlock => (fits block isBlock).2)
    isShards isTests

end Split

/-! ## A small list -/

section Sample

/-- Decimal numbers without a fraction. -/
def wholeNumber (text : String) : Option Nat :=
  if text = "" then
    none
  else
    text.toList.foldlM (fun value char =>
      if char.isDigit then some (value * 10 + (char.toNat - '0'.toNat)) else none) 0

/-- Keys in base 58, and decimal numbers of 96 bits, of those without a fraction. -/
def base58Texts : Texts where
  Decimal := Nat
  parsePubkey := Base58.decode
  pubkeyText := Base58.encode
  parseDecimal := fun text => (wholeNumber text).filter (· < 2 ^ 96)
  decimalFromU64 := fun value => some value.toNat
  decimalCheckedMul := fun one other =>
    if one * other < 2 ^ 96 then some (one * other) else none
  decimalFloor := id
  decimalToU64 := fun value => if value < 2 ^ 64 then some (BitVec.ofNat 64 value) else none
  parse_text := Base58.decode_encode
  parse_injective := by
    intro one other key parsed parsedOther
    rw [← Base58.decode_eq_some parsed, ← Base58.decode_eq_some parsedOther]

/-- One row to a tree, and a tree for the test wallets. -/
def testListArgs : CreateMerkleTreeArgs :=
  { maxNodesPerTree := 1, shouldIncludeTestList := true, amount := 7, decimals := 2 }

/-- Alice, in two rows, Bob, and one of the test wallets. -/
def sampleEntries : List CsvEntry :=
  [{ pubkey := Base58.encode alice, amount := "1", lockedAmount := some "3" },
   { pubkey := Base58.encode bob, amount := "2", lockedAmount := none },
   { pubkey := "62ucxc2gd5TBCwzToEEWVV4M5drVK7Fi7aYozniqWtac", amount := "5"
     lockedAmount := none },
   { pubkey := Base58.encode alice, amount := "4", lockedAmount := none }]

/-- The test wallets. -/
def testWallets : List Pubkey :=
  [.ofNat 0x4ac7835685623c76a07f9112633be039096c8e83534977ba66a63c2802df4db1,
   .ofNat 0xf6ea07600998d12cb99a4f86e545b1c61a942a83b2fa162521e6de14f05b0cf4,
   .ofNat 0xb67b9e97d1e2912d6cc8c7ffa0863d24fff2845f85d36ad462d1414821158820]

/-- The rows of `sampleEntries`. -/
def sampleRows : List TreeNode :=
  [{ claimant := alice, amount := 100, lockedAmount := 300, proof := none },
   { claimant := bob, amount := 200, lockedAmount := 0, proof := none },
   { claimant := .ofNat 0x4ac7835685623c76a07f9112633be039096c8e83534977ba66a63c2802df4db1
     amount := 500, lockedAmount := 0, proof := none },
   { claimant := alice, amount := 400, lockedAmount := 0, proof := none }]

theorem sampleEntries_parsed :
    Parsed base58Texts testListArgs.decimals sampleEntries sampleRows :=
  mapM_eq_ok.mp (by decide +kernel)

/-- The rows of the test wallets. -/
def sampleTestRows : List TreeNode :=
  testWallets.map fun key =>
    { claimant := key, amount := 700, lockedAmount := 0, proof := none }

theorem testEntries_parsed :
    Parsed base58Texts testListArgs.decimals (testEntries testListArgs) sampleTestRows :=
  mapM_eq_ok.mp (by decide +kernel)

theorem sharding_exact_sample :
    ∃ shards testTrees,
      processCreateMerkleTree sampleSha256 base58Texts testListArgs sampleEntries =
          .ok (shards ++ testTrees) ∧
        Sharded sampleSha256 base58Texts testListArgs sampleRows shards testTrees := by
  apply sharding_exact sampleSha256
  · decide
  · decide
  · exact sampleEntries_parsed
  · decide +kernel
  · intro _
    exact ⟨sampleTestRows, testEntries_parsed, by decide⟩

/-! ### Where the split falls short -/

/-- Rows for as many claimants as wanted. -/
def crowd (count : Nat) : List CsvEntry :=
  (List.range count).map fun i =>
    { pubkey := Base58.encode (.ofNat i), amount := "1", lockedAmount := none }

def crowdRow (i : Nat) : TreeNode :=
  { claimant := .ofNat i, amount := 1, lockedAmount := 0, proof := none }

@[inherit_doc crowd]
def crowdRows (count : Nat) : List TreeNode := (List.range count).map crowdRow

/-- All of a crowd in one tree. -/
def crowdArgs : CreateMerkleTreeArgs :=
  { maxNodesPerTree := BitVec.ofNat 64 (2 ^ 32), shouldIncludeTestList := false
    amount := 0, decimals := 0 }

theorem crowd_parsed (count : Nat) :
    Parsed base58Texts crowdArgs.decimals (crowd count) (crowdRows count) := by
  rw [Parsed, crowd, crowdRows, List.forall₂_map_left_iff, List.forall₂_map_right_iff,
    List.forall₂_same]
  intro i _
  have parsed : base58Texts.parsePubkey (Base58.encode (.ofNat i)) = some (.ofNat i) :=
    Base58.decode_encode _
  have one : (uiAmountToTokenAmount base58Texts "1" crowdArgs.decimals :
      Except (Stop MerkleTreeError) U64) = .ok 1 := by
    decide +kernel
  rw [TreeNode.fromCsv, parsed, unwrap_some, ok_bind, one]
  rfl

theorem crowdRows_totals (count : Nat) (locked : Bool) :
    totalSum locked (crowdRows count) ≤ count := by
  have each (numbers : List Nat) :
      totalSum locked (numbers.map crowdRow) ≤ numbers.length := by
    induction numbers with
    | nil => exact le_rfl
    | cons i numbers inductionHypothesis =>
        have one : ((crowdRow i).amountOf locked).toNat ≤ 1 := by
          cases locked
          · exact le_rfl
          · exact Nat.zero_le _
        rw [List.map_cons, totalSum_cons, List.length_cons]
        omega
  exact (each (List.range count)).trans_eq List.length_range

theorem crowdRows_distinct {count : Nat} (few : count ≤ 256 ^ 32) :
    ((crowdRows count).map TreeNode.claimant).Nodup := by
  rw [crowdRows, List.map_map]
  apply List.Nodup.map_on _ List.nodup_range
  intro one oneInside other otherInside same
  have bytes : leBytes 32 one = leBytes 32 other :=
    List.reverse_injective (congrArg Bytes32.toBytes same)
  rw [List.mem_range] at oneInside otherInside
  exact leBytes_inj (oneInside.trans_le few) (otherInside.trans_le few) bytes

/-- No tree is written for a crowd of `2 ^ 32` or more. -/
theorem crowd_refused (sha256 : Bytes → Hash) {count : Nat} (many : 2 ^ 32 ≤ count)
    (few : count ≤ crowdArgs.maxNodesPerTree.toNat) (files : List TreeFile) :
    processCreateMerkleTree sha256 base58Texts crowdArgs (crowd count) ≠ .ok files := by
  intro created
  have positive : 0 < crowdArgs.maxNodesPerTree.toNat := by decide
  have small : crowdArgs.maxNodesPerTree.toNat ≤ 256 ^ 32 := by decide
  rw [processCreateMerkleTree_eq_ok positive] at created
  obtain ⟨rows, shards, testTrees, valid, isShards, _⟩ := created
  obtain rfl : rows = crowdRows count := valid.unique (crowd_parsed count)
  have length : (crowdRows count).length = count := by simp [crowdRows]
  have nonempty : crowdRows count ≠ [] := by
    intro none
    rw [none, List.length_nil] at length
    omega
  rw [blocks_of_ne_nil positive nonempty, List.take_of_length_le (length.le.trans few),
    List.zipIdx_cons, List.forall₂_cons_left_iff] at isShards
  obtain ⟨file, _, ⟨_, built⟩, _⟩ := isShards
  have claimants := (exists_new_iff.mp ⟨_, built⟩).2.1
  rw [(crowdRows_distinct (few.trans small)).dedup, List.length_map, length] at claimants
  omega

/-- The tree of the test wallets is as large as their list, whatever the size of the
other trees; and a block of `2 ^ 32` claimants is refused. -/
theorem testTree_exceeds_blocks :
    (∃ files, processCreateMerkleTree sampleSha256 base58Texts testListArgs sampleEntries =
        .ok files ∧
      ∃ file ∈ files,
        testListArgs.maxNodesPerTree.toNat < file.tree.treeNodes.length) ∧
    totalSum false (crowdRows (2 ^ 32)) + totalSum true (crowdRows (2 ^ 32)) < 2 ^ 64 ∧
    Parsed base58Texts crowdArgs.decimals (crowd (2 ^ 32)) (crowdRows (2 ^ 32)) ∧
    ∀ files, processCreateMerkleTree sampleSha256 base58Texts crowdArgs (crowd (2 ^ 32)) ≠
      .ok files := by
  refine ⟨?_, ?_, crowd_parsed _, crowd_refused sampleSha256 le_rfl (by decide)⟩
  · obtain ⟨shards, testTrees, created, _, isTests⟩ :=
      exists_created sampleSha256 (by decide : 0 < testListArgs.maxNodesPerTree.toNat)
        sampleEntries_parsed (by decide +kernel)
        fun _ => ⟨sampleTestRows, testEntries_parsed, by decide⟩
    refine ⟨_, created, ?_⟩
    obtain ⟨testRows, file, valid, ⟨_, built⟩, rfl⟩ := isTests
    refine ⟨file, by simp, ?_⟩
    rw [treeNodes_length_of_new built, valid.unique testEntries_parsed]
    have three : 1 < (sampleTestRows.map TreeNode.claimant).dedup.length := by decide
    exact three
  · have unlocked := crowdRows_totals (2 ^ 32) false
    have locked := crowdRows_totals (2 ^ 32) true
    omega

end Sample

end Airdrop
