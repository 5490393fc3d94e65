/-
Module: Airdrop.Proofs.KvExport
Purpose: The key-value export of a folder holds the same records as a server that
  loaded it: merging the exported files answers every request as the server does.
Trusted boundary: none
Main exports: KvProof.served, kvEntries, Exported, exportNode_step, kvExport_agrees
-/
import Airdrop.Cli.GenerateKvProof
import Airdrop.Proofs.ServerSpecs
import Airdrop.Proofs.Sharding

namespace Airdrop

open Checked LastWins

/-- The record as the server gives it. -/
def KvProof.served (self : KvProof) : UserProof :=
  { merkleTree := self.merkleTree
    amount := self.amount
    lockedAmount := self.lockedAmount
    proof := self.proof }

/-- The server's arguments for the same distributors. -/
def CliArgs.api (self : CliArgs) : ApiArgs :=
  { base := self.base, mint := self.mint, programId := self.programId }

/-- The record that belongs to an entry of the server. -/
def kvProof (texts : Texts) (served : Pubkey × TreeNode) : KvProof :=
  { merkleTree := texts.pubkeyText served.1
    amount := served.2.amount
    lockedAmount := served.2.lockedAmount
    proof := served.2.proof.getD [] }

/-- What the export inserts for an entry of the server. -/
def kvEntry (texts : Texts) (entry : Pubkey × (Pubkey × TreeNode)) : String × KvProof :=
  (texts.pubkeyText entry.1, kvProof texts entry.2)

/-! ## The loops -/

/-- What holds after some entries: the files and the pending proofs together hold what
was inserted last, the files are no larger than allowed, and the pending proofs do not
make up a file yet. -/
structure Exported (limit : Nat) (processed : List (String × KvProof))
    (state : KvExport) : Prop where
  found : ∀ text, (state.proofs.lookup text).or ((merge state.files).lookup text) =
    lastValue processed text
  sizes : ∀ file ∈ state.files, file.keys.length ≤ max 1 limit
  pending : state.proofs.keys.length < max 1 limit

section Loops

variable {findProgramAddress : List Bytes → Pubkey → Pubkey × UInt8} {texts : Texts}
variable {args : CliArgs} {kvArgs : GenerateKvProofArgs}

/-- One round of the inner loop, on a node with a proof. -/
theorem exportNode_step {processed : List (String × KvProof)} {state : KvExport}
    (exported : Exported kvArgs.maxEntriesPerFile.toNat processed state)
    (distributor : Pubkey) {node : TreeNode} (proved : node.proof.isSome) :
    ∃ next, exportNode texts kvArgs distributor state node = .ok next ∧
      Exported kvArgs.maxEntriesPerFile.toNat
        (processed ++ [kvEntry texts (node.claimant, (distributor, node))]) next := by
  obtain ⟨proof, isProof⟩ := Option.isSome_iff_exists.mp proved
  let proofs : KvFile := state.proofs.insert (texts.pubkeyText node.claimant)
    (kvProof texts (distributor, node))
  have inserted (text : String) : (proofs.lookup text).or ((merge state.files).lookup text) =
      lastValue (processed ++ [kvEntry texts (node.claimant, (distributor, node))])
        text := by
    rw [lastValue_append, lastValue_singleton, ← exported.found, ← Option.or_assoc]
    congr 1
    exact lookup_insert_eq state.proofs (kvEntry texts (node.claimant, (distributor, node)))
      text
  have grown : proofs.keys.length ≤ max 1 kvArgs.maxEntriesPerFile.toNat :=
    (length_insert_le _ _ _).trans exported.pending
  have sameProof : ({ merkleTree := texts.pubkeyText distributor, amount := node.amount
                      lockedAmount := node.lockedAmount, proof } : KvProof) =
      kvProof texts (distributor, node) := by
    rw [kvProof, isProof]
    rfl
  rw [exportNode]
  simp only [isProof, okOr, ok_bind, sameProof]
  change ∃ next, (if kvArgs.maxEntriesPerFile.toNat ≤ proofs.keys.length then _ else _) = _ ∧ _
  by_cases full : kvArgs.maxEntriesPerFile.toNat ≤ proofs.keys.length
  · rw [if_pos full]
    refine ⟨_, rfl, ?_, ?_, ?_⟩
    · intro text
      rw [AList.lookup_empty, Option.none_or, lookup_merge_append, inserted]
    · intro file member
      rcases List.mem_append.mp member with earlier | here
      · exact exported.sizes file earlier
      · rw [List.mem_singleton.mp here]
        exact grown
    · rw [AList.keys_empty, List.length_nil]
      omega
  · rw [if_neg full]
    refine ⟨_, rfl, inserted, exported.sizes, ?_⟩
    change proofs.keys.length < _
    omega

/-- What the export inserts for a tree. -/
def kvEntries (findProgramAddress : List Bytes → Pubkey → Pubkey × UInt8) (texts : Texts)
    (args : CliArgs) (file : TreeFile) : List (String × KvProof) :=
  (servedEntries findProgramAddress args.api file).map (kvEntry texts)

/-- One round of the outer loop, on a tree whose nodes have proofs. -/
theorem exportTree_step {processed : List (String × KvProof)} {state : KvExport}
    (exported : Exported kvArgs.maxEntriesPerFile.toNat processed state)
    {file : TreeFile} (proved : ∀ node ∈ file.tree.treeNodes, node.proof.isSome) :
    ∃ next, exportTree findProgramAddress texts args kvArgs state file = .ok next ∧
      Exported kvArgs.maxEntriesPerFile.toNat
        (processed ++ kvEntries findProgramAddress texts args file) next := by
  obtain ⟨next, done, exportedNext⟩ := exists_foldlM
    (exportNode texts kvArgs (distributorOf findProgramAddress args.api file.tree))
    file.tree.treeNodes state
    (fun finished state => Exported kvArgs.maxEntriesPerFile.toNat
      (processed ++ finished.map fun node => kvEntry texts
        (node.claimant, (distributorOf findProgramAddress args.api file.tree, node)))
      state)
    (by simpa using exported) (by
      rintro finished node state ⟨later, whole⟩ holds
      have member : node ∈ file.tree.treeNodes := by simp [← whole]
      obtain ⟨next, now, nextHolds⟩ := exportNode_step holds
        (distributorOf findProgramAddress args.api file.tree) (proved node member)
      refine ⟨next, now, ?_⟩
      rw [List.map_append, List.map_singleton, ← List.append_assoc]
      exact nextHolds)
  refine ⟨next, done, ?_⟩
  rw [kvEntries, servedEntries, List.map_map]
  exact exportedNext

/-- The command writes files that together hold what was inserted last. -/
theorem exists_export {listing : List TreeFile}
    (proved : ∀ file ∈ listing, ∀ node ∈ file.tree.treeNodes, node.proof.isSome) :
    ∃ kvFiles,
      processGenerateKvProof findProgramAddress texts args kvArgs listing =
        .ok kvFiles ∧
      (∀ text, (merge kvFiles).lookup text = lastValue
        ((sortByPath listing).flatMap (kvEntries findProgramAddress texts args)) text) ∧
      ∀ file ∈ kvFiles, file.keys.length ≤ max 1 kvArgs.maxEntriesPerFile.toNat := by
  have start : Exported kvArgs.maxEntriesPerFile.toNat [] { proofs := ∅, files := [] } :=
    { found := fun _ => rfl
      sizes := fun _ member => absurd member List.not_mem_nil
      pending := by
        rw [AList.keys_empty, List.length_nil]
        omega }
  obtain ⟨state, done, exported⟩ := exists_foldlM
    (exportTree findProgramAddress texts args kvArgs) (sortByPath listing)
    { proofs := ∅, files := [] }
    (fun finished state => Exported kvArgs.maxEntriesPerFile.toNat
      (finished.flatMap (kvEntries findProgramAddress texts args)) state)
    start (by
      rintro finished file state ⟨later, whole⟩ holds
      have member : file ∈ listing := by
        rw [← (sortByPath_perm listing).mem_iff, ← whole]
        simp
      rw [List.flatMap_append, List.flatMap_singleton]
      exact exportTree_step holds (proved file member))
  rw [processGenerateKvProof]
  simp only [done, ok_bind]
  by_cases rest : 0 < state.proofs.keys.length
  · rw [if_pos rest]
    refine ⟨_, rfl, ?_, ?_⟩
    · intro text
      rw [lookup_merge_append, exported.found]
    · intro file member
      rcases List.mem_append.mp member with earlier | here
      · exact exported.sizes file earlier
      · rw [List.mem_singleton.mp here]
        exact exported.pending.le
  · rw [if_neg rest]
    refine ⟨_, rfl, ?_, exported.sizes⟩
    intro text
    have none : state.proofs.lookup text = none := by
      rw [AList.lookup_eq_none, AList.mem_keys]
      intro member
      exact rest (List.length_pos_of_mem member)
    rw [← exported.found, none, Option.none_or]

end Loops

/-! ## Agreement with the server -/

section Agreement

variable {findProgramAddress : List Bytes → Pubkey → Pubkey × UInt8} {texts : Texts}
variable {args : CliArgs}

theorem flatMap_kvEntries (files : List TreeFile) :
    files.flatMap (kvEntries findProgramAddress texts args) =
      (files.flatMap (servedEntries findProgramAddress args.api)).map (kvEntry texts) := by
  rw [List.map_flatMap]
  rfl

theorem mem_keys_kvEntries {files : List TreeFile} {text : String} :
    text ∈ (files.flatMap (kvEntries findProgramAddress texts args)).map Prod.fst ↔
      ∃ file ∈ files, ∃ node ∈ file.tree.treeNodes,
        texts.pubkeyText node.claimant = text := by
  simp [kvEntries, servedEntries, kvEntry, List.mem_flatMap]

/-- What the server finds is a node of one of its trees. -/
theorem node_of_lastValue {files : List TreeFile} {key distributor : Pubkey}
    {node : TreeNode}
    (found : lastValue (files.flatMap (servedEntries findProgramAddress args.api)) key =
      some (distributor, node)) :
    ∃ file ∈ files, node ∈ file.tree.treeNodes := by
  obtain ⟨file, isFile, member⟩ := List.mem_flatMap.mp (mem_of_lastValue found)
  obtain ⟨_, isNode, same⟩ := List.mem_map.mp member
  cases same
  exact ⟨file, isFile, isNode⟩

/-- The export and the server describe the same proofs.  Both go through the folder in
the order of the file names, however it was listed to them.  Merging the exported
files gives exactly the records that the server answers with. -/
theorem kvExport_agrees (findProgramAddress : List Bytes → Pubkey → Pubkey × UInt8)
    (texts : Texts) (args : CliArgs) (kvArgs : GenerateKvProofArgs)
    {folder kvListing : List TreeFile} (distinct : (folder.map TreeFile.name).Nodup)
    (proved : ∀ file ∈ folder, ∀ node ∈ file.tree.treeNodes, node.proof.isSome)
    (kvLists : kvListing.Perm folder) :
    ∃ kvFiles,
      processGenerateKvProof findProgramAddress texts args kvArgs kvListing =
        .ok kvFiles ∧
      (∀ file ∈ kvFiles, file.keys.length ≤ max 1 kvArgs.maxEntriesPerFile.toNat) ∧
      (∀ text, text ∈ merge kvFiles ↔ ∃ file ∈ folder, ∃ node ∈ file.tree.treeNodes,
        texts.pubkeyText node.claimant = text) ∧
      ∀ apiListing state, apiListing.Perm folder →
        loadTrees findProgramAddress texts args.api apiListing = .ok state →
        ∀ text record, getUserInfo texts state text = .ok record ↔
          ∃ kvProof, (merge kvFiles).lookup text = some kvProof ∧
            kvProof.served = record := by
  obtain ⟨kvFiles, written, found, sizes⟩ := exists_export
    (fun file member => proved file (kvLists.mem_iff.mp member))
  rw [sortByPath_eq distinct kvLists] at found
  refine ⟨kvFiles, written, sizes, ?_, ?_⟩
  · intro text
    rw [← AList.lookup_isSome, found, ← Option.ne_none_iff_isSome, Ne,
      lastValue_eq_none, not_not, mem_keys_kvEntries]
    simp only [(sortByPath_perm folder).mem_iff]
  · intro apiListing state apiLists loaded text record
    have held := lookup_of_loadTrees loaded
    rw [sortByPath_eq distinct apiLists] at held
    simp only [found, flatMap_kvEntries, getUserInfo_eq_ok, held]
    constructor
    · rintro ⟨key, distributor, node, proof, parsed, isNode, isProof, rfl⟩
      refine ⟨kvProof texts (distributor, node), ?_, ?_⟩
      · rw [← Texts.text_of_parse parsed]
        have renamed := lastValue_map texts.pubkeyText_injective (kvProof texts)
          ((sortByPath folder).flatMap (servedEntries findProgramAddress args.api)) key
        rw [isNode] at renamed
        exact renamed
      · rw [kvProof, isProof]
        rfl
    · rintro ⟨answer, isAnswer, rfl⟩
      obtain ⟨⟨key, served⟩, isEntry, same⟩ := List.mem_map.mp (mem_of_lastValue isAnswer)
      obtain rfl : texts.pubkeyText key = text := congrArg Prod.fst same
      have renamed := lastValue_map texts.pubkeyText_injective (kvProof texts)
        ((sortByPath folder).flatMap (servedEntries findProgramAddress args.api)) key
      have isMapped := renamed.symm.trans isAnswer
      obtain ⟨⟨distributor, node⟩, isNode, rfl⟩ := Option.map_eq_some_iff.mp isMapped
      obtain ⟨file, isFile, inTree⟩ := node_of_lastValue isNode
      have inFolder : file ∈ folder := (sortByPath_perm folder).mem_iff.mp isFile
      obtain ⟨proof, isProof⟩ :=
        Option.isSome_iff_exists.mp (proved file inFolder node inTree)
      refine ⟨key, distributor, node, proof, texts.parse_text key, isNode, isProof, ?_⟩
      rw [kvProof, isProof]
      rfl

end Agreement

section Sample

/-- Two trees over the same claimants, under two versions. -/
def sampleFolder : List TreeFile :=
  [{ name := "tree_0.json", tree := sampleTree },
   { name := "tree_1.json", tree := { unlockedTree with airdropVersion := 1 } }]

@[inherit_doc sampleApiArgs]
def sampleCliArgs : CliArgs :=
  { mint := sampleMint, base := sampleBase, programId := sampleProgramId }

/-- The distributor of version 1 and Alice's node of its tree. -/
def aliceServed : Pubkey × TreeNode :=
  (distributorOf folderFind sampleApiArgs { unlockedTree with airdropVersion := 1 },
    aliceUnlocked)

/-- A server that has loaded the folder answers Alice with her node of version 1. -/
theorem sampleFolder_served :
    ∃ state,
      loadTrees folderFind base58Texts sampleCliArgs.api sampleFolder = .ok state ∧
      getUserInfo base58Texts state (Base58.encode alice) =
        .ok (kvProof base58Texts aliceServed).served := by
  obtain ⟨state, loaded⟩ :
      ∃ state, loadTrees folderFind base58Texts sampleCliArgs.api sampleFolder = .ok state :=
    exists_loadTrees (by decide) (by decide)
  refine ⟨state, loaded, getUserInfo_eq_ok.mpr ?_⟩
  have held : state.tree.lookup alice = some aliceServed := by
    rw [lookup_of_loadTrees loaded]
    decide +kernel
  exact ⟨alice, aliceServed.1, aliceServed.2, _, base58Texts.parse_text alice, held, rfl,
    rfl⟩

/-- The export of the folder, listed backwards and two records to a file, holds Alice's
record as the loaded server answers it. -/
theorem kvExport_agrees_sample :
    ∃ kvFiles state kvProof,
      processGenerateKvProof folderFind base58Texts sampleCliArgs
        { maxEntriesPerFile := 2 } sampleFolder.reverse = .ok kvFiles ∧
      loadTrees folderFind base58Texts sampleCliArgs.api sampleFolder = .ok state ∧
      (merge kvFiles).lookup (Base58.encode alice) = some kvProof ∧
      getUserInfo base58Texts state (Base58.encode alice) = .ok kvProof.served ∧
      kvProof.amount = 20 ∧ kvProof.lockedAmount = 0 := by
  have distinct : (sampleFolder.map TreeFile.name).Nodup := by decide
  obtain ⟨kvFiles, written, _, _, agrees⟩ :=
    kvExport_agrees folderFind base58Texts sampleCliArgs { maxEntriesPerFile := 2 }
      distinct (by decide) (List.reverse_perm sampleFolder)
  obtain ⟨state, loaded, answered⟩ := sampleFolder_served
  obtain ⟨kvProof, found, same⟩ :=
    (agrees sampleFolder state (.refl _) loaded _ _).mp answered
  rw [← same] at answered
  refine ⟨kvFiles, state, kvProof, written, loaded, found, answered, ?_, ?_⟩
  · exact congrArg UserProof.amount same
  · exact congrArg UserProof.lockedAmount same

end Sample

end Airdrop
