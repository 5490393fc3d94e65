/-
Module: Airdrop.Cli.GenerateKvProof
Purpose: The command that exports the proofs of a folder of trees as key-value files:
  `process_generate_kv_proof.rs`.
Trusted boundary: the JSON of the files, the files written before a panic, and
  messages are left out
Main exports: KvProof, KvExport, exportNode, exportTree, processGenerateKvProof
-/
import Airdrop.Cli.CreateMerkleTree
import Airdrop.Library.LastWins

namespace Airdrop

open Checked LastWins

structure KvProof where
  merkleTree : String
  amount : U64
  lockedAmount : U64
  proof : List Hash
deriving DecidableEq

/-- The contents of one key-value file, a `HashMap` from the claimants' texts. -/
abbrev KvFile := Map String KvProof

/-- `GenerateKvProofArgs`, without the two paths. -/
structure GenerateKvProofArgs where
  maxEntriesPerFile : U64
deriving DecidableEq

/-- The variables of the loops: the proofs collected for the next file, and the files
that are written, the first with index 0. -/
structure KvExport where
  proofs : KvFile
  files : List KvFile

section Command

variable (findProgramAddress : List Bytes → Pubkey → Pubkey × UInt8) (texts : Texts)
variable (args : CliArgs) (generateKvProofArgs : GenerateKvProofArgs)

/-- One round of the inner loop. -/
def exportNode (distributorPubkey : Pubkey) (state : KvExport) (node : TreeNode) :
    Except Halt KvExport := do
  let userPk := node.claimant
  let proof ← okOr node.proof .panic
  let kvProof : KvProof :=
    { merkleTree := texts.pubkeyText distributorPubkey
      amount := node.amount
      lockedAmount := node.lockedAmount
      proof }
  let proofs := state.proofs.insert (texts.pubkeyText userPk) kvProof
  if generateKvProofArgs.maxEntriesPerFile.toNat ≤ proofs.keys.length then
    -- write to file
    pure { proofs := ∅, files := state.files ++ [proofs] }
  else
    pure { state with proofs }

/-- One round of the outer loop. -/
def exportTree (state : KvExport) (file : TreeFile) : Except Halt KvExport :=
  let merkleTree := file.tree
  let (distributorPubkey, _bump) := getMerkleDistributorPda findProgramAddress
    args.programId args.base args.mint merkleTree.airdropVersion
  merkleTree.treeNodes.foldlM (exportNode texts generateKvProofArgs distributorPubkey)
    state

/-- `process_generate_kv_proof`: the files it writes, in index order. -/
def processGenerateKvProof (listing : List TreeFile) : Except Halt (List KvFile) := do
  let paths := sortByPath listing
  let state ← paths.foldlM (exportTree findProgramAddress texts args generateKvProofArgs)
    { proofs := ∅, files := [] }
  if 0 < state.proofs.keys.length then
    pure (state.files ++ [state.proofs])
  else
    pure state.files

end Command

end Airdrop
