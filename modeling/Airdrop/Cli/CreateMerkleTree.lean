/-
Module: Airdrop.Cli.CreateMerkleTree
Purpose: The command that splits the allocation list into trees:
  `process_create_merkle_tree.rs` and `get_test_list` of `cli.rs`.
Trusted boundary: the files written before a panic, and messages, are left out
Main exports: Halt, CliArgs, getTestList, CreateMerkleTreeArgs, treeLoop,
  processCreateMerkleTree
-/
import Airdrop.MerkleTree.CsvEntry
import Airdrop.MerkleTree.TreeFolder

namespace Airdrop

open Checked

/-- How a command ends without a result: it panics, or its loop was not given enough
rounds here. -/
inductive Halt where
  | panic
  | outOfFuel
deriving DecidableEq

/-- `Result::unwrap` on a call that may also panic. -/
def unwrapCall {ε α : Type} (called : Except (Stop ε) α) : Except Halt α :=
  match called with
  | .ok value => .ok value
  | .error _ => .error .panic

@[simp] theorem unwrapCall_eq_ok {ε α : Type} {called : Except (Stop ε) α} {value : α} :
    unwrapCall called = .ok value ↔ called = .ok value := by
  cases called <;> simp [unwrapCall]

/-- `Args` of `cli.rs`, what the commands read of it. -/
structure CliArgs where
  mint : Pubkey
  base : Pubkey
  programId : Pubkey
deriving DecidableEq

/-- The wallet of `keypair_path` and the priority fee, which are among the `Args` too. -/
structure WalletArgs where
  keypair : Pubkey
  priorityFee : Option U64
deriving DecidableEq

/-- `get_test_list` -/
def getTestList : List String :=
  ["62ucxc2gd5TBCwzToEEWVV4M5drVK7Fi7aYozniqWtac",
   "HcrGezZ4vsveZ9vRX1vQU3WRiEzx8T4XcBBv9Hs9Smmd",
   "DHLXnJdACTY83yKwnUkeoDjqi4QBbsYGa1v8tJL76ViX"]

/-- `CreateMerkleTreeArgs`, without the two paths. -/
structure CreateMerkleTreeArgs where
  maxNodesPerTree : U64
  shouldIncludeTestList : Bool
  amount : U64
  decimals : U32
deriving DecidableEq

/-- `format!("tree_{}.json", index)` -/
def treeFileName (index : U64) : String :=
  "tree_" ++ toString index.toNat ++ ".json"

/-- The rows of the test list, all with the same amount. -/
def testEntries (args : CreateMerkleTreeArgs) : List CsvEntry :=
  getTestList.map fun x =>
    { pubkey := x
      amount := toString args.amount.toNat
      lockedAmount := some "0" }

section Command

variable (sha256 : Bytes → Hash) (texts : Texts) (args : CreateMerkleTreeArgs)

/-- The `while` loop, for at most `fuel` rounds: the files it writes and the index
after them. -/
def treeLoop : Nat → List CsvEntry → U64 → Except Halt (List TreeFile × U64)
  | 0, _, _ => .error .outOfFuel
  | fuel + 1, csvEntries, index =>
      if 0 < csvEntries.length then do
        let lastIndex := min args.maxNodesPerTree.toNat csvEntries.length
        let subTree := csvEntries.take lastIndex
        let csvEntries := csvEntries.drop lastIndex
        -- use index as version
        let merkleTree ← unwrapCall (AirdropMerkleTree.newFromEntries sha256 texts
          subTree index args.decimals)
        let file : TreeFile := { name := treeFileName index, tree := merkleTree }
        let (files, next) ← treeLoop fuel csvEntries (index + 1)
        pure (file :: files, next)
      else
        pure ([], index)

/-- The rows that are split: without the wallets of the test list, where that gets a
tree of its own. -/
def trimmedEntries (csvEntries : List CsvEntry) : List CsvEntry :=
  if args.shouldIncludeTestList then
    csvEntries.filter fun entry => entry.pubkey ∉ getTestList
  else
    csvEntries

/-- `process_create_merkle_tree`: the files it writes.  A round of the loop takes at
least one row or panics, so one round more than rows is always enough. -/
def processCreateMerkleTree (csvEntries : List CsvEntry) :
    Except Halt (List TreeFile) := do
  let csvEntries := trimmedEntries args csvEntries
  let (files, index) ← treeLoop sha256 texts args (csvEntries.length + 1) csvEntries 0
  if args.shouldIncludeTestList then
    let merkleTree ← unwrapCall (AirdropMerkleTree.newFromEntries sha256 texts
      (testEntries args) index args.decimals)
    pure (files ++ [{ name := treeFileName index, tree := merkleTree }])
  else
    pure files

end Command

end Airdrop
