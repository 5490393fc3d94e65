/-
Module: Airdrop.Cli.FilterList
Purpose: The command that cleans an allocation list: `process_filter_list_fixed`.
Trusted boundary: the texts of keys and numbers are parameters; the files can be read and
  written; messages other than the total are left out
Main exports: FilterListFixedArgs, collectEntry, FilteredList, processFilterListFixed
-/
import Airdrop.Cli.CreateMerkleTree
import Airdrop.Library.LeastOfKey

namespace Airdrop

open Checked LeastOfKey

/-- `FilterListFixedArgs`, without the paths. -/
structure FilterListFixedArgs where
  decimals : U32

/-- What the command says and writes. -/
structure FilteredList where
  totalAmount : U64
  destination : CsvFile
deriving DecidableEq

section Command

variable (texts : Texts) (filterListArgs : FilterListFixedArgs)

/-- One turn of the loop over the entries. -/
def collectEntry (collected : List (Pubkey × String) × U64) (node : CsvEntry) :
    Except (Stop MerkleTreeError) (List (Pubkey × String) × U64) :=
  match texts.parsePubkey node.pubkey with
  -- the text is not a key
  | none => pure collected
  | some addr => do
      let (fullList, totalAmount) := collected
      let amount ← uiAmountToTokenAmount texts node.amount filterListArgs.decimals
      let totalAmount ← unwrap (checkedAdd totalAmount amount)
      pure (fullList ++ [(addr, node.amount)], totalAmount)

/-- `process_filter_list_fixed` -/
def processFilterListFixed (csv : CsvFile) : Except Halt FilteredList := do
  let communityList ← unwrapCall (CsvEntry.newFromFile csv)
  let (fullList, totalAmount) ←
    unwrapCall (communityList.foldlM (collectEntry texts filterListArgs) ([], 0))
  -- remove duplicate
  let fullList := sortPairs fullList
  let fullList := dedupByKey fullList
  let records := fullList.map fun address => [texts.pubkeyText address.1, address.2]
  pure { totalAmount, destination := { headers := ["pubkey", "amount"], records } }

end Command

end Airdrop
