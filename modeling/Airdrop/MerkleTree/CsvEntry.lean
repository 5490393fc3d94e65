/-
Module: Airdrop.MerkleTree.CsvEntry
Purpose: The rows of the allocation list and how they become tree nodes:
  `csv_entry.rs`, the conversions of `tree_node.rs`, and
  `AirdropMerkleTree::new_from_entries`.
Trusted boundary: the text of keys and decimal numbers, which other crates read
  and write, is a parameter; a CSV file is the records of fields that the crate for such
  files reads and writes
Main exports: Texts, CsvEntry, CsvFile, CsvEntry.newFromFile, uiAmountToTokenAmount,
  TreeNode.fromCsv, AirdropMerkleTree.newFromEntries
-/
import Airdrop.MerkleTree.AirdropMerkleTree

namespace Airdrop

open Checked

abbrev U32 := BitVec 32

/-- The functions of other crates on text: the base58 text of keys, and the decimal
numbers of `rust_decimal`.  Every key has one text, and only that text is read as
the key. -/
structure Texts where
  Decimal : Type
  parsePubkey : String → Option Pubkey
  pubkeyText : Pubkey → String
  parseDecimal : String → Option Decimal
  decimalFromU64 : U64 → Option Decimal
  decimalCheckedMul : Decimal → Decimal → Option Decimal
  decimalFloor : Decimal → Decimal
  decimalToU64 : Decimal → Option U64
  parse_text : ∀ key, parsePubkey (pubkeyText key) = some key
  parse_injective : ∀ {one other key}, parsePubkey one = some key →
    parsePubkey other = some key → one = other

namespace Texts

variable {texts : Texts}

theorem text_of_parse {text : String} {key : Pubkey}
    (parsed : texts.parsePubkey text = some key) : texts.pubkeyText key = text :=
  texts.parse_injective (texts.parse_text key) parsed

theorem pubkeyText_injective (texts : Texts) : Function.Injective texts.pubkeyText := by
  intro one other same
  have parsed := texts.parse_text one
  rw [same, texts.parse_text other] at parsed
  exact (Option.some.inj parsed).symm

end Texts

/-- `CsvEntry` -/
structure CsvEntry where
  pubkey : String
  amount : String
  lockedAmount : Option String
deriving DecidableEq

/-! ## CSV files -/

/-- The fields of a CSV file: those of its first line, and of the others. -/
structure CsvFile where
  headers : List String
  records : List (List String)
deriving DecidableEq

/-- The fields of a record in the columns of a name. -/
def fieldsNamed (headers record : List String) (name : String) : List String :=
  ((headers.zip record).filter fun field => field.1 = name).map Prod.snd

/-- One record by the names of the columns, of which others are ignored.  An optional field
is `none` where its column is missing and where it is empty. -/
def CsvEntry.deserialize (headers record : List String) : Option CsvEntry :=
  if record.length ≠ headers.length then
    none
  else
    match fieldsNamed headers record "pubkey", fieldsNamed headers record "amount",
      fieldsNamed headers record "locked_amount" with
    | [pubkey], [amount], [] => some { pubkey, amount, lockedAmount := none }
    | [pubkey], [amount], [lockedAmount] =>
        some { pubkey, amount, lockedAmount := if lockedAmount = "" then none else lockedAmount }
    | _, _, _ => none

/-- `CsvEntry::new_from_file` -/
def CsvEntry.newFromFile (file : CsvFile) : Except (Stop MerkleTreeError) (List CsvEntry) :=
  file.records.mapM fun record => unwrap (CsvEntry.deserialize file.headers record)

section Conversions

variable {ε : Type} (texts : Texts)

/-- `ui_amount_to_token_amount` -/
def uiAmountToTokenAmount (amount : String) (decimals : U32) :
    Except (Stop ε) U64 := do
  let amount ← unwrap (texts.parseDecimal amount)
  let power ← unwrap (checkedPow (10 : U64) decimals.toNat)
  let scale ← unwrap (texts.decimalFromU64 power)
  let amount ← unwrap (texts.decimalCheckedMul amount scale)
  let amount := texts.decimalFloor amount
  unwrap (texts.decimalToU64 amount)

/-- `TreeNode::from_csv` -/
def TreeNode.fromCsv (decimals : U32) (entry : CsvEntry) :
    Except (Stop ε) TreeNode := do
  let claimant ← unwrap (texts.parsePubkey entry.pubkey)
  let amount ← uiAmountToTokenAmount texts entry.amount decimals
  let lockedAmount ←
    match entry.lockedAmount with
    | some lockedAmount => uiAmountToTokenAmount texts lockedAmount decimals
    | none => pure 0
  pure { claimant, amount, lockedAmount, proof := none }

end Conversions

/-- `AirdropMerkleTree::new_from_entries` -/
def AirdropMerkleTree.newFromEntries (sha256 : Bytes → Hash) (texts : Texts)
    (csvEntries : List CsvEntry) (version : U64) (decimals : U32) :
    Except (Stop MerkleTreeError) AirdropMerkleTree := do
  let treeNodes ← csvEntries.mapM (TreeNode.fromCsv texts decimals)
  AirdropMerkleTree.new sha256 treeNodes version

end Airdrop
