/-
Module: Airdrop.Program.Layout
Purpose: How the two kinds of accounts of the program lie in account data, and the
  filters by which a client asks for them.
Trusted boundary: SHA-256, taken as a parameter; the sizes of the types follow from the
  sizes and alignments of their fields
Main exports: Buffers, distributorBorsh, claimStatusBorsh, accountDiscriminator,
  MerkleDistributor.len, ClaimStatus.len, Account.data, tryDeserialize, RpcFilterType,
  accountsOf
-/
import Airdrop.Core.Borsh
import Airdrop.Program.Accounts

namespace Airdrop

open Borsh Checked

/-! ## Fields -/

/-- The unused buffers of `MerkleDistributor`. -/
structure Buffers where
  buffer0 : { bytes : Bytes // bytes.length = 7 }
  buffer1 : Bytes32
  buffer2 : Bytes32
deriving DecidableEq

/-- The buffers of every distributor, since no instruction writes them. -/
def Buffers.default : Buffers :=
  { buffer0 := ⟨List.replicate 7 0, rfl⟩
    buffer1 := .replicate 0
    buffer2 := .replicate 0 }

def airdropBonusBorsh : Codec AirdropBonus :=
  (u64.pair (u64.pair u64)).through
    ⟨fun bonus => (bonus.totalBonus, bonus.vestingDuration, bonus.totalClaimedBonus),
      fun fields => ⟨fields.1, fields.2.1, fields.2.2⟩, fun _ => rfl, fun _ => rfl⟩

/-- The fields of a distributor in their order, with its buffers. -/
def distributorBorsh : Codec (MerkleDistributor × Buffers) :=
  (u8.pair <| u64.pair <| bytes32.pair <| bytes32.pair <| bytes32.pair <| bytes32.pair <|
    u64.pair <| u64.pair <| u64.pair <| u64.pair <| i64.pair <| i64.pair <| i64.pair <|
    bytes32.pair <| bytes32.pair <| bool.pair <| u64.pair <| bool.pair <|
    airdropBonusBorsh.pair <| u8.pair <| (Codec.byte.repeated 7).pair <|
    bytes32.pair bytes32).through
    { toFun := fun (data, buffers) =>
        (data.bump, data.version, data.root, data.mint, data.base, data.tokenVault,
          data.maxTotalClaim, data.maxNumNodes, data.totalAmountClaimed,
          data.numNodesClaimed, data.startTs, data.endTs, data.clawbackStartTs,
          data.clawbackReceiver, data.admin, data.clawedBack, data.activationPoint,
          data.closable, data.airdropBonus, data.activationType, buffers.buffer0,
          buffers.buffer1, buffers.buffer2)
      invFun := fun (bump, version, root, mint, base, tokenVault, maxTotalClaim, maxNumNodes,
          totalAmountClaimed, numNodesClaimed, startTs, endTs, clawbackStartTs,
          clawbackReceiver, admin, clawedBack, activationPoint, closable, airdropBonus,
          activationType, buffer0, buffer1, buffer2) =>
        ({ bump, version, root, mint, base, tokenVault, maxTotalClaim, maxNumNodes,
           totalAmountClaimed, numNodesClaimed, startTs, endTs, clawbackStartTs,
           clawbackReceiver, admin, clawedBack, activationPoint, closable, airdropBonus,
           activationType },
          { buffer0, buffer1, buffer2 })
      left_inv := fun _ => rfl
      right_inv := fun _ => rfl }

/-- The fields of a claim status in their order. -/
def claimStatusBorsh : Codec ClaimStatus :=
  (bytes32.pair <| u64.pair <| u64.pair <| u64.pair <| bool.pair bytes32).through
    { toFun := fun status =>
        (status.claimant, status.lockedAmount, status.lockedAmountWithdrawn,
          status.unlockedAmount, status.closable, status.admin)
      invFun := fun (claimant, lockedAmount, lockedAmountWithdrawn, unlockedAmount, closable,
          admin) =>
        { claimant, lockedAmount, lockedAmountWithdrawn, unlockedAmount, closable, admin }
      left_inv := fun _ => rfl
      right_inv := fun _ => rfl }

/-! ## Accounts -/

/-- The discriminator of an account type: the first 8 bytes of the hash of its name. -/
def accountDiscriminator (sha256 : Bytes → Hash) (name : String) : Bytes :=
  (sha256 (asciiBytes ("account:" ++ name))).toBytes.take 8

/-- `std::mem::size_of` of a struct with fields of these sizes, where the strictest
alignment is 8. -/
def sizeOf8 (fields : List Nat) : Nat := (fields.sum + 7) / 8 * 8

/-- `MerkleDistributor::LEN` -/
def MerkleDistributor.len : Nat :=
  8 + sizeOf8
    [1, 8, 32, 32, 32, 32, 8, 8, 8, 8, 8, 8, 8, 32, 32, 1, 8, 1, 24, 1, 7, 32, 32]

/-- `ClaimStatus::LEN` -/
def ClaimStatus.len : Nat := 8 + sizeOf8 [32, 8, 8, 8, 1, 32]

/-- The data of an account of `len` bytes, which was zero before the fields were written
after the discriminator. -/
def accountData (discriminator fields : Bytes) (len : Nat) : Bytes :=
  discriminator ++ fields ++ List.replicate (len - (discriminator ++ fields).length) 0

/-- The data of an account of the program.  Other accounts belong to other programs. -/
def Account.data (sha256 : Bytes → Hash) : Account → Option Bytes
  | .distributor data =>
      some (accountData (accountDiscriminator sha256 "MerkleDistributor")
        (distributorBorsh.encode (data, .default)) MerkleDistributor.len)
  | .claimStatus data =>
      some (accountData (accountDiscriminator sha256 "ClaimStatus")
        (claimStatusBorsh.encode data) ClaimStatus.len)
  | .token _ => none
  | .mint => none

/-- `AccountDeserialize::try_deserialize_unchecked`, which reads what follows the
discriminator and ignores the bytes after the fields. -/
def tryDeserializeUnchecked {Data : Type} (fields : Codec Data) (data : Bytes) :
    Option Data :=
  (fields.decode (data.drop 8)).map Prod.fst

/-- `AccountDeserialize::try_deserialize` -/
def tryDeserialize {Data : Type} (discriminator : Bytes) (fields : Codec Data) (data : Bytes) :
    Option Data :=
  if data.take 8 = discriminator then tryDeserializeUnchecked fields data else none

def MerkleDistributor.tryDeserialize (sha256 : Bytes → Hash) (data : Bytes) :
    Option MerkleDistributor :=
  (Airdrop.tryDeserialize (accountDiscriminator sha256 "MerkleDistributor") distributorBorsh
    data).map Prod.fst

def ClaimStatus.tryDeserialize (sha256 : Bytes → Hash) (data : Bytes) : Option ClaimStatus :=
  Airdrop.tryDeserialize (accountDiscriminator sha256 "ClaimStatus") claimStatusBorsh data

/-! ## Requests for accounts -/

/-- `RpcFilterType` -/
inductive RpcFilterType where
  | dataSize (size : Nat)
  | memcmp (offset : Nat) (bytes : Bytes)
deriving DecidableEq

/-- Whether account data pass a filter. -/
def RpcFilterType.accepts (data : Bytes) : RpcFilterType → Bool
  | .dataSize size => data.length = size
  | .memcmp offset bytes =>
      decide (offset + bytes.length ≤ data.length) &&
        (data.drop offset).take bytes.length == bytes

/-- `Program::accounts`: of the accounts of the program those that pass the filters, one of
which the client adds for the discriminator. -/
def accountsOf {Data : Type} (discriminator : Bytes) (fields : Codec Data)
    (filters : List RpcFilterType) (listing : List (Pubkey × Bytes)) :
    Except Unit (List (Pubkey × Data)) :=
  (listing.filter fun account =>
      (filters ++ [RpcFilterType.memcmp 0 discriminator]).all (RpcFilterType.accepts account.2)).mapM
    fun account => do
      let data ← okOr (tryDeserializeUnchecked fields account.2) ()
      pure (account.1, data)

end Airdrop
