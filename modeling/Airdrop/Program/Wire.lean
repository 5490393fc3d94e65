/-
Module: Airdrop.Program.Wire
Purpose: The instructions of the program as a client writes them and as the program reads
  them: the accounts of each context with their flags, the arguments behind the
  discriminator, and the dispatch of `lib.rs`.
Trusted boundary: SHA-256 and the addresses of other programs, taken as parameters
Main exports: AccountMeta, Programs, Instruction.toAccountMetas, sighash, Instruction.data,
  readers, dispatch
-/
import Airdrop.Core.Borsh
import Airdrop.Program.Machine

namespace Airdrop

open Borsh

/-! ## Accounts -/

/-- An account that an instruction lists, with its flags. -/
structure AccountMeta where
  pubkey : Pubkey
  isSigner : Bool
  isWritable : Bool
deriving DecidableEq

namespace AccountMeta

@[simp] def readonly (pubkey : Pubkey) : AccountMeta := ⟨pubkey, false, false⟩

@[simp] def signer (pubkey : Pubkey) : AccountMeta := ⟨pubkey, true, false⟩

/-- An account that is marked `mut`, `init` or `close`. -/
@[simp] def writable (pubkey : Pubkey) : AccountMeta := ⟨pubkey, false, true⟩

@[simp] def writableSigner (pubkey : Pubkey) : AccountMeta := ⟨pubkey, true, true⟩

end AccountMeta

/-- The addresses of the programs that contexts name. -/
structure Programs where
  systemProgram : Pubkey
  tokenProgram : Pubkey
  associatedTokenProgram : Pubkey

section Accounts

open AccountMeta

variable (programs : Programs)

def NewDistributor.toAccountMetas (accounts : NewDistributor) : List AccountMeta :=
  [writable accounts.distributor, signer accounts.base, writable accounts.clawbackReceiver,
    readonly accounts.mint, readonly accounts.tokenVault, writableSigner accounts.admin,
    readonly programs.systemProgram, readonly programs.associatedTokenProgram,
    readonly programs.tokenProgram]

def CloseDistributor.toAccountMetas (accounts : CloseDistributor) : List AccountMeta :=
  [writable accounts.distributor, writable accounts.tokenVault, writableSigner accounts.admin,
    writable accounts.destinationTokenAccount, readonly programs.tokenProgram]

def CloseClaimStatus.toAccountMetas (accounts : CloseClaimStatus) : List AccountMeta :=
  [writable accounts.claimStatus, writable accounts.claimant, signer accounts.admin]

def SetActivationPoint.toAccountMetas (accounts : SetActivationPoint) : List AccountMeta :=
  [writable accounts.distributor, writableSigner accounts.admin]

def NewClaim.toAccountMetas (accounts : NewClaim) : List AccountMeta :=
  [writable accounts.distributor, writable accounts.claimStatus, writable accounts.fromAccount,
    writable accounts.toAccount, writableSigner accounts.claimant,
    readonly programs.tokenProgram, readonly programs.systemProgram]

def ClaimLocked.toAccountMetas (accounts : ClaimLocked) : List AccountMeta :=
  [writable accounts.distributor, writable accounts.claimStatus, writable accounts.fromAccount,
    writable accounts.toAccount, writableSigner accounts.claimant,
    readonly programs.tokenProgram]

def Clawback.toAccountMetas (accounts : Clawback) : List AccountMeta :=
  [writable accounts.distributor, writable accounts.fromAccount, writable accounts.toAccount,
    signer accounts.claimant, readonly programs.systemProgram, readonly programs.tokenProgram]

def SetClawbackReceiver.toAccountMetas (accounts : SetClawbackReceiver) : List AccountMeta :=
  [writable accounts.distributor, readonly accounts.newClawbackAccount,
    writableSigner accounts.admin]

def SetAdmin.toAccountMetas (accounts : SetAdmin) : List AccountMeta :=
  [writable accounts.distributor, writableSigner accounts.admin, writable accounts.newAdmin]

/-- The accounts that an instruction lists, in the order of its context.  The last case is
the transfer of the token program. -/
def Instruction.toAccountMetas : Instruction → List AccountMeta
  | .newDistributor accounts _ => accounts.toAccountMetas programs
  | .newDistributor2 accounts _ _ _ => accounts.toAccountMetas programs
  | .closeDistributor accounts => accounts.toAccountMetas programs
  | .closeClaimStatus accounts => accounts.toAccountMetas
  | .setActivationPoint accounts _ => accounts.toAccountMetas
  | .newClaim accounts _ _ _ => accounts.toAccountMetas programs
  | .claimLocked accounts => accounts.toAccountMetas programs
  | .clawback accounts => accounts.toAccountMetas programs
  | .setClawbackReceiver accounts => accounts.toAccountMetas
  | .setAdmin accounts => accounts.toAccountMetas
  | .transfer source destination authority _ =>
      [writable source, writable destination, signer authority]

end Accounts

/-! ## Arguments -/

/-- The arguments of `new_distributor` in their order. -/
def newDistributorArgsBorsh : Codec NewDistributorArgs :=
  (u64.pair <| bytes32.pair <| u64.pair <| u64.pair <| i64.pair <| i64.pair <| i64.pair <|
    u64.pair <| u8.pair bool).through
    { toFun := fun args =>
        (args.version, args.root, args.maxTotalClaim, args.maxNumNodes, args.startVestingTs,
          args.endVestingTs, args.clawbackStartTs, args.activationPoint, args.activationType,
          args.closable)
      invFun := fun (version, root, maxTotalClaim, maxNumNodes, startVestingTs, endVestingTs,
          clawbackStartTs, activationPoint, activationType, closable) =>
        { version, root, maxTotalClaim, maxNumNodes, startVestingTs, endVestingTs,
          clawbackStartTs, activationPoint, activationType, closable }
      left_inv := fun _ => rfl
      right_inv := fun _ => rfl }

/-- The arguments of `new_distributor2`: the same, the bonus and its duration. -/
def newDistributor2ArgsBorsh : Codec (NewDistributorArgs × U64 × U64) :=
  newDistributorArgsBorsh.pair (u64.pair u64)

/-- The arguments of `new_claim`. -/
def newClaimArgsBorsh : Codec (U64 × U64 × { proof : List Hash // proof.length < 2 ^ 32 }) :=
  u64.pair (u64.pair vecBytes32)

/-- The first 8 bytes of the data of an instruction. -/
def sighash (sha256 : Bytes → Hash) (name : String) : Bytes :=
  (sha256 (asciiBytes ("global:" ++ name))).toBytes.take 8

/-- `InstructionData::data`.  A proof of `2 ^ 32` hashes or more cannot be written; and the
transfer is no instruction of this program. -/
def Instruction.data (sha256 : Bytes → Hash) : Instruction → Option Bytes
  | .newDistributor _ args =>
      some (sighash sha256 "new_distributor" ++ newDistributorArgsBorsh.encode args)
  | .newDistributor2 _ args totalBonus bonusVestingDuration =>
      some (sighash sha256 "new_distributor2" ++
        newDistributor2ArgsBorsh.encode (args, totalBonus, bonusVestingDuration))
  | .closeDistributor _ => some (sighash sha256 "close_distributor")
  | .closeClaimStatus _ => some (sighash sha256 "close_claim_status")
  | .setActivationPoint _ activationPoint =>
      some (sighash sha256 "set_activation_point" ++ u64.encode activationPoint)
  | .newClaim _ amountUnlocked amountLocked proof =>
      if short : proof.length < 2 ^ 32 then
        some (sighash sha256 "new_claim" ++
          newClaimArgsBorsh.encode (amountUnlocked, amountLocked, ⟨proof, short⟩))
      else none
  | .claimLocked _ => some (sighash sha256 "claim_locked")
  | .clawback _ => some (sighash sha256 "clawback")
  | .setClawbackReceiver _ => some (sighash sha256 "set_clawback_receiver")
  | .setAdmin _ => some (sighash sha256 "set_admin")
  | .transfer _ _ _ _ => none

/-! ## Reading -/

section Reading

/-- Whether the accounts that were passed begin with the expected ones, and are writable
where these are.  `AccountNotEnoughKeys`, `ConstraintMut` and `InvalidProgramId` are the
errors where they are not; whether they sign is checked with the other constraints. -/
def fitsContext : List AccountMeta → List AccountMeta → Bool
  | [], _ => true
  | _ :: _, [] => false
  | expected :: later, passed :: accounts =>
      decide (expected.pubkey = passed.pubkey) &&
        (!expected.isWritable || passed.isWritable) && fitsContext later accounts

def NewDistributor.ofKeys : List Pubkey → Option NewDistributor
  | distributor :: base :: clawbackReceiver :: mint :: tokenVault :: admin :: _ =>
      some { distributor, base, clawbackReceiver, mint, tokenVault, admin }
  | _ => none

def CloseDistributor.ofKeys : List Pubkey → Option CloseDistributor
  | distributor :: tokenVault :: admin :: destinationTokenAccount :: _ =>
      some { distributor, tokenVault, admin, destinationTokenAccount }
  | _ => none

def CloseClaimStatus.ofKeys : List Pubkey → Option CloseClaimStatus
  | claimStatus :: claimant :: admin :: _ => some { claimStatus, claimant, admin }
  | _ => none

def SetActivationPoint.ofKeys : List Pubkey → Option SetActivationPoint
  | distributor :: admin :: _ => some { distributor, admin }
  | _ => none

def NewClaim.ofKeys : List Pubkey → Option NewClaim
  | distributor :: claimStatus :: fromAccount :: toAccount :: claimant :: _ =>
      some { distributor, claimStatus, fromAccount, toAccount, claimant }
  | _ => none

def ClaimLocked.ofKeys : List Pubkey → Option ClaimLocked
  | distributor :: claimStatus :: fromAccount :: toAccount :: claimant :: _ =>
      some { distributor, claimStatus, fromAccount, toAccount, claimant }
  | _ => none

def Clawback.ofKeys : List Pubkey → Option Clawback
  | distributor :: fromAccount :: toAccount :: claimant :: _ =>
      some { distributor, fromAccount, toAccount, claimant }
  | _ => none

def SetClawbackReceiver.ofKeys : List Pubkey → Option SetClawbackReceiver
  | distributor :: newClawbackAccount :: admin :: _ =>
      some { distributor, newClawbackAccount, admin }
  | _ => none

def SetAdmin.ofKeys : List Pubkey → Option SetAdmin
  | distributor :: admin :: newAdmin :: _ => some { distributor, admin, newAdmin }
  | _ => none

/-- How an instruction is read: its arguments first, then its accounts.  Arguments may be
followed by other bytes, and accounts by other accounts. -/
def readWith {Args Accounts : Type} (args : Codec Args)
    (ofKeys : List Pubkey → Option Accounts) (toAccountMetas : Accounts → List AccountMeta)
    (instruction : Accounts → Args → Instruction) (passed : List AccountMeta)
    (data : Bytes) : Option Instruction := do
  let (args, _) ← args.decode data
  let accounts ← ofKeys (passed.map AccountMeta.pubkey)
  if fitsContext (toAccountMetas accounts) passed then pure (instruction accounts args)
  else none

variable (programs : Programs)

/-- The instructions of `lib.rs` in their order, with how each is read. -/
def readers : List (String × (List AccountMeta → Bytes → Option Instruction)) :=
  [("new_distributor",
      readWith newDistributorArgsBorsh NewDistributor.ofKeys
        (NewDistributor.toAccountMetas programs) .newDistributor),
    ("new_distributor2",
      readWith newDistributor2ArgsBorsh NewDistributor.ofKeys
        (NewDistributor.toAccountMetas programs)
        fun accounts args => .newDistributor2 accounts args.1 args.2.1 args.2.2),
    ("close_distributor",
      readWith .unit CloseDistributor.ofKeys (CloseDistributor.toAccountMetas programs)
        fun accounts _ => .closeDistributor accounts),
    ("close_claim_status",
      readWith .unit CloseClaimStatus.ofKeys CloseClaimStatus.toAccountMetas
        fun accounts _ => .closeClaimStatus accounts),
    ("set_activation_point",
      readWith u64 SetActivationPoint.ofKeys SetActivationPoint.toAccountMetas
        .setActivationPoint),
    ("new_claim",
      readWith newClaimArgsBorsh NewClaim.ofKeys (NewClaim.toAccountMetas programs)
        fun accounts args => .newClaim accounts args.1 args.2.1 args.2.2.1),
    ("claim_locked",
      readWith .unit ClaimLocked.ofKeys (ClaimLocked.toAccountMetas programs)
        fun accounts _ => .claimLocked accounts),
    ("clawback",
      readWith .unit Clawback.ofKeys (Clawback.toAccountMetas programs)
        fun accounts _ => .clawback accounts),
    ("set_clawback_receiver",
      readWith .unit SetClawbackReceiver.ofKeys SetClawbackReceiver.toAccountMetas
        fun accounts _ => .setClawbackReceiver accounts),
    ("set_admin",
      readWith .unit SetAdmin.ofKeys SetAdmin.toAccountMetas
        fun accounts _ => .setAdmin accounts)]

/-- The dispatch of the program: the data begin with the discriminator of an instruction,
which reads the rest. -/
def dispatch (sha256 : Bytes → Hash) (passed : List AccountMeta) (data : Bytes) :
    Option Instruction := do
  let (_, read) ← (readers programs).find? fun reader => sighash sha256 reader.1 = data.take 8
  read passed (data.drop 8)

end Reading

end Airdrop
