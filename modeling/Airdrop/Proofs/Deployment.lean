/-
Module: Airdrop.Proofs.Deployment
Purpose: Environments given by a table of derived addresses, and one small
  deployment on which the general theorems are instantiated.
Trusted boundary: none
Main exports: Env.ofFind, Env.ofFind_derived, sampleEnv, sampleBank, sampleTx
-/
import Airdrop.Proofs.LifecycleSpecs
import Airdrop.Proofs.MerkleCorrectness

namespace Airdrop

open Checked Transition

/-! ## Environments from a table -/

/-- The environment in which every seed list has the address and the bump seed
that `find` gives, and no other bump seed makes an address. -/
def Env.ofFind (sha256 : Bytes → Hash) (find : List Bytes → Pubkey × UInt8)
    (associatedTokenAddress : Pubkey → Pubkey → Pubkey) : Env where
  sha256 := sha256
  findProgramAddress := find
  createProgramAddress := fun seeds =>
    if seeds.getLast? = some [(find seeds.dropLast).2] then
      some (find seeds.dropLast).1
    else none
  associatedTokenAddress := associatedTokenAddress
  create_find := by
    intro seeds
    simp

theorem Env.ofFind_derived {sha256 : Bytes → Hash}
    {find : List Bytes → Pubkey × UInt8}
    {associatedTokenAddress : Pubkey → Pubkey → Pubkey} {seeds : List Bytes}
    {address : Pubkey}
    (derived : (Env.ofFind sha256 find associatedTokenAddress).createProgramAddress
      seeds = some address) :
    ∃ base, address = (find base).1 := by
  simp only [Env.ofFind] at derived
  split at derived
  · exact ⟨seeds.dropLast, (Option.some.inj derived).symm⟩
  · exact absurd derived (by simp)

/-! ## A small deployment -/

section Sample

/-- The distributor's admin. -/
def sampleAdmin : Pubkey := .replicate 11

/-- The base key of the distributor. -/
def sampleBase : Pubkey := .replicate 12

/-- The mint to distribute. -/
def sampleMint : Pubkey := .replicate 16

/-- Token accounts of the two recipients and of the admin. -/
def aliceToken : Pubkey := .replicate 17

@[inherit_doc aliceToken]
def bobToken : Pubkey := .replicate 19

@[inherit_doc aliceToken]
def adminToken : Pubkey := .replicate 22

/-- The address of the distributor with base, mint and version 0. -/
def sampleKey : Pubkey := .ofNat
  0x40862c3300624f032df6444794740b043bb5e84e01d58562bfc4aa62e1192a39

/-- The associated token account of the distributor. -/
def sampleVault : Pubkey := .ofNat
  0x8b2c96edbf4e34d66cb76cf8e915ee75fb723967ba9aeabe712d64dc4a1b31f7

/-- The addresses of the two claim statuses. -/
def aliceStatus : Pubkey := .ofNat
  0x7090d09180e784eb638e30123ee3ac2c721f022af32581c04ebe39f0f929e13e

@[inherit_doc aliceStatus]
def bobStatus : Pubkey := .ofNat
  0xbc576794bd339502501dfbd3bf243f90460f4af0b7ad186a72308b97e148ef6c

/-- The derived addresses of the program with their bump seeds, on the seeds that
occur here. -/
def sampleFind (seeds : List Bytes) : Pubkey × UInt8 :=
  if seeds = distributorSeeds sampleBase sampleMint 0 then (sampleKey, 254)
  else if seeds = claimStatusSeeds alice sampleKey then (aliceStatus, 254)
  else if seeds = claimStatusSeeds bob sampleKey then (bobStatus, 255)
  else (.replicate 255, 255)

/-- The runtime, as far as it is asked here. -/
def sampleEnv : Env :=
  .ofFind sampleSha256 sampleFind fun wallet mint =>
    if wallet = sampleKey ∧ mint = sampleMint then sampleVault
    else .replicate 254

/-- The accounts before the distributor exists: its vault, already funded, and
the token accounts of the three parties. -/
def sampleBank : Bank :=
  let empty : Bank := fun _ => none
  let bank := empty.set sampleMint .mint
  let bank := bank.set sampleVault (.token ⟨sampleMint, sampleKey, 220⟩)
  let bank := bank.set aliceToken (.token ⟨sampleMint, alice, 0⟩)
  let bank := bank.set bobToken (.token ⟨sampleMint, bob, 0⟩)
  bank.set adminToken (.token ⟨sampleMint, sampleAdmin, 0⟩)

theorem sampleBank_genesis : Genesis sampleBank := by
  intro key
  simp only [sampleBank, Bank.set, Function.update_apply]
  constructor
  · intro data
    split_ifs <;> simp
  · intro data
    split_ifs <;> simp

/-- A transaction of the deployment.  The parties sign, derived addresses do
not. -/
def sampleTx (unixTimestamp : Int64) (signer : Pubkey) (instruction : Instruction)
    (ordinary : signer ∉ [sampleKey, aliceStatus, bobStatus, .replicate 255] := by
      decide) :
    Transaction sampleEnv where
  clock := { slot := 0, unixTimestamp }
  signers := [signer, sampleBase]
  instruction := instruction
  no_derived_signer := by
    intro seeds address derived
    obtain ⟨base, rfl⟩ := Env.ofFind_derived derived
    have listed : (sampleFind base).1 ∈
        [sampleKey, aliceStatus, bobStatus, .replicate 255] := by
      unfold sampleFind
      split_ifs <;> simp
    have baseOrdinary :
        sampleBase ∉ [sampleKey, aliceStatus, bobStatus, .replicate 255] := by
      decide
    intro signs
    rw [List.mem_cons, List.mem_singleton] at signs
    rcases signs with isSigner | isBase
    · exact ordinary (isSigner ▸ listed)
    · exact baseOrdinary (isBase ▸ listed)

/-- The accounts of the creation. -/
def sampleAccounts : NewDistributor :=
  { distributor := sampleKey, base := sampleBase, clawbackReceiver := adminToken
    mint := sampleMint, tokenVault := sampleVault, admin := sampleAdmin }

/-- Vesting from 100 to 200 and clawback from 300, activation at 50. -/
def sampleArgs (root : Hash) (closable : Bool) : NewDistributorArgs :=
  { version := 0, root, maxTotalClaim := 200, maxNumNodes := 2
    startVestingTs := 100, endVestingTs := 200, clawbackStartTs := 300
    activationPoint := 50, activationType := 1, closable }

/-- Creation of the distributor, with a bonus of 20 that vests over 10 seconds. -/
def createSample (root : Hash) (closable : Bool) : Transaction sampleEnv :=
  sampleTx 10 sampleAdmin
    (.newDistributor2 sampleAccounts (sampleArgs root closable) 20 10)

/-- The same terms with the clawback a day after the end of vesting. -/
def gracedArgs : NewDistributorArgs :=
  { sampleArgs sampleTree.merkleRoot false with clawbackStartTs := 86600 }

/-- Creation of a distributor with these terms. -/
def createGraced : Transaction sampleEnv :=
  sampleTx 10 sampleAdmin (.newDistributor2 sampleAccounts gracedArgs 20 10)

/-- Creation of a distributor without bonus at the same address. -/
def recreateSample (unixTimestamp : Int64) (root : Hash) : Transaction sampleEnv :=
  sampleTx unixTimestamp sampleAdmin
    (.newDistributor sampleAccounts (sampleArgs root true))

/-- The distributor so created. -/
def sampleDistributor (root : Hash) (closable : Bool) : MerkleDistributor :=
  createdDistributor sampleAccounts (sampleArgs root closable) 254 220 20 10

/-- Alice's claim of her leaf. -/
def aliceClaims (unixTimestamp : Int64) : Transaction sampleEnv :=
  sampleTx unixTimestamp alice (.newClaim
    { distributor := sampleKey, claimStatus := aliceStatus
      fromAccount := sampleVault, toAccount := aliceToken, claimant := alice }
    120 50
    [.ofNat 0x541bcd624879566c509d27cb94b884c1af1eae9b135d8e083255f610b02616a8])

/-- Bob's claim of his leaf. -/
def bobClaims (unixTimestamp : Int64) : Transaction sampleEnv :=
  sampleTx unixTimestamp bob (.newClaim
    { distributor := sampleKey, claimStatus := bobStatus
      fromAccount := sampleVault, toAccount := bobToken, claimant := bob }
    30 0
    [.ofNat 0x76b5631520fcd037fa30e9eebec7772790db1547f9f753d7cb97dc6b566eb9eb])

/-- The admin closes Bob's claim status. -/
def adminClosesBob (unixTimestamp : Int64) : Transaction sampleEnv :=
  sampleTx unixTimestamp sampleAdmin (.closeClaimStatus
    { claimStatus := bobStatus, claimant := bob, admin := sampleAdmin })

/-- Alice's withdrawal of what has vested. -/
def aliceWithdraws (unixTimestamp : Int64) : Transaction sampleEnv :=
  sampleTx unixTimestamp alice (.claimLocked
    { distributor := sampleKey, claimStatus := aliceStatus
      fromAccount := sampleVault, toAccount := aliceToken, claimant := alice })

/-- The admin's clawback to the receiver that the creation named. -/
def adminClawsBack (unixTimestamp : Int64) : Transaction sampleEnv :=
  sampleTx unixTimestamp sampleAdmin (.clawback
    { distributor := sampleKey, fromAccount := sampleVault
      toAccount := adminToken, claimant := sampleAdmin })

/-- The admin names the vault itself as the receiver of the clawback. -/
def adminAliases (unixTimestamp : Int64) : Transaction sampleEnv :=
  sampleTx unixTimestamp sampleAdmin (.setClawbackReceiver
    { distributor := sampleKey, newClawbackAccount := sampleVault
      admin := sampleAdmin })

/-- Anyone's clawback to the vault, once it is the receiver. -/
def aliceClawsBack (unixTimestamp : Int64) : Transaction sampleEnv :=
  sampleTx unixTimestamp alice (.clawback
    { distributor := sampleKey, fromAccount := sampleVault
      toAccount := sampleVault, claimant := alice })

/-- The admin closes the distributor. -/
def adminCloses (unixTimestamp : Int64) : Transaction sampleEnv :=
  sampleTx unixTimestamp sampleAdmin (.closeDistributor
    { distributor := sampleKey, tokenVault := sampleVault, admin := sampleAdmin
      destinationTokenAccount := adminToken })

/-- The admin hands over to Bob. -/
def adminHandsOver (unixTimestamp : Int64) : Transaction sampleEnv :=
  sampleTx unixTimestamp sampleAdmin (.setAdmin
    { distributor := sampleKey, admin := sampleAdmin, newAdmin := bob })

/-- The admin closes Alice's claim status. -/
def adminClosesAlice (unixTimestamp : Int64) : Transaction sampleEnv :=
  sampleTx unixTimestamp sampleAdmin (.closeClaimStatus
    { claimStatus := aliceStatus, claimant := alice, admin := sampleAdmin })

/-- Bob, as the admin, closes the distributor. -/
def bobCloses (unixTimestamp : Int64) : Transaction sampleEnv :=
  sampleTx unixTimestamp bob (.closeDistributor
    { distributor := sampleKey, tokenVault := sampleVault, admin := bob
      destinationTokenAccount := bobToken })

/-- The admin moves the activation point. -/
def adminReactivates (unixTimestamp : Int64) : Transaction sampleEnv :=
  sampleTx unixTimestamp sampleAdmin (.setActivationPoint
    { distributor := sampleKey, admin := sampleAdmin } 70)

/-- The admin moves tokens into the vault. -/
def adminFunds (unixTimestamp : Int64) (amount : U64) : Transaction sampleEnv :=
  sampleTx unixTimestamp sampleAdmin
    (.transfer adminToken sampleVault sampleAdmin amount)

/-- Creation with the latest activation point that there is, and a bonus that vests over
10 seconds. -/
def createLate : Transaction sampleEnv :=
  sampleTx 10 sampleAdmin (.newDistributor2 sampleAccounts
    { sampleArgs sampleTree.merkleRoot false with activationPoint := .ofNat 64 (2 ^ 64 - 1) }
    20 10)

/-- Creation with 1 token to claim besides a bonus of `2 ^ 63`. -/
def createNarrow : Transaction sampleEnv :=
  sampleTx 10 sampleAdmin (.newDistributor2 sampleAccounts
    { sampleArgs sampleTree.merkleRoot false with maxTotalClaim := 1 }
    (.ofNat 64 (2 ^ 63)) 10)

/-- The terms of the deployment, for a tree. -/
def treeArgs (tree : AirdropMerkleTree) : NewDistributorArgs :=
  { sampleArgs tree.merkleRoot false with
    maxTotalClaim := tree.totalUnlockedAmount + tree.totalLockedAmount
    maxNumNodes := tree.maxNumNodes }

/-- The creation of a distributor for a tree and a bonus that vests over 10 seconds. -/
def createBonus (tree : AirdropMerkleTree) (totalBonus : U64) : Transaction sampleEnv :=
  sampleTx 10 sampleAdmin (.newDistributor2 sampleAccounts (treeArgs tree) totalBonus 10)

/-- Alice's claim of her leaf in `unlockedTree`. -/
def aliceClaimsUnlocked (unixTimestamp : Int64) : Transaction sampleEnv :=
  sampleTx unixTimestamp alice (.newClaim
    { distributor := sampleKey, claimStatus := aliceStatus
      fromAccount := sampleVault, toAccount := aliceToken, claimant := alice }
    20 0
    [.ofNat 0x541bcd624879566c509d27cb94b884c1af1eae9b135d8e083255f610b02616a8])

/-- Bob's claim of his leaf in `unlockedTree`. -/
def bobClaimsUnlocked (unixTimestamp : Int64) : Transaction sampleEnv :=
  sampleTx unixTimestamp bob (.newClaim
    { distributor := sampleKey, claimStatus := bobStatus
      fromAccount := sampleVault, toAccount := bobToken, claimant := bob }
    30 0
    [.ofNat 0xb72364cc65318d5da2ed487dc0fdba8d936d9b5b6ab4ec940203792389eeeecd])

/-- Both claims, a withdrawal and the clawback of what is left. -/
def sampleSeason : List (Transaction sampleEnv) :=
  [aliceClaims 55, aliceWithdraws 150, bobClaims 170, adminClawsBack 300]

/-- The accounts after some transactions of the deployment. -/
def sampleAfter (transactions : List (Transaction sampleEnv)) : Bank :=
  ((machine sampleEnv).play sampleBank transactions).2

/-- The record of some transactions of the deployment. -/
def sampleHistory (transactions : List (Transaction sampleEnv)) :
    History sampleEnv :=
  ((machine sampleEnv).play sampleBank transactions).1

theorem sample_reaches (transactions : List (Transaction sampleEnv)) :
    Reaches sampleEnv sampleBank (sampleHistory transactions)
      (sampleAfter transactions) :=
  Run.play (machine sampleEnv) sampleBank transactions

end Sample

end Airdrop
