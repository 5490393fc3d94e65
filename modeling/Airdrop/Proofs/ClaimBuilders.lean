/-
Module: Airdrop.Proofs.ClaimBuilders
Purpose: The transaction that the claim command builds from what the API server returns,
  compared with the one that it builds from the file of the tree.
Trusted boundary: none
Main exports: CreatesDestination, claimInstructions, getNode_of_mem, record_of_last,
  claimBuilders_agree_iff
-/
import Airdrop.Cli.Claim
import Airdrop.Proofs.KvExport

namespace Airdrop

open Checked LastWins

/-! ## What the transactions create -/

/-- The token account that an instruction creates. -/
def CommandInstruction.creates (associatedTokenAddress : Pubkey → Pubkey → Pubkey) :
    CommandInstruction → Option Pubkey
  | .createAssociatedTokenAccount _ wallet mint => some (associatedTokenAddress wallet mint)
  | _ => none

/-- The account that a new claim pays to. -/
def CommandInstruction.claimsTo : CommandInstruction → Option Pubkey
  | .program (.newClaim accounts _ _ _) => some accounts.toAccount
  | _ => none

/-- Every account that is created is the one that the claim pays to. -/
def CreatesDestination (associatedTokenAddress : Pubkey → Pubkey → Pubkey)
    (instructions : List CommandInstruction) : Prop :=
  ∀ created ∈ instructions.filterMap (CommandInstruction.creates associatedTokenAddress),
    ∀ destination ∈ instructions.filterMap CommandInstruction.claimsTo,
      created = destination

section Builders

variable {findProgramAddress : List Bytes → Pubkey → Pubkey × UInt8}
variable {associatedTokenAddress : Pubkey → Pubkey → Pubkey} {texts : Texts}
variable {args : CliArgs} {wallet : WalletArgs} {account : Except AccountError Unit}

variable (findProgramAddress associatedTokenAddress args wallet) in
/-- What both commands build: the fee, the creation of the token accounts of `missing`,
and the claim from the distributor. -/
def claimInstructions (missing : List Pubkey) (distributor : Pubkey)
    (amount lockedAmount : U64) (proof : List Hash) : List CommandInstruction :=
  wallet.priorityFee.toList.map CommandInstruction.setComputeUnitPrice ++
    missing.map (fun owner =>
      CommandInstruction.createAssociatedTokenAccount wallet.keypair owner args.mint) ++
    [.program (.newClaim
      { distributor
        claimStatus := (getClaimStatusPda findProgramAddress args.programId wallet.keypair
          distributor).1
        fromAccount := associatedTokenAddress distributor args.mint
        toAccount := associatedTokenAddress wallet.keypair args.mint
        claimant := wallet.keypair }
      amount lockedAmount proof)]

/-- The created accounts are right where each belongs to the claimant. -/
theorem createsDestination_iff {missing : List Pubkey} {distributor : Pubkey}
    {amount lockedAmount : U64} {proof : List Hash} :
    CreatesDestination associatedTokenAddress (claimInstructions findProgramAddress
        associatedTokenAddress args wallet missing distributor amount lockedAmount proof) ↔
      ∀ owner ∈ missing, associatedTokenAddress owner args.mint =
        associatedTokenAddress wallet.keypair args.mint := by
  have noFee (pick : CommandInstruction → Option Pubkey)
      (silent : ∀ fee, pick (.setComputeUnitPrice fee) = none) :
      (wallet.priorityFee.toList.map CommandInstruction.setComputeUnitPrice).filterMap
        pick = [] := by
    rw [List.filterMap_map, List.filterMap_eq_nil_iff]
    exact fun fee _ => silent fee
  rw [CreatesDestination, claimInstructions]
  simp only [List.filterMap_append, noFee (CommandInstruction.creates _) fun _ => rfl,
    noFee CommandInstruction.claimsTo fun _ => rfl]
  simp [CommandInstruction.creates, CommandInstruction.claimsTo, List.filterMap_map,
    Function.comp_def]

/-! ## What the commands read -/

/-- Where the claimants are distinct, each of the nodes is found. -/
theorem getNode_of_mem {tree : AirdropMerkleTree} {node : TreeNode}
    (distinct : (tree.treeNodes.map TreeNode.claimant).Nodup)
    (among : node ∈ tree.treeNodes) :
    (tree.getNode node.claimant : Except (Stop String) TreeNode) = .ok node := by
  rw [AirdropMerkleTree.getNode, unwrap_eq_ok]
  obtain ⟨found, isFound⟩ : ∃ found, tree.treeNodes.find?
      (fun other => other.claimant = node.claimant) = some found := by
    rw [← Option.isSome_iff_exists, List.find?_isSome]
    exact ⟨node, among, by simp⟩
  have same : found.claimant = node.claimant := by simpa using List.find?_some isFound
  rw [isFound, List.inj_on_of_nodup_map distinct (List.mem_of_find?_eq_some isFound) among
    same]

/-- The server answers with the node of the tree that comes last, by name, among those
with the claimant. -/
theorem record_of_last {apiArgs : ApiArgs} {listing before after : List TreeFile}
    {file : TreeFile} {state : RouterState} {node : TreeNode} {proof : List Hash}
    (loaded : loadTrees findProgramAddress texts apiArgs listing = .ok state)
    (order : sortByPath listing = before ++ file :: after)
    (last : ∀ other ∈ after, ∀ otherNode ∈ other.tree.treeNodes,
      otherNode.claimant ≠ node.claimant)
    (distinct : (file.tree.treeNodes.map TreeNode.claimant).Nodup)
    (among : node ∈ file.tree.treeNodes) (proved : node.proof = some proof) :
    getUserInfo texts state (texts.pubkeyText node.claimant) =
      .ok
        { merkleTree :=
            texts.pubkeyText (distributorOf findProgramAddress apiArgs file.tree)
          amount := node.amount
          lockedAmount := node.lockedAmount
          proof } := by
  have keys (other : TreeFile) :
      (servedEntries findProgramAddress apiArgs other).map Prod.fst =
        other.tree.treeNodes.map TreeNode.claimant := by
    rw [servedEntries, List.map_map]
    rfl
  have held := lookup_of_loadTrees loaded node.claimant
  rw [order, lastValue_flatMap, lastValue_of_mem] at held
  · exact getUserInfo_eq_ok.mpr ⟨node.claimant, _, node, proof, texts.parse_text _, held,
      proved, rfl⟩
  · rw [keys]
    exact distinct
  · exact List.mem_map_of_mem among
  · rw [keys]
    exact List.mem_map_of_mem among
  · intro other isOther
    rw [keys]
    intro named
    rcases List.mem_map.mp named with ⟨otherNode, inside, same⟩
    exact last other isOther otherNode inside same

/-- The command that reads the file of the tree creates the claimant's own account, where it
is missing. -/
theorem processNewClaim_eq {tree : AirdropMerkleTree} {node : TreeNode} {proof : List Hash}
    (reported : account ≠ .error .other) (own : node.claimant = wallet.keypair)
    (distinct : (tree.treeNodes.map TreeNode.claimant).Nodup)
    (among : node ∈ tree.treeNodes) (proved : node.proof = some proof) :
    processNewClaim findProgramAddress associatedTokenAddress args wallet account tree =
      .ok (claimInstructions findProgramAddress associatedTokenAddress args wallet
        (if account = .ok () then [] else [wallet.keypair])
        (distributorOf findProgramAddress args.api tree) node.amount node.lockedAmount
        proof) := by
  have isNode := getNode_of_mem distinct among
  rw [own] at isNode
  rw [processNewClaim]
  simp only [isNode, ok_bind, proved, unwrap_some]
  cases account with
  | ok found => rfl
  | error failure =>
      cases failure with
      | accountNotFound => rfl
      | other => exact absurd rfl reported

/-- The command that asks the server creates the account of the claimant's token account,
where that is missing. -/
theorem processClaimFromApi_eq {distributor : Pubkey} {amount lockedAmount : U64}
    {proof : List Hash} :
    processClaimFromApi findProgramAddress associatedTokenAddress args wallet texts account
        { merkleTree := texts.pubkeyText distributor, amount, lockedAmount, proof } =
      .ok (claimInstructions findProgramAddress associatedTokenAddress args wallet
        (if account = .ok () then []
          else [associatedTokenAddress wallet.keypair args.mint])
        distributor amount lockedAmount proof) := by
  rw [processClaimFromApi]
  simp only [texts.parse_text, unwrap_some, ok_bind]
  cases account with
  | ok found => rfl
  | error failure => rfl

end Builders

/-- Both commands build the same transaction, and the one that asks the server creates the
account that the claim pays to, exactly where that account exists already, or where the
claimant is its own token account, which no wallet is. -/
theorem claimBuilders_agree_iff
    (findProgramAddress : List Bytes → Pubkey → Pubkey × UInt8)
    (associatedTokenAddress : Pubkey → Pubkey → Pubkey) (texts : Texts) (args : CliArgs)
    (wallet : WalletArgs) (account : Except AccountError Unit)
    (reported : account ≠ .error .other)
    (injective : ∀ mint, Function.Injective (associatedTokenAddress · mint))
    {listing before after : List TreeFile} {file : TreeFile} {state : RouterState}
    {node : TreeNode} (own : node.claimant = wallet.keypair)
    (loaded : loadTrees findProgramAddress texts args.api listing = .ok state)
    (order : sortByPath listing = before ++ file :: after)
    (last : ∀ other ∈ after, ∀ otherNode ∈ other.tree.treeNodes,
      otherNode.claimant ≠ node.claimant)
    (distinct : (file.tree.treeNodes.map TreeNode.claimant).Nodup)
    (among : node ∈ file.tree.treeNodes) (proved : node.proof.isSome) :
    ∃ record fromFile fromApi,
      getUserInfo texts state (texts.pubkeyText wallet.keypair) = .ok record ∧
      processNewClaim findProgramAddress associatedTokenAddress args wallet account
        file.tree = .ok fromFile ∧
      processClaimFromApi findProgramAddress associatedTokenAddress args wallet texts
        account record = .ok fromApi ∧
      CreatesDestination associatedTokenAddress fromFile ∧
      (fromApi = fromFile ↔
        account = .ok () ∨
          associatedTokenAddress wallet.keypair args.mint = wallet.keypair) ∧
      (CreatesDestination associatedTokenAddress fromApi ↔
        account = .ok () ∨
          associatedTokenAddress wallet.keypair args.mint = wallet.keypair) := by
  obtain ⟨proof, isProof⟩ := Option.isSome_iff_exists.mp proved
  have answered := record_of_last loaded order last distinct among isProof
  rw [own] at answered
  refine ⟨_, _, _, answered, processNewClaim_eq reported own distinct among isProof,
    processClaimFromApi_eq, ?_, ?_, ?_⟩
  · rw [createsDestination_iff]
    split
    · simp
    · simp
  · by_cases present : account = .ok ()
    · simp [present]
    · simp [present, claimInstructions]
  · rw [createsDestination_iff]
    by_cases present : account = .ok ()
    · simp [present]
    · simp [present, (injective args.mint).eq_iff]

section Sample

/-- Alice's associated token account. -/
def aliceAta : Pubkey := .ofNat
  0x599f347be2b90faf5db35a3cb5ece0ce6ef1ee5fa06c5628f7bbf0d4a67651e6

/-- The associated token account of the wallet `aliceAta`. -/
def strayAta : Pubkey := .ofNat
  0x58a9e8c57792f1e8a470dc4e002bb765fc750c59408a27fa08dbea502bf40fe5

/-- The associated token accounts of the wallets that occur here.  On all wallets it is a
permutation. -/
def claimTokenAddress (wallet _mint : Pubkey) : Pubkey :=
  (((Equiv.swap aliceAta strayAta).trans (Equiv.swap alice aliceAta)).trans
    (Equiv.swap sampleKey sampleVault)) wallet

/-- The derived addresses of the folder, and of Alice's claim status. -/
def claimFind (seeds : List Bytes) (programId : Pubkey) : Pubkey × UInt8 :=
  if seeds = claimStatusSeeds alice sampleKey then (aliceStatus, 254)
  else folderFind seeds programId

/-- The folder with the one tree. -/
def oneTree : List TreeFile := [{ name := "tree_0.json", tree := sampleTree }]

/-- Alice's wallet. -/
def aliceWallet : WalletArgs := { keypair := alice, priorityFee := some 1000 }

theorem oneTree_loaded :
    ∃ state, loadTrees claimFind base58Texts sampleCliArgs.api oneTree = .ok state := by
  apply exists_loadTrees
  · decide
  · decide

theorem claimBuilders_agree_iff_sample :
    ∃ state record fromFile fromApi,
      loadTrees claimFind base58Texts sampleCliArgs.api oneTree = .ok state ∧
      getUserInfo base58Texts state (base58Texts.pubkeyText alice) = .ok record ∧
      processNewClaim claimFind claimTokenAddress sampleCliArgs aliceWallet (.ok ())
        sampleTree = .ok fromFile ∧
      processClaimFromApi claimFind claimTokenAddress sampleCliArgs aliceWallet base58Texts
        (.ok ()) record = .ok fromApi ∧
      fromApi = fromFile := by
  obtain ⟨state, loaded⟩ := oneTree_loaded
  obtain ⟨record, fromFile, fromApi, answered, isFile, isApi, _, same, _⟩ :=
    claimBuilders_agree_iff claimFind claimTokenAddress base58Texts sampleCliArgs aliceWallet
      (.ok ()) nofun (fun _ => Equiv.injective _) rfl loaded
      (show sortByPath oneTree = [] ++ _ :: [] from rfl) nofun (by decide)
      (show _ ∈ sampleTree.treeNodes from List.mem_cons_self) rfl
  exact ⟨state, record, fromFile, fromApi, loaded, answered, isFile, isApi,
    same.mpr (.inl rfl)⟩

/-- Where Alice's token account is missing, the command that asks the server creates the
account of a wallet that is `aliceAta`, and the claim fails on the missing account. -/
theorem stray_account_created :
    ∃ state record fromFile fromApi,
      loadTrees claimFind base58Texts sampleCliArgs.api oneTree = .ok state ∧
      getUserInfo base58Texts state (base58Texts.pubkeyText alice) = .ok record ∧
      processNewClaim claimFind claimTokenAddress sampleCliArgs aliceWallet
        (.error .accountNotFound) sampleTree = .ok fromFile ∧
      processClaimFromApi claimFind claimTokenAddress sampleCliArgs aliceWallet base58Texts
        (.error .accountNotFound) record = .ok fromApi ∧
      fromApi ≠ fromFile ∧
      fromApi.filterMap (CommandInstruction.creates claimTokenAddress) = [strayAta] ∧
      fromApi.filterMap CommandInstruction.claimsTo = [aliceAta] := by
  obtain ⟨state, loaded⟩ := oneTree_loaded
  have answered := record_of_last loaded
    (show sortByPath oneTree = [] ++ _ :: [] from rfl) nofun (by decide)
    (show _ ∈ sampleTree.treeNodes from List.mem_cons_self) rfl
  have fromFile := @processNewClaim_eq claimFind claimTokenAddress sampleCliArgs aliceWallet
    (.error .accountNotFound) sampleTree _ _ nofun rfl (by decide) List.mem_cons_self rfl
  refine ⟨state, _, _, _, loaded, answered, fromFile, processClaimFromApi_eq, ?_, ?_, ?_⟩
  · decide +kernel
  · decide +kernel
  · decide +kernel

end Sample

end Airdrop
