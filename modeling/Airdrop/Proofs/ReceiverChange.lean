/-
Module: Airdrop.Proofs.ReceiverChange
Purpose: How far `process_set_clawback_receiver` comes on a folder of trees, and how it ends
  where it does not come through: without a distributor it panics, and where the program
  refuses the transaction it sends it forever.
Trusted boundary: none
Main exports: Bank.holdsMint, Bank.settable, Bank.retarget, settable_retarget, serve_rounds,
  receiverEnd, setReceiverLoop_serve, setClawbackReceiver_exact
-/
import Airdrop.Cli.SetClawbackReceiver
import Airdrop.Proofs.ClawbackRange
import Airdrop.Proofs.Deployment
import Airdrop.Proofs.LifecycleSpecs
import Airdrop.Proofs.NodeSpecs
import Mathlib.Data.List.TakeWhile

namespace Airdrop

open Checked Interference

/-! ## What can be set -/

namespace Bank

variable (bank : Bank)

/-- The address holds a token account of the mint. -/
def holdsMint (key mint : Pubkey) : Bool :=
  match bank.token? key with
  | some account => account.mint = mint
  | none => false

/-- The distributor has the receiver already, or its admin can set it. -/
def settable (receiver admin key : Pubkey) : Bool :=
  match bank.distributor? key with
  | some distributor =>
      distributor.clawbackReceiver = receiver ||
        (distributor.admin = admin && bank.holdsMint receiver distributor.mint)
  | none => false

/-- The distributors at these addresses pay their clawback to `receiver`. -/
def retarget (receiver : Pubkey) (keys : List Pubkey) : Bank := fun key =>
  match bank.distributor? key with
  | some distributor =>
      if key ∈ keys then some (.distributor { distributor with clawbackReceiver := receiver })
      else bank key
  | none => bank key

variable {bank} {receiver admin key other : Pubkey} {keys : List Pubkey}
variable {distributor : MerkleDistributor}

theorem settable_of_some (found : bank key = some (.distributor distributor)) :
    bank.settable receiver admin key = true ↔ distributor.clawbackReceiver = receiver ∨
      (distributor.admin = admin ∧ bank.holdsMint receiver distributor.mint = true) := by
  rw [← Bank.distributor?_eq_some] at found
  simp [settable, found]

theorem settable_of_none (absent : bank.distributor? key = none) :
    bank.settable receiver admin key = false := by
  simp [settable, absent]

@[simp] theorem retarget_nil : bank.retarget receiver [] = bank := by
  funext key
  unfold retarget
  split
  · rfl
  · rfl

theorem retarget_of_none (absent : bank.distributor? key = none) :
    bank.retarget receiver keys key = bank key := by
  simp [retarget, absent]

theorem retarget_of_some (found : bank key = some (.distributor distributor)) :
    bank.retarget receiver keys key = some (.distributor
      (if key ∈ keys then { distributor with clawbackReceiver := receiver }
        else distributor)) := by
  have isDistributor := Bank.distributor?_eq_some.mpr found
  by_cases listed : key ∈ keys
  · simp [retarget, isDistributor, listed]
  · simp [retarget, isDistributor, listed, found]

theorem distributor?_retarget :
    (bank.retarget receiver keys).distributor? key =
      (bank.distributor? key).map fun distributor =>
        if key ∈ keys then { distributor with clawbackReceiver := receiver }
        else distributor := by
  cases found : bank.distributor? key with
  | none =>
      rw [Bank.distributor?, retarget_of_none found]
      exact found
  | some distributor =>
      rw [Option.map_some, Bank.distributor?_eq_some,
        retarget_of_some (Bank.distributor?_eq_some.mp found)]

theorem isSome_retarget :
    ((bank.retarget receiver keys).distributor? key).isSome = (bank.distributor? key).isSome := by
  rw [distributor?_retarget, Option.isSome_map]

theorem token?_retarget : (bank.retarget receiver keys).token? key = bank.token? key := by
  cases found : bank.distributor? key with
  | none => rw [Bank.token?, retarget_of_none found, Bank.token?]
  | some distributor =>
      have isDistributor := Bank.distributor?_eq_some.mp found
      simp only [Bank.token?, retarget_of_some isDistributor, isDistributor]

theorem retarget_retarget (more : List Pubkey) :
    (bank.retarget receiver keys).retarget receiver more =
      bank.retarget receiver (keys ++ more) := by
  funext key
  cases found : bank.distributor? key with
  | none =>
      rw [retarget_of_none, retarget_of_none found, retarget_of_none found]
      rw [distributor?_retarget, found]
      rfl
  | some distributor =>
      have isDistributor := Bank.distributor?_eq_some.mp found
      rw [retarget_of_some isDistributor, retarget_of_some (retarget_of_some isDistributor)]
      by_cases first : key ∈ keys <;> by_cases second : key ∈ more <;> simp [first, second]

/-- The distributor at one address is written. -/
theorem set_receiver (found : bank key = some (.distributor distributor)) :
    bank.set key (.distributor { distributor with clawbackReceiver := receiver }) =
      bank.retarget receiver [key] := by
  funext other
  by_cases here : other = key
  · subst here
    rw [retarget_of_some found, if_pos (List.mem_singleton_self _), Bank.set,
      Function.update_self]
  · rw [Bank.set, Function.update_of_ne here]
    cases isDistributor : bank.distributor? other with
    | none => rw [retarget_of_none isDistributor]
    | some found =>
        rw [retarget_of_some (Bank.distributor?_eq_some.mp isDistributor),
          if_neg (by simpa using here)]
        exact Bank.distributor?_eq_some.mp isDistributor

/-- A distributor that has the receiver needs no write. -/
theorem retarget_of_set (found : bank key = some (.distributor distributor))
    (isSet : distributor.clawbackReceiver = receiver) : bank.retarget receiver [key] = bank := by
  rw [← set_receiver found, ← isSet]
  exact Function.update_eq_self_iff.mpr found.symm

theorem holdsMint_retarget {mint : Pubkey} :
    (bank.retarget receiver keys).holdsMint other mint = bank.holdsMint other mint := by
  rw [holdsMint, token?_retarget, holdsMint]

/-- Setting a distributor that can be set does not change what can be set. -/
theorem settable_retarget (first : bank.settable receiver admin key = true) :
    (bank.retarget receiver [key]).settable receiver admin other =
      bank.settable receiver admin other := by
  cases isDistributor : bank.distributor? other with
  | none =>
      rw [settable_of_none isDistributor, settable_of_none]
      rw [distributor?_retarget, isDistributor]
      rfl
  | some distributor =>
      have found := Bank.distributor?_eq_some.mp isDistributor
      by_cases here : other = key
      · subst here
        rw [first, settable_of_some (retarget_of_some found),
          if_pos (List.mem_singleton_self _)]
        exact .inl rfl
      · have kept : (bank.retarget receiver [key]) other = some (.distributor distributor) := by
          rw [retarget_of_some found, if_neg (by simpa using here)]
        rw [Bool.eq_iff_iff, settable_of_some kept, settable_of_some found, holdsMint_retarget]

end Bank

/-! ## The rounds for one tree -/

section Run

variable {env : Env} {keyring : Keyring env} {clocks : Nat → Clock} {wallet : WalletArgs}
variable {receiver key : Pubkey} {world : NodeWorld}

/-- The transaction is executed exactly if the distributor can be set and is not. -/
theorem executeTransaction_setReceiver {clock : Clock} {bank after : Bank}
    {distributor : MerkleDistributor} (signed : wallet.keypair ∈ keyring.keys)
    (found : bank key = some (.distributor distributor))
    (different : distributor.clawbackReceiver ≠ receiver) :
    executeTransaction keyring clock bank (setReceiverTransaction wallet receiver key) =
        .ok after ↔
      bank.settable receiver wallet.keypair key = true ∧ after = bank.retarget receiver [key] := by
  rw [setReceiverTransaction, executeTransaction_fees, executeTransaction_program,
    Bank.settable_of_some found]
  simp only [execute, Keyring.transaction, setClawbackReceiver_eq_ok]
  constructor
  · rintro ⟨receipt, ⟨other, account, isOther, isAccount, _, sameMint, isAdmin, _, rfl⟩, rfl⟩
    have same := Option.some.inj (isOther.symm.trans found)
    rw [Account.distributor.injEq] at same
    subst same
    refine ⟨.inr ⟨isAdmin.symm, ?_⟩, Bank.set_receiver found⟩
    rw [Bank.holdsMint, Bank.token?_eq_some.mpr isAccount]
    exact decide_eq_true sameMint
  · rintro ⟨already | ⟨isAdmin, holds⟩, rfl⟩
    · exact absurd already different
    · rw [Bank.holdsMint] at holds
      split at holds
      case h_1 account isAccount =>
        exact ⟨_, ⟨distributor, account, found, Bank.token?_eq_some.mp isAccount, signed,
          of_decide_eq_true holds, isAdmin.symm, different, rfl⟩, (Bank.set_receiver found).symm⟩
      case h_2 => cases holds

/-- The rounds for a distributor that can be set end after one. -/
theorem serve_rounds_of_settable (signed : wallet.keypair ∈ keyring.keys)
    (isSettable : world.bank.settable receiver wallet.keypair key = true) (fuel : Nat) :
    ∃ sent, (setReceiverRounds wallet receiver key (fuel + 1)).serve
        (NodeWorld.answer keyring clocks) world =
      (.ok (), { bank := world.bank.retarget receiver [key], sent }) := by
  cases isDistributor : world.bank.distributor? key with
  | none =>
      rw [Bank.settable_of_none isDistributor] at isSettable
      cases isSettable
  | some distributor =>
      have found := Bank.distributor?_eq_some.mp isDistributor
      by_cases isSet : distributor.clawbackReceiver = receiver
      · refine ⟨world.sent, ?_⟩
        rw [setReceiverRounds, Program.ask_bind, Program.serve_call,
          answer_distributor_of_some found]
        simp only [if_pos isSet, Bank.retarget_of_set found isSet]
        rfl
      · have executed := (@executeTransaction_setReceiver _ _ _ _ _ (clocks world.sent) _ _ _
          signed found isSet).mpr ⟨isSettable, rfl⟩
        refine ⟨world.sent + 1, ?_⟩
        rw [setReceiverRounds, Program.ask_bind, Program.serve_call,
          answer_distributor_of_some found]
        simp only [if_neg isSet, Program.ask_bind, Program.serve_call, NodeWorld.answer, executed]
        rfl

/-- Where there is no distributor, the first round panics. -/
theorem serve_rounds_of_absent (absent : world.bank.distributor? key = none) (fuel : Nat) :
    (setReceiverRounds wallet receiver key (fuel + 1)).serve
        (NodeWorld.answer keyring clocks) world = (.error .panic, world) := by
  rw [setReceiverRounds, Program.ask_bind, Program.serve_call, answer_distributor_of_none absent]
  rfl

/-- Where the program refuses the transaction, no number of rounds is enough. -/
theorem serve_rounds_of_refused (signed : wallet.keypair ∈ keyring.keys)
    {distributor : MerkleDistributor} (found : world.bank key = some (.distributor distributor))
    (isRefused : world.bank.settable receiver wallet.keypair key = false) (fuel : Nat) :
    ∃ sent, (setReceiverRounds wallet receiver key fuel).serve
        (NodeWorld.answer keyring clocks) world =
      (.error .outOfFuel, { world with sent }) := by
  have different : distributor.clawbackReceiver ≠ receiver := by
    intro isSet
    rw [(Bank.settable_of_some found).mpr (.inl isSet)] at isRefused
    cases isRefused
  induction fuel generalizing world with
  | zero => exact ⟨world.sent, rfl⟩
  | succ fuel inductionHypothesis =>
      cases executed : executeTransaction keyring (clocks world.sent) world.bank
        (setReceiverTransaction wallet receiver key) with
      | ok after =>
          have isSettable :=
            ((executeTransaction_setReceiver signed found different).mp executed).1
          rw [isRefused] at isSettable
          cases isSettable
      | error error =>
          obtain ⟨sent, later⟩ := @inductionHypothesis { world with sent := world.sent + 1 }
            found isRefused
          refine ⟨sent, ?_⟩
          rw [setReceiverRounds, Program.ask_bind, Program.serve_call,
            answer_distributor_of_some found]
          simp only [if_neg different, Program.ask_bind, Program.serve_call, NodeWorld.answer,
            executed]
          exact later

/-! ## The loop -/

/-- How the command ends: at the first distributor that cannot be set. -/
def receiverEnd (bank : Bank) (receiver admin : Pubkey) (keys : List Pubkey) :
    Except Halt Unit :=
  match (keys.dropWhile (bank.settable receiver admin)).head? with
  | none => .ok ()
  | some key => if (bank.distributor? key).isSome then .error .outOfFuel else .error .panic

variable {findProgramAddress : List Bytes → Pubkey → Pubkey × UInt8} {args : CliArgs}

/-- The address that the commands compute for the tree of a file. -/
def fileAddress (findProgramAddress : List Bytes → Pubkey → Pubkey × UInt8) (args : CliArgs)
    (file : TreeFile) : Pubkey :=
  versionAddress findProgramAddress args file.tree.airdropVersion

section Loop

variable {file : TreeFile} {paths : List TreeFile} {fuel : Nat} {after : NodeWorld}

theorem setReceiverLoop_of_ok
    (first : (setReceiverRounds wallet receiver (fileAddress findProgramAddress args file)
      fuel).serve (NodeWorld.answer keyring clocks) world = (.ok (), after)) :
    (setReceiverLoop findProgramAddress args wallet receiver fuel (file :: paths)).serve
        (NodeWorld.answer keyring clocks) world =
      (setReceiverLoop findProgramAddress args wallet receiver fuel paths).serve
        (NodeWorld.answer keyring clocks) after := by
  rw [fileAddress, versionAddress] at first
  rw [setReceiverLoop, Program.serve_bind, first]

theorem setReceiverLoop_of_error {halt : Halt}
    (first : (setReceiverRounds wallet receiver (fileAddress findProgramAddress args file)
      fuel).serve (NodeWorld.answer keyring clocks) world = (.error halt, after)) :
    (setReceiverLoop findProgramAddress args wallet receiver fuel (file :: paths)).serve
        (NodeWorld.answer keyring clocks) world = (.error halt, after) := by
  rw [fileAddress, versionAddress] at first
  rw [setReceiverLoop, Program.serve_bind, first]
  rfl

end Loop

/-- The loop sets the distributors before the first one that cannot be set. -/
theorem setReceiverLoop_serve (signed : wallet.keypair ∈ keyring.keys) (fuel : Nat)
    (paths : List TreeFile) :
    ∃ sent, (setReceiverLoop findProgramAddress args wallet receiver (fuel + 1) paths).serve
        (NodeWorld.answer keyring clocks) world =
      (receiverEnd world.bank receiver wallet.keypair
          (paths.map (fileAddress findProgramAddress args)),
        { bank := world.bank.retarget receiver
            ((paths.map (fileAddress findProgramAddress args)).takeWhile
              (world.bank.settable receiver wallet.keypair))
          sent }) := by
  induction paths generalizing world with
  | nil => exact ⟨world.sent, by rw [List.map_nil, List.takeWhile_nil, Bank.retarget_nil]; rfl⟩
  | cons file paths inductionHypothesis =>
      rw [List.map_cons]
      cases isSettable : world.bank.settable receiver wallet.keypair
        (fileAddress findProgramAddress args file) with
      | true =>
          obtain ⟨sent, first⟩ := @serve_rounds_of_settable _ keyring clocks wallet receiver
            (fileAddress findProgramAddress args file) world signed isSettable fuel
          have unchanged : (world.bank.retarget receiver
              [fileAddress findProgramAddress args file]).settable receiver wallet.keypair =
                world.bank.settable receiver wallet.keypair :=
            funext fun other => Bank.settable_retarget isSettable
          obtain ⟨sentLater, later⟩ := @inductionHypothesis
            { bank := world.bank.retarget receiver [fileAddress findProgramAddress args file]
              sent }
          refine ⟨sentLater, ?_⟩
          rw [setReceiverLoop_of_ok first, later]
          simp only [unchanged, receiverEnd, Bank.retarget_retarget,
            List.takeWhile_cons_of_pos isSettable, List.dropWhile_cons_of_pos isSettable,
            List.singleton_append, Bank.isSome_retarget]
      | false =>
          have foreign : ¬ world.bank.settable receiver wallet.keypair
              (fileAddress findProgramAddress args file) = true := by simp [isSettable]
          rw [receiverEnd, List.takeWhile_cons_of_neg foreign, List.dropWhile_cons_of_neg foreign,
            Bank.retarget_nil]
          cases isDistributor : world.bank.distributor?
            (fileAddress findProgramAddress args file) with
          | none =>
              refine ⟨world.sent, ?_⟩
              rw [setReceiverLoop_of_error (serve_rounds_of_absent isDistributor fuel)]
              simp only [List.head?_cons, isDistributor, Option.isSome_none, Bool.false_eq_true,
                if_false]
          | some distributor =>
              obtain ⟨sent, first⟩ := @serve_rounds_of_refused _ keyring clocks wallet receiver
                (fileAddress findProgramAddress args file) world signed _
                (Bank.distributor?_eq_some.mp isDistributor) isSettable (fuel + 1)
              refine ⟨sent, ?_⟩
              rw [setReceiverLoop_of_error first]
              simp only [List.head?_cons, isDistributor, Option.isSome_some, if_true]

/-- The command comes through exactly where every distributor can be set. -/
theorem receiverEnd_eq_ok {bank : Bank} {admin : Pubkey} {keys : List Pubkey} :
    receiverEnd bank receiver admin keys = .ok () ↔
      ∀ key ∈ keys, bank.settable receiver admin key = true := by
  rw [← List.dropWhile_eq_nil_iff, receiverEnd]
  cases keys.dropWhile (bank.settable receiver admin) with
  | nil => exact iff_of_true rfl rfl
  | cons key later =>
      refine iff_of_false ?_ (List.cons_ne_nil _ _)
      by_cases found : (bank.distributor? key).isSome = true
      · simp [found]
      · simp [found]

variable (keyring clocks findProgramAddress args wallet world) in
/-- `process_set_clawback_receiver` on a node that executes what it accepts: for every number
of rounds it sets the distributors before the first one that cannot be set, and comes through
exactly where there is no such one. -/
theorem setClawbackReceiver_exact (signed : wallet.keypair ∈ keyring.keys)
    (associatedTokenAddress : Pubkey → Pubkey → Pubkey) (newReceiver : Pubkey) (fuel : Nat)
    (listing : List TreeFile) :
    let account := associatedTokenAddress newReceiver args.mint
    let keys := (sortByPath listing).map (fileAddress findProgramAddress args)
    let served := (processSetClawbackReceiver findProgramAddress associatedTokenAddress args
      wallet newReceiver (fuel + 1) listing).serve (NodeWorld.answer keyring clocks) world
    served.1 = receiverEnd world.bank account wallet.keypair keys ∧
      served.2.bank = world.bank.retarget account
        (keys.takeWhile (world.bank.settable account wallet.keypair)) ∧
      (served.1 = .ok () ↔ ∀ file ∈ listing, world.bank.settable account wallet.keypair
        (fileAddress findProgramAddress args file) = true) := by
  intro account keys served
  obtain ⟨sent, whole⟩ := @setReceiverLoop_serve env keyring clocks wallet account world
    findProgramAddress args signed fuel (sortByPath listing)
  have isServed : served = _ := whole
  rw [isServed]
  refine ⟨rfl, rfl, ?_⟩
  rw [receiverEnd_eq_ok, List.forall_mem_map]
  constructor
  · exact fun all file member => all file ((sortByPath_perm listing).mem_iff.mpr member)
  · exact fun all file member => all file ((sortByPath_perm listing).mem_iff.mp member)

end Run

section Sample

/-- The associated token accounts of Alice and the admin. -/
def sampleAssociated (wallet _mint : Pubkey) : Pubkey :=
  if wallet = alice then aliceToken else adminToken

/-- The admin lets the clawback go to Alice. -/
theorem setClawbackReceiver_exact_sample :
    ((processSetClawbackReceiver (fun seeds _ => sampleFind seeds) sampleAssociated
        sampleCliArgs { keypair := sampleAdmin, priorityFee := some 5 } alice 1
        [⟨"tree_0.json", sampleTree⟩]).serve
      (NodeWorld.answer adminKeyring fun _ => ⟨0, 20⟩)
      ⟨sampleAfter [createSample sampleTree.merkleRoot false], 0⟩).2.bank sampleKey =
        some (.distributor { sampleDistributor sampleTree.merkleRoot false with
          clawbackReceiver := aliceToken }) := by
  rw [(setClawbackReceiver_exact adminKeyring (fun _ => ⟨0, 20⟩)
    { keypair := sampleAdmin, priorityFee := some 5 } _ (fun seeds _ => sampleFind seeds)
    sampleCliArgs (by decide) sampleAssociated alice 0 [⟨"tree_0.json", sampleTree⟩]).2.1]
  decide +kernel

end Sample

end Airdrop
