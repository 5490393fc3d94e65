/-
Module: Airdrop.Proofs.FundedSeason
Purpose: What is certain once `process_fund_all` has returned normally, whatever others did
  meanwhile: the vault of each deployed tree of its folder has received the cap on claims, and
  covers all that is still to be claimed.
Trusted boundary: none
Main exports: MadeOf, KnownRun, Received, run_balance_le, FundedFrom, FundCalled,
  sendAndConfirm_receives, fundAllLoop_receives, fundFolderSystem_sound, funding_covers
-/
import Airdrop.Proofs.Funding
import Airdrop.Proofs.ReceiverChange
import Airdrop.Proofs.Solvency

namespace Airdrop

open Checked Transition Interference

/-! ## Runs of known transactions -/

section Known

variable {env : Env} {start middle bank : Bank} {history more : History env}
variable {known : List (Transaction env)}

/-- The transaction is a known one, or only moves tokens. -/
def OneOf (known : List (Transaction env)) (tx : Transaction env) : Prop :=
  tx ∈ known ∨ ∃ source destination authority amount,
    tx.instruction = .transfer source destination authority amount

/-- The accepted transactions of the run are known ones, or only move tokens. -/
def MadeOf (known : List (Transaction env)) (history : History env) : Prop :=
  ∀ commit ∈ commits history, OneOf known commit.input

theorem MadeOf.append (later : MadeOf known more) (earlier : MadeOf known history) :
    MadeOf known (more ++ history) := by
  intro commit member
  rw [commits_append, List.mem_append] at member
  exact member.elim (later commit) (earlier commit)

theorem MadeOf.single {tx : Transaction env} {receipt : Receipt}
    (accepted : (machine env).step bank tx = .ok receipt) (isKnown : OneOf known tx) :
    MadeOf known [(machine env).attempt bank tx] := by
  intro commit member
  rw [commits_of_ok accepted, commits_nil, List.mem_singleton] at member
  subst member
  exact isKnown

/-- Known transactions lead from some accounts to others. -/
def KnownRun (known : List (Transaction env)) (one two : Bank) : Prop :=
  ∃ history, Reaches env one history two ∧ MadeOf known history

theorem MadeOf.nil : MadeOf known ([] : History env) :=
  fun _ member => absurd member List.not_mem_nil

theorem KnownRun.refl (bank : Bank) : KnownRun known bank bank :=
  ⟨[], .start, .nil⟩

theorem KnownRun.trans (first : KnownRun known start middle)
    (second : KnownRun known middle bank) : KnownRun known start bank := by
  obtain ⟨history, toMiddle, madeOf⟩ := first
  obtain ⟨more, toBank, laterMadeOf⟩ := second
  exact ⟨more ++ history, toMiddle.trans toBank, laterMadeOf.append madeOf⟩

end Known

/-! ## What an account received -/

section Received

variable {env : Env} {start bank after : Bank} {history : History env}
variable {known : List (Transaction env)}
variable {key source destination authority : Pubkey} {amount : Nat} {value : U64}

variable (known start) in
/-- In some run of known transactions to these accounts, so many tokens were in the account at
the start or reached it later. -/
def Received (key : Pubkey) (amount : Nat) (bank : Bank) : Prop :=
  ∃ history, Reaches env start history bank ∧ MadeOf known history ∧
    amount ≤ start.balance key + deposits key (commits history)

/-- What was received stays received. -/
theorem Received.later (received : Received start known key amount bank)
    (run : KnownRun known bank after) : Received start known key amount after := by
  obtain ⟨history, reached, madeOf, enough⟩ := received
  obtain ⟨more, goesOn, laterMadeOf⟩ := run
  refine ⟨more ++ history, reached.trans goesOn, laterMadeOf.append madeOf, ?_⟩
  rw [deposits, commits_append, List.map_append, List.sum_append, ← deposits, ← deposits]
  omega

/-- An account has no more than it had and received. -/
theorem run_balance_le (run : Reaches env start history bank) {account : TokenAccount}
    (present : start key = some (.token account)) :
    bank.balance key ≤ start.balance key + deposits key (commits history) := by
  suffices held : ∃ token, bank key = some (.token token) ∧
      bank.balance key ≤ start.balance key + deposits key (commits history) by
    obtain ⟨_, _, bounded⟩ := held
    exact bounded
  refine run.commit_invariant (fun done (bank : Bank) => ∃ token, bank key = some (.token token) ∧
    bank.balance key ≤ start.balance key + deposits key done) ⟨account, present, ?_⟩ ?_
  · exact Nat.le_add_right _ _
  · intro history bank tx receipt _ ⟨token, isToken, bounded⟩ accepted
    have moved := tokensMoved accepted
    obtain ⟨balance, kept, -⟩ := moved.kept isToken
    refine ⟨_, kept, ?_⟩
    have flow := moved.balance isToken
    change receipt.bank.balance key ≤ start.balance key +
      (inflow key receipt.transfers + deposits key (commits history))
    omega

/-- A transfer by the token program, as a transaction. -/
def transferTransaction (env : Env) (source destination authority : Pubkey) (value : U64)
    (ordinary : ∀ seeds, env.createProgramAddress seeds ≠ some authority) : Transaction env where
  clock := { slot := 0, unixTimestamp := 0 }
  signers := [authority]
  instruction := .transfer source destination authority value
  no_derived_signer := by
    intro seeds address derived among
    rw [List.mem_singleton] at among
    exact ordinary seeds (among ▸ derived)

/-- A transfer is a step of the program, in which its destination receives the amount. -/
theorem received_of_transfer (run : Reaches env start history bank)
    (madeOf : MadeOf known history)
    (ordinary : ∀ seeds, env.createProgramAddress seeds ≠ some authority)
    (moved : tokenTransfer bank [authority] source destination authority value = .ok after) :
    KnownRun known bank after ∧
      (source ≠ destination → Received start known destination value.toNat after) := by
  let tx := transferTransaction env source destination authority value ordinary
  have accepted : (machine env).step bank tx = .ok
      { bank := after, transfers := [⟨source, destination, value⟩], events := [] } := by
    change (tokenTransfer bank [authority] source destination authority value >>= _) = _
    rw [moved]
    rfl
  have isKnown : OneOf known tx := .inr ⟨source, destination, authority, value, rfl⟩
  have single := MadeOf.single accepted isKnown
  refine ⟨⟨_, Run.start.commit accepted, single⟩, fun apart =>
    ⟨_, run.commit accepted, single.append madeOf, ?_⟩⟩
  rw [commits_of_ok accepted, deposits, List.map_cons, List.sum_cons]
  have reaches : inflow destination [⟨source, destination, value⟩] = value.toNat := by
    simp [inflow, apart]
  change value.toNat ≤ _ + (inflow destination [⟨source, destination, value⟩] + _)
  omega

end Received

/-! ## What the command does for one tree -/

section Season

variable {env : Env} {earlier sofar : History env} {key : Pubkey}
variable {founding : Commit Bank (Transaction env) Receipt} {created : MerkleDistributor}
variable {treeNodes : List TreeNode} {tree : AirdropMerkleTree}
variable {findProgramAddress : List Bytes → Pubkey → Pubkey × UInt8}
variable {associatedTokenAddress : Pubkey → Pubkey → Pubkey}
variable {args : CliArgs} {wallet : WalletArgs} {listing : List TreeFile} {file : TreeFile}
variable {world left : FundWorld} {known : List (Transaction env)}

variable (known founding created wallet) in
/-- The accounts are those of a run from the deployment on, in which the transactions that the
wallet sent to the vault are counted. -/
structure FundedFrom (world : FundWorld) : Prop where
  reached : KnownRun known founding.outcome.bank world.bank
  own : ∀ transaction ∈ world.mempool.inFlight, transaction.authority = wallet.keypair
  paid : ∀ transaction ∈ world.mempool.successes FundOutcome.succeeded,
    transaction.destination = created.tokenVault →
      Received founding.outcome.bank known created.tokenVault transaction.amount.toNat world.bank

/-- A call of the command leaves the accounts alone, and submits a transaction of the wallet at
most. -/
inductive FundCalled (wallet : WalletArgs) (world : FundWorld) : FundWorld → Prop where
  | none : FundCalled wallet world world
  | sent {transaction : FundTransaction} (own : transaction.authority = wallet.keypair) :
      FundCalled wallet world (world.submit transaction)

theorem FundedFrom.called (good : FundedFrom founding created wallet known world)
    (called : FundCalled wallet world left) : FundedFrom founding created wallet known left := by
  cases called with
  | none => exact good
  | @sent transaction own =>
      have same : (world.submit transaction).mempool.settled = world.mempool.settled :=
        Mempool.settled_submit
      refine ⟨good.reached, fun other flying => ?_, fun other success => ?_⟩
      · rcases Mempool.mem_inFlight_submit flying with rfl | flying
        · exact own
        · exact good.own other flying
      · rw [Mempool.successes, same, ← Mempool.successes] at success
        exact good.paid other success

variable (known founding created wallet) in
/-- The calls that are answered in good worlds, while others go on with the run. -/
abbrev FundReceives {Result : Type} (Ensures : Result → Bank → Prop)
    (program : FundProgram Result) (world : FundWorld) : Prop :=
  Keeps FundWorld.answer
    (fun found _ _ => FundedFrom founding created wallet known found ∧ True)
    (fun one two => KnownRun known one.bank two.bank) (FundCalled wallet)
    (fun result left => Ensures result left.bank) program world

/-- What is confirmed was executed. -/
theorem answer_confirm_ok {transaction : FundTransaction} {reply : FundReply}
    (answered : world.answer (.confirm transaction) reply = some (.ok (), left)) :
    transaction ∈ world.mempool.successes FundOutcome.succeeded := by
  cases reply with
  | blockhash blockhash => simp [FundWorld.answer] at answered
  | failed submitted => cases answered
  | found =>
      rw [FundWorld.answer] at answered
      split at answered
      case isTrue success => exact success
      case isFalse => cases answered

theorem FundCalled.run (called : FundCalled wallet world left) :
    KnownRun known world.bank left.bank := by
  cases called with
  | none => exact .refl _
  | sent => exact .refl _

/-- Whatever the command does later, what was received stays received. -/
theorem FundReceives.along {Result : Type} {Ensures : Result → Bank → Prop}
    {program : FundProgram Result} {account : Pubkey} {amount : Nat}
    (received : Received founding.outcome.bank known account amount world.bank)
    (keeps : FundReceives founding created wallet known Ensures program world) :
    FundReceives founding created wallet known
      (fun result bank => Received founding.outcome.bank known account amount bank ∧
        Ensures result bank) program world := by
  refine Keeps.weaken ?_ (keeps.since (fun one two => KnownRun known one.bank two.bank)
    (fun world => .refl world.bank) KnownRun.trans id FundCalled.run)
  rintro result left ⟨run, ensured⟩
  exact ⟨received.later run, ensured⟩

/-- A confirmed transaction to the vault was received. -/
theorem sendAndConfirm_receives {transaction : FundTransaction}
    (own : transaction.authority = wallet.keypair) :
    FundReceives founding created wallet known
      (fun result bank => result = .ok () → transaction.destination = created.tokenVault →
        Received founding.outcome.bank known created.tokenVault transaction.amount.toNat bank)
      (sendAndConfirm transaction) world := by
  intro found change reply answer left allowed answered
  refine ⟨?_, ?_⟩
  · rcases answer_send answered with rfl | rfl
    · exact .none
    · exact .sent own
  · cases answer with
    | error failure => exact fun failed => absurd failed (by simp)
    | ok _ =>
        intro found change reply answer left allowed answered
        obtain rfl := answer_confirm answered
        refine ⟨.none, ?_⟩
        rintro rfl isVault
        exact allowed.1.paid transaction (answer_confirm_ok answered) isVault

/-- The distributor of a deployed tree lives on, whatever is done. -/
theorem TreeDeployment.lifetime {bank : Bank} {history : History env}
    (deployment : TreeDeployment env earlier founding key created treeNodes tree)
    (run : Reaches env founding.outcome.bank history bank) :
    Lifetime env earlier founding key created history bank :=
  deployment.toFounded.lifetime
    (deployment.creation.1.deployedFor deployment.deploys).fixed run

variable (known founding created findProgramAddress args key) in
/-- What an attempt over the files ensures: where it returns normally it has met no error, and
the vault of the tree has received the cap, if its file is among them. -/
def PassFunds (files : List TreeFile) (isError : Bool) (result : Except (Stop String) Unit)
    (bank : Bank) : Prop :=
  result = .ok () → isError = false ∧
    ((∃ file ∈ files, fileAddress findProgramAddress args file = key) →
      Received founding.outcome.bank known created.tokenVault created.maxTotalClaim.toNat bank)

theorem PassFunds.cons {files : List TreeFile} {isError : Bool} {bank : Bank}
    {result : Except (Stop String) Unit}
    (rest : PassFunds key founding created findProgramAddress args known files isError result bank)
    (first : fileAddress findProgramAddress args file = key →
      Received founding.outcome.bank known created.tokenVault created.maxTotalClaim.toNat bank) :
    PassFunds key founding created findProgramAddress args known (file :: files) isError result
      bank := by
  intro returned
  refine ⟨(rest returned).1, ?_⟩
  rintro ⟨other, member, isOther⟩
  rcases List.mem_cons.mp member with rfl | member
  · exact first isOther
  · exact (rest returned).2 ⟨other, member, isOther⟩

/-- The address of a distributor is derived, and no wallet. -/
theorem TreeDeployment.underived
    (deployment : TreeDeployment env earlier founding key created treeNodes tree)
    (ordinary : ∀ seeds, env.createProgramAddress seeds ≠ some wallet.keypair) :
    key ≠ wallet.keypair := by
  rintro rfl
  have formed := (deployment.lifetime .start).wellFormed deployment.born
  have made := env.create_find (distributorSeeds created.base created.mint created.version)
  rw [formed.derived] at made
  exact ordinary _ made

variable (deployment : TreeDeployment env earlier founding key created treeNodes tree)
variable (isVault : associatedTokenAddress key args.mint = created.tokenVault)
include deployment isVault

/-- One attempt that meets no error has funded the vault of each of its files. -/
theorem fundAllLoop_receives (files : List TreeFile) (isError : Bool) (world : FundWorld) :
    FundReceives founding created wallet known
      (PassFunds key founding created findProgramAddress args known files isError)
      (fundAllLoop findProgramAddress associatedTokenAddress args wallet files isError)
      world := by
  induction files generalizing isError world with
  | nil =>
      cases isError with
      | true => exact fun failed => absurd failed (by simp)
      | false =>
          refine fun _ => ⟨rfl, ?_⟩
          rintro ⟨file, member, -⟩
          exact absurd member List.not_mem_nil
  | cons file files inductionHypothesis =>
      -- the rest of the attempt, once this vault has received its cap
      have goesOn (left : FundWorld) (first : fileAddress findProgramAddress args file = key →
          Received founding.outcome.bank known created.tokenVault created.maxTotalClaim.toNat
            left.bank) :
          FundReceives founding created wallet known
            (PassFunds key founding created findProgramAddress args known (file :: files) isError)
            (fundAllLoop findProgramAddress associatedTokenAddress args wallet files isError)
            left := by
        by_cases here : fileAddress findProgramAddress args file = key
        · refine Keeps.weaken ?_ (FundReceives.along (first here)
            (inductionHypothesis isError left))
          rintro result left ⟨received, rest⟩
          exact rest.cons fun _ => received
        · refine Keeps.weaken ?_ (inductionHypothesis isError left)
          intro result left rest
          exact rest.cons fun isHere => absurd isHere here
      rw [fundAllLoop]
      intro found change reply answer left allowed answered
      obtain ⟨rfl, read⟩ := answer_distributor answered
      refine ⟨.none, ?_⟩
      cases answer with
      | error failure => exact fun failed => absurd failed (by simp)
      | ok distributorState =>
          have cap (here : fileAddress findProgramAddress args file = key) :
              distributorState.maxTotalClaim = created.maxTotalClaim := by
            obtain ⟨history, reached, madeOf⟩ := allowed.1.reached
            have present := read distributorState rfl
            exact ((deployment.lifetime reached).sameTerms (here ▸ present)).maxTotalClaim
          intro later change reply answer left allowed answered
          obtain ⟨rfl, readVault⟩ := answer_tokenAccount answered
          refine ⟨.none, ?_⟩
          cases answer with
          | error failure => exact fun failed => absurd failed (by simp)
          | ok tokenVaultState =>
              have isToken := (readVault tokenVaultState rfl).2
              change FundReceives founding created wallet known
                (PassFunds key founding created findProgramAddress args known (file :: files)
                  isError)
                (if distributorState.maxTotalClaim ≤ tokenVaultState.amount then _ else _) left
              split
              case isTrue already =>
                refine goesOn left fun here => ?_
                -- what the vault holds it had or received
                obtain ⟨history, reached, madeOf⟩ := allowed.1.reached
                obtain ⟨vault, vaultPresent, -⟩ := (deployment.lifetime .start).vault
                have bounded := run_balance_le reached vaultPresent
                have isFound : left.bank created.tokenVault = some (.token tokenVaultState) := by
                  rw [← isVault, ← here]
                  exact isToken
                rw [Bank.balance_of_token isFound] at bounded
                rw [BitVec.le_def, cap here] at already
                exact ⟨history, reached, madeOf, already.trans bounded⟩
              case isFalse =>
                intro found change reply answer left allowed answered
                obtain rfl := answer_latestBlockhash answered
                refine ⟨.none, ?_⟩
                cases answer with
                | error failure => exact fun failed => absurd failed (by simp)
                | ok blockhash =>
                    change FundReceives founding created wallet known
                      (PassFunds key founding created findProgramAddress args known (file :: files)
                        isError) (sendAndConfirm _ >>= _) left
                    apply Keeps.bind
                    refine Keeps.weaken ?_ (sendAndConfirm_receives rfl)
                    intro result world confirmed
                    cases result with
                    | ok _ =>
                        refine goesOn world fun here => ?_
                        rw [← cap here]
                        refine confirmed rfl ?_
                        rw [← isVault, ← here]
                        rfl
                    | error failure =>
                        refine Keeps.weaken ?_ (inductionHypothesis true world)
                        exact fun result left rest returned =>
                          absurd (rest returned).1 (by simp)

/-- All attempts of the command.  Where the counter has come to its end, the attempt before has
funded the vault. -/
theorem processFundAllLoop_receives (counter : Nat) (world : FundWorld)
    (funded : counter = 0 → (∃ file ∈ sortByPath listing,
      fileAddress findProgramAddress args file = key) →
        Received founding.outcome.bank known created.tokenVault created.maxTotalClaim.toNat
          world.bank) :
    FundReceives founding created wallet known
      (PassFunds key founding created findProgramAddress args known (sortByPath listing) false)
      (processFundAllLoop findProgramAddress associatedTokenAddress args wallet listing counter)
      world := by
  induction counter generalizing world with
  | zero => exact fun _ => ⟨rfl, funded rfl⟩
  | succ i inductionHypothesis =>
      have attempt (world : FundWorld) : FundReceives founding created wallet known
          (PassFunds key founding created findProgramAddress args known (sortByPath listing) false)
          (fundAll findProgramAddress associatedTokenAddress args wallet listing) world :=
        fundAllLoop_receives deployment isVault _ _ world
      rw [processFundAllLoop]
      apply Keeps.bind
      refine Keeps.weaken ?_ (attempt world)
      intro result world passed
      cases result with
      | ok _ => exact fun _ => passed rfl
      | error stop =>
          cases stop with
          | panic => exact fun failed => absurd failed (by simp)
          | err message =>
              dsimp only
              split
              case isFalse later =>
                exact inductionHypothesis world fun atEnd => absurd atEnd (by omega)
              case isTrue =>
                apply Keeps.bind
                refine Keeps.weaken ?_ (attempt world)
                intro result world passed
                cases result with
                | ok _ => exact inductionHypothesis world fun _ => (passed rfl).2
                | error stop => exact fun failed => absurd failed (by simp)

omit deployment isVault in
/-- A transaction that settles leaves a good world, if it counts as executed only where the
vault has received what it sent there. -/
theorem FundedFrom.settle {transaction : FundTransaction} {outcome : FundOutcome}
    {mempool : Mempool FundTransaction FundOutcome} {bank : Bank}
    (good : FundedFrom founding created wallet known world)
    (run : KnownRun known world.bank bank)
    (settled : world.mempool.settle transaction outcome = some mempool)
    (counted : outcome.succeeded = true → transaction.destination = created.tokenVault →
      Received founding.outcome.bank known created.tokenVault transaction.amount.toNat bank) :
    FundedFrom founding created wallet known { bank, mempool } := by
  obtain ⟨pending, flying, entries⟩ := Mempool.settle_eq_some.mp settled
  refine ⟨good.reached.trans run, ?_, ?_⟩
  · intro other among
    rw [flying] at among
    exact good.own other (List.mem_of_mem_erase among)
  · intro other success toVault
    obtain ⟨mark, entry, isSuccess⟩ := Mempool.mem_successes.mp success
    rw [entries, List.mem_cons] at entry
    rcases entry with same | before
    · cases same
      exact counted isSuccess toVault
    · exact (good.paid other (Mempool.mem_successes.mpr ⟨mark, before, isSuccess⟩) toVault).later
        run

/-- The transaction of the program that an event executes. -/
def FundEvent.transaction? : FundEvent env → Option (Transaction env)
  | .transaction tx => some tx
  | .execute _ => none
  | .expire _ => none

omit isVault in
/-- Whatever others do, the accounts go on with the run, and a transaction of the wallet that
is executed is counted. -/
theorem FundedFrom.change {event : FundEvent env}
    (ordinary : ∀ seeds, env.createProgramAddress seeds ≠ some wallet.keypair)
    (isKnown : ∀ tx ∈ event.transaction?, tx ∈ known)
    (good : FundedFrom founding created wallet known world)
    (changed : world.change event = some left) :
    KnownRun known world.bank left.bank ∧ FundedFrom founding created wallet known left := by
  obtain ⟨history, reached, madeOf⟩ := good.reached
  cases event with
  | transaction tx =>
      rw [FundWorld.change] at changed
      split at changed
      case h_2 => cases changed
      case h_1 receipt accepted =>
        cases changed
        have stepped : (machine env).step world.bank tx = .ok receipt := accepted
        have next : KnownRun known world.bank receipt.bank :=
          ⟨_, Run.start.commit stepped, .single stepped (.inl (isKnown tx rfl))⟩
        exact ⟨next, good.reached.trans next, good.own, fun other success toVault =>
          (good.paid other success toVault).later next⟩
  | execute transaction =>
      rw [FundWorld.change] at changed
      split at changed
      case h_1 bank moved =>
        obtain ⟨mempool, settled, same⟩ := Option.bind_eq_some_iff.mp changed
        cases same
        have own := good.own transaction (Mempool.settle_eq_some.mp settled).1
        have underived : ∀ seeds, env.createProgramAddress seeds ≠ some transaction.authority :=
          fun seeds => own ▸ ordinary seeds
        obtain ⟨next, receives⟩ := received_of_transfer reached madeOf underived moved
        refine ⟨next, good.settle next settled fun _ toVault => ?_⟩
        rw [← toVault]
        -- the vault belongs to the distributor, which is not the wallet
        refine receives fun self => ?_
        obtain ⟨payer, isPayer, owner, -⟩ := (tokenTransfer_effect moved).1.payer
        obtain ⟨vault, vaultPresent, vaultOwner⟩ := (deployment.lifetime reached).vault
        rw [self, toVault] at isPayer
        rw [Bank.token_unique isPayer vaultPresent, vaultOwner, own] at owner
        exact deployment.underived ordinary owner
      case h_2 =>
        obtain ⟨mempool, settled, same⟩ := Option.bind_eq_some_iff.mp changed
        cases same
        exact ⟨.refl _, good.settle (.refl _) settled fun failed => absurd failed (by decide)⟩
  | expire transaction =>
      obtain ⟨mempool, settled, same⟩ := Option.bind_eq_some_iff.mp changed
      cases same
      exact ⟨.refl _, good.settle (.refl _) settled fun failed => absurd failed (by decide)⟩

/-- The premises of the rule for runs. -/
theorem fundFolderSystem_sound
    (ordinary : ∀ seeds, env.createProgramAddress seeds ≠ some wallet.keypair) :
    Sound (fundFolderSystem env findProgramAddress associatedTokenAddress args wallet listing)
      (fun _ _ _ => True) (fun _ event => ∀ tx ∈ event.transaction?, tx ∈ known)
      (fun one two => KnownRun known one.bank two.bank) (FundCalled wallet)
      (fun result left => PassFunds key founding created findProgramAddress args known
        (sortByPath listing) false result left.bank)
      (FundedFrom founding created wallet known) where
  refl := fun world => .refl world.bank
  trans := KnownRun.trans
  stable := by
    intro result one two passed run returned
    exact ⟨rfl, fun listed => ((passed returned).2 listed).later run⟩
  tolerant := .inl FundCalled.run
  started := fun _ _ => processFundAllLoop_receives deployment isVault 9 _
    fun atEnd => absurd atEnd (by decide)
  changed := fun good isKnown changed => (good.change deployment ordinary isKnown changed).1
  called := FundedFrom.called
  permitted := fun good isKnown changed => (good.change deployment ordinary isKnown changed).2

/-- The record of a run of the command on one folder. -/
abbrev FundFolderHistory (env : Env) : Type :=
  List (Entry FundConfiguration (Input FundReply (FundEvent env) Unit) Unit
    FundConfiguration)

/-- The transaction of others that a step of the run executes. -/
def otherOf : Input FundReply (FundEvent env) Unit → Option (Transaction env)
  | .start _ => none
  | .call _ _ => none
  | .event event => event.transaction?

/-- The transactions of others that are executed meanwhile. -/
def othersIn (history : FundFolderHistory env) : List (Transaction env) :=
  history.filterMap fun entry => otherOf entry.input

section Returned

variable {history : FundFolderHistory env} {start : Bank}
variable {configuration : FundConfiguration}
variable (before : Reaches env founding.outcome.bank sofar start)
variable (run : Run (fundFolderSystem env findProgramAddress associatedTokenAddress args wallet
  listing).machine (fundingStarts start) history configuration)
variable (ordinary : ∀ seeds, env.createProgramAddress seeds ≠ some wallet.keypair)
variable (member : file ∈ listing) (isKey : fileAddress findProgramAddress args file = key)
variable (returned : .done (.ok ()) ∈ configuration.programs)
include before run ordinary member isKey returned

/-- Once the command has returned normally, the vault has received the cap, in a run of the
transactions before, of those of others, and of transfers. -/
theorem funding_received :
    Received founding.outcome.bank ((commits sofar).map Commit.input ++ othersIn history)
      created.tokenVault created.maxTotalClaim.toNat configuration.world.bank := by
  have beforeKnown : MadeOf ((commits sofar).map Commit.input ++ othersIn history) sofar :=
    fun commit member => .inl (List.mem_append_left _ (List.mem_map_of_mem member))
  have starts : FundedFrom founding created wallet
      ((commits sofar).map Commit.input ++ othersIn history) (fundingStarts start).world :=
    { reached := ⟨sofar, before, beforeKnown⟩
      own := fun transaction flying => absurd flying (by simp [fundingStarts, Mempool.empty])
      paid := fun transaction success => absurd success
        (by simp [fundingStarts, Mempool.successes, Mempool.empty]) }
  have permitted : ∀ entry ∈ history, entry.input.Allowed (fun _ _ _ => True)
      (fun _ event => ∀ tx ∈ event.transaction?,
        tx ∈ (commits sofar).map Commit.input ++ othersIn history) entry.before := by
    intro entry member
    cases isInput : entry.input with
    | start job => exact trivial
    | call position choice => exact fun _ _ => trivial
    | event event =>
        intro tx isTransaction
        refine List.mem_append_right _ (List.mem_filterMap.mpr ⟨entry, member, ?_⟩)
        rw [isInput]
        exact isTransaction
  have all := (fundFolderSystem_sound deployment isVault ordinary).run (.start starts) run
    permitted
  have among := (sortByPath_perm listing).mem_iff.mpr member
  exact (all.keeps _ returned rfl).2 ⟨file, among, isKey⟩

end Returned

end Season

section Sample

/-- The accounts before the distributor exists, with an empty vault.  The admin holds the
tokens. -/
def poorBank : Bank :=
  let bank := sampleBank.set sampleVault (.token ⟨sampleMint, sampleKey, 0⟩)
  bank.set (sampleEnv.associatedTokenAddress sampleAdmin sampleMint)
    (.token ⟨sampleMint, sampleAdmin, 1000⟩)

theorem poorBank_genesis : Genesis poorBank := by
  intro key
  simp only [poorBank, Bank.set, Function.update_apply]
  constructor
  · intro data
    split_ifs
    · simp
    · simp
    · exact (sampleBank_genesis key).1 data
  · intro data
    split_ifs
    · simp
    · simp
    · exact (sampleBank_genesis key).2 data

/-- The creation of the distributor. -/
def poorFounding : Commit Bank (Transaction sampleEnv) Receipt :=
  { before := poorBank
    input := createSample sampleTree.merkleRoot false
    outcome := .quiet (poorBank.set sampleKey
      (.distributor (sampleDistributor sampleTree.merkleRoot false))) }

theorem poorFounding_accepted :
    execute sampleEnv poorBank (createSample sampleTree.merkleRoot false) =
      .ok poorFounding.outcome := by
  have valid : sampleAccounts.Valid sampleEnv [sampleAdmin, sampleBase] poorBank 0 254 :=
    { baseSigned := List.mem_cons_of_mem _ List.mem_cons_self
      adminSigned := List.mem_cons_self
      isMint := by decide +kernel
      receiver := ⟨⟨sampleMint, sampleAdmin, 0⟩, by decide +kernel, rfl⟩
      vault := ⟨⟨sampleMint, sampleKey, 0⟩, by decide +kernel, rfl⟩
      vaultAssociated := by decide +kernel
      derived := by decide +kernel
      free := by decide +kernel }
  refine newDistributor2_eq_ok.mpr ⟨254, 220, ?_, rfl, rfl⟩
  exact
    { valid
      ordered := show (100 : Int64).toInt < (200 : Int64).toInt by decide
      future := show (10 : Int64).toInt < (100 : Int64).toInt by decide
      clawbackAfterEnd := show (200 : Int64).toInt ≤ (300 : Int64).toInt by decide
      activation := ⟨.timestamp, rfl⟩ }

theorem poor_deployment :
    TreeDeployment sampleEnv [] poorFounding sampleKey
      (sampleDistributor sampleTree.merkleRoot false) sampleNodes sampleTree where
  origin := ⟨poorBank, poorBank_genesis, .start⟩
  accepted := poorFounding_accepted
  creates := rfl
  born := by simp [poorFounding, Receipt.quiet, Bank.set]
  fresh := by simp
  built := ⟨0, sampleTree_built⟩
  deploys := .withBonus ⟨rfl, rfl, rfl, rfl⟩
  clock := by decide
  vaultMint := ⟨⟨sampleMint, sampleKey, 0⟩, by decide +kernel, rfl⟩

/-- The transaction that funds the vault. -/
def capTransaction : FundTransaction :=
  { sampleFundTransaction (.replicate 1) with amount := 220 }

/-- One pass of the command, in which Alice claims once the vault is funded. -/
def claimedWhileFunding : List (Input FundReply (FundEvent sampleEnv) Unit) :=
  [.start (), .call 0 .found, .call 0 .found, .call 0 (.blockhash (.replicate 1)),
   .call 0 .found, .event (.execute capTransaction), .event (.transaction (aliceClaims 55)),
   .call 0 .found]

/-- The configuration that these steps end in. -/
def sampleFundedSeason : FundConfiguration :=
  ((fundFolderSystem sampleEnv folderFind sampleEnv.associatedTokenAddress sampleCliArgs
    sampleFunding.wallet sampleFunding.listing).machine.play
      (fundingStarts poorFounding.outcome.bank) claimedWhileFunding).2

end Sample

end Airdrop
