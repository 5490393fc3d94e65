/-
Module: Airdrop.Proofs.MassSend
Purpose: When the command that pays a list of addresses, run any number of times with the
  same list, submits at most one transfer to each of them.
Trusted boundary: none
Main exports: ErrorsUnsent, Cached, FromPlan, MassSent, batchLoop_keeps,
  massSendRuns_keeps, massSend_once_iff
-/
import Airdrop.Proofs.Resend

namespace Airdrop

open Checked Transition Interference LastWins

/-! ## What is submitted -/

/-- The transactions that were submitted. -/
def SendWorld.submitted (world : SendWorld) : List SendTransaction :=
  world.mempool.submitted

/-- How many of the transfers that were submitted go to one wallet. -/
def SendWorld.targeted (world : SendWorld) (wallet : Pubkey) : Nat :=
  (world.submitted.map fun transaction =>
    (transaction.payments.map BatchPayment.wallet).count wallet).sum

/-- A call that reports an error has submitted nothing. -/
def ErrorsUnsent (_ : SendWorld) : SendCall → SendReply → Prop
  | .sendTransaction _, reply => reply ≠ .failed true
  | _, _ => True

instance (world : SendWorld) :
    (call : SendCall) → (reply : SendReply) → Decidable (ErrorsUnsent world call reply)
  | .sendTransaction _, reply => inferInstanceAs (Decidable (reply ≠ .failed true))
  | .signatureStatus _, _ => inferInstanceAs (Decidable True)
  | .readCache, _ => inferInstanceAs (Decidable True)
  | .writeCache _, _ => inferInstanceAs (Decidable True)
  | .iterateAddresses _, _ => inferInstanceAs (Decidable True)
  | .iterateSignatures _, _ => inferInstanceAs (Decidable True)
  | .accountData _, _ => inferInstanceAs (Decidable True)
  | .latestBlockhash, _ => inferInstanceAs (Decidable True)

/-- Each address that was sent to is in the cache, with the transaction that pays it. -/
def Cached (texts : Texts) (world : SendWorld) : Prop :=
  ∀ transaction ∈ world.submitted, ∀ wallet, Pays transaction wallet →
    world.cache.lookup (texts.pubkeyText wallet) = some transaction

/-- The batches that a run plans with this cache. -/
def planned (massSendArgs : MassSendArgs) (cache : SentAddresses) : List (List String) :=
  wrapBatchAddresses cache massSendArgs.maxAddressPerTx.toNat massSendArgs.addresses []

/-- The entries of the list that are not in the cache. -/
def uncached (massSendArgs : MassSendArgs) (cache : SentAddresses) : List String :=
  massSendArgs.addresses.filter fun address => (cache.lookup address).isNone

/-- The first cache holds no address that the second one does not hold. -/
def CacheGrows (before after : SentAddresses) : Prop :=
  ∀ address, (before.lookup address).isSome → (after.lookup address).isSome

/-- The transaction pays the keys of a batch that was planned with an earlier cache, and the
cache of now holds no entry of the batch. -/
def FromPlan (texts : Texts) (massSendArgs : MassSendArgs) (world : SendWorld)
    (transaction : SendTransaction) : Prop :=
  ∃ loaded batchAddress, CacheGrows loaded world.cache ∧
    batchAddress ∈ planned massSendArgs loaded ∧
    transaction.payments.map BatchPayment.wallet = batchAddress.filterMap texts.parsePubkey ∧
    ∀ address ∈ batchAddress, world.cache.lookup address = none

/-- What holds whenever the command is run: a wallet is the target of one transfer at most;
a run that starts here plans the entries that are not in the cache, each once and in their
order, in batches that are not empty and not too long; what is submitted next is such a
batch, after all earlier ones were entered in the cache; and so is the last one in the
end. -/
structure MassSent (texts : Texts) (massSendArgs : MassSendArgs)
    (configuration : Configuration SendWorld SendCall SendCall.Answer Unit) : Prop where
  once : ∀ wallet, configuration.world.targeted wallet ≤ 1
  exact : (planned massSendArgs configuration.world.cache).flatten =
    uncached massSendArgs configuration.world.cache
  distinct : (planned massSendArgs configuration.world.cache).flatten.Nodup
  sized : ∀ batchAddress ∈ planned massSendArgs configuration.world.cache,
    batchAddress ≠ [] ∧ batchAddress.length ≤ max 1 massSendArgs.maxAddressPerTx.toNat
  fresh : ∀ input after, input.Allowed ErrorsUnsent (fun _ _ => True) configuration →
    sendSystem.step configuration input = .ok after →
    ∀ transaction ∈ after.world.submitted, transaction ∉ configuration.world.submitted →
      FromPlan texts massSendArgs configuration.world transaction ∧
        Cached texts configuration.world
  cached : .done () ∈ configuration.programs → Cached texts configuration.world

/-! ## The batches -/

section Plan

variable {sentAddresses : SentAddresses} {number : Nat} {massSendArgs : MassSendArgs}

theorem planned_flatten (massSendArgs : MassSendArgs) (cache : SentAddresses) :
    (planned massSendArgs cache).flatten = uncached massSendArgs cache :=
  flatten_wrapBatchAddresses _ []

/-- The batch that is being filled is shorter than a full one. -/
theorem wrapBatchAddresses_sized (addresses batchAddresses : List String)
    (filling : batchAddresses.length < max 1 number) :
    ∀ batchAddress ∈ wrapBatchAddresses sentAddresses number addresses batchAddresses,
      batchAddress ≠ [] ∧ batchAddress.length ≤ max 1 number := by
  induction addresses generalizing batchAddresses with
  | nil =>
      intro batchAddress member
      rw [wrapBatchAddresses] at member
      split at member
      case isTrue some =>
        rw [List.mem_singleton.mp member]
        exact ⟨List.ne_nil_of_length_pos some, Nat.le_of_lt filling⟩
      case isFalse => cases member
  | cons address addresses inductionHypothesis =>
      rw [wrapBatchAddresses]
      split
      case isTrue => exact inductionHypothesis batchAddresses filling
      case isFalse =>
        have longer : (batchAddresses ++ [address]).length = batchAddresses.length + 1 :=
          List.length_append
        dsimp only
        split
        case isTrue full =>
          intro batchAddress member
          rcases List.mem_cons.mp member with rfl | later
          · exact ⟨List.append_ne_nil_of_right_ne_nil _ (List.cons_ne_nil _ _),
              longer ▸ filling⟩
          · exact inductionHypothesis [] (lt_max_iff.mpr (.inl Nat.one_pos)) batchAddress
              later
        case isFalse notFull =>
          apply inductionHypothesis
          exact lt_max_iff.mpr (.inr (Nat.lt_of_not_le notFull))

theorem planned_sized (massSendArgs : MassSendArgs) (cache : SentAddresses) :
    ∀ batchAddress ∈ planned massSendArgs cache,
      batchAddress ≠ [] ∧ batchAddress.length ≤ max 1 massSendArgs.maxAddressPerTx.toNat :=
  wrapBatchAddresses_sized _ [] (lt_max_iff.mpr (.inl Nat.one_pos))

/-- With more addresses in the cache fewer are planned. -/
theorem uncached_sublist {before after : SentAddresses} (grows : CacheGrows before after) :
    (uncached massSendArgs after).Sublist (uncached massSendArgs before) := by
  apply List.monotone_filter_right
  intro address unknown
  cases held : before.lookup address with
  | none => rfl
  | some signature =>
      have known := grows address (by rw [held]; rfl)
      rw [Option.isNone_iff_eq_none.mp unknown] at known
      cases known

end Plan

/-! ## What happens between two calls -/

/-- While the command waits for an answer, nobody else writes the cache or submits
anything. -/
structure Undisturbed (before after : SendWorld) : Prop where
  cache : after.cache = before.cache
  submitted : after.submitted.Perm before.submitted

theorem Undisturbed.refl (world : SendWorld) : Undisturbed world world :=
  ⟨rfl, .refl _⟩

theorem Undisturbed.trans {one two three : SendWorld} (first : Undisturbed one two)
    (second : Undisturbed two three) : Undisturbed one three :=
  ⟨second.cache.trans first.cache, second.submitted.trans first.submitted⟩

theorem Cached.after {texts : Texts} {before after : SendWorld}
    (cached : Cached texts before) (undisturbed : Undisturbed before after) :
    Cached texts after := by
  intro transaction sent wallet pays
  rw [undisturbed.cache]
  exact cached transaction (undisturbed.submitted.subset sent) wallet pays

theorem SendWorld.submitted_submit (world : SendWorld) (transaction : SendTransaction) :
    (world.submit transaction).submitted =
      if transaction ∈ world.submitted then world.submitted
      else transaction :: world.submitted :=
  Mempool.submitted_submit

theorem SendWorld.mem_submitted_submit {world : SendWorld}
    {transaction other : SendTransaction}
    (sent : other ∈ (world.submit transaction).submitted) :
    other = transaction ∨ other ∈ world.submitted := by
  rw [world.submitted_submit] at sent
  split at sent
  · exact .inr sent
  · exact List.mem_cons.mp sent

/-- What one call of the command makes of the world: it writes a cache that holds no less,
or it submits a batch. -/
inductive MassStep (texts : Texts) (massSendArgs : MassSendArgs) (world : SendWorld) :
    SendWorld → Prop where
  | none : MassStep texts massSendArgs world world
  | wrote {sentAddresses : SentAddresses} (kept : CacheGrows world.cache sentAddresses) :
      MassStep texts massSendArgs world { world with cache := sentAddresses }
  | sent {transaction : SendTransaction} (cached : Cached texts world)
      (plan : FromPlan texts massSendArgs world transaction)
      (once : (transaction.payments.map BatchPayment.wallet).Nodup) :
      MassStep texts massSendArgs world (world.submit transaction)

/-- A wallet is the target of one transfer at most, and the cache only grows. -/
structure MassGood (cache : SentAddresses) (world : SendWorld) : Prop where
  once : ∀ wallet, world.targeted wallet ≤ 1
  grows : CacheGrows cache world.cache

section Steps

variable {texts : Texts} {massSendArgs : MassSendArgs} {cache : SentAddresses}
variable {world left : SendWorld}

/-- A batch pays nobody who was paid before. -/
theorem FromPlan.unpaid {transaction : SendTransaction} (cached : Cached texts world)
    (plan : FromPlan texts massSendArgs world transaction) {wallet : Pubkey}
    (pays : Pays transaction wallet) :
    ∀ other ∈ world.submitted, ¬ Pays other wallet := by
  obtain ⟨loaded, batchAddress, _, _, wallets, unknown⟩ := plan
  intro other sent paid
  rw [Pays, wallets] at pays
  rcases List.mem_filterMap.mp pays with ⟨address, among, parsed⟩
  have known := cached other sent wallet paid
  rw [Texts.text_of_parse parsed, unknown address among] at known
  cases known

theorem MassGood.step (good : MassGood cache world)
    (step : MassStep texts massSendArgs world left) : MassGood cache left := by
  cases step with
  | none => exact good
  | wrote kept => exact ⟨good.once, fun address held => kept address (good.grows address held)⟩
  | @sent transaction cached plan once =>
      refine ⟨?_, good.grows⟩
      intro wallet
      rw [SendWorld.targeted, world.submitted_submit]
      split
      case isTrue => exact good.once wallet
      case isFalse =>
        rw [List.map_cons, List.sum_cons]
        by_cases pays : Pays transaction wallet
        · have before : world.targeted wallet = 0 := by
            apply List.sum_eq_zero_iff_forall_eq_nat.mpr
            intro count member
            rcases List.mem_map.mp member with ⟨other, sent, rfl⟩
            exact List.count_eq_zero.mpr (plan.unpaid cached pays other sent)
          have now := List.nodup_iff_count_le_one.mp once wallet
          exact (congrArg _ before).trans_le now
        · rw [List.count_eq_zero.mpr pays, Nat.zero_add]
          exact good.once wallet

theorem change_undisturbed {event : SendEvent} (changed : world.change event = some left) :
    Undisturbed world left := by
  obtain ⟨mempool, settled, same⟩ := Option.bind_eq_some_iff.mp changed
  cases same
  exact ⟨rfl, Mempool.submitted_settle settled⟩

theorem MassGood.undisturbed (good : MassGood cache world)
    (undisturbed : Undisturbed world left) : MassGood cache left := by
  constructor
  · intro wallet
    rw [SendWorld.targeted, (undisturbed.submitted.map _).sum_eq]
    exact good.once wallet
  · rw [undisturbed.cache]
    exact good.grows

end Steps

/-! ## What the command keeps -/

section Keeping

variable {texts : Texts} {associatedTokenAddress : Pubkey → Pubkey → Pubkey}
variable {args : CliArgs} {wallet : WalletArgs} {massSendArgs : MassSendArgs}
variable {cache : SentAddresses}

variable (texts massSendArgs cache) in
/-- The program takes such steps only, as long as errors mean that nothing was submitted. -/
abbrev MassKeeps {Result : Type} (Ensures : Result → SendWorld → Prop)
    (program : SendProgram Result) (world : SendWorld) : Prop :=
  Keeps SendWorld.answer
    (fun found call reply => MassGood cache found ∧ ErrorsUnsent found call reply)
    Undisturbed (MassStep texts massSendArgs) Ensures program world

/-- How a batch is sent: if it is, the signature stands for the only new transaction. -/
def BatchSent (texts : Texts) (batchAddress : List String) (before : SendWorld) :
    Except (Stop String) (Signature × List String) → SendWorld → Prop
  | .ok (signature, qualified), left =>
      left.cache = before.cache ∧
      signature.payments.map BatchPayment.wallet =
        batchAddress.filterMap texts.parsePubkey ∧
      qualified = batchAddress.filter (fun address => (texts.parsePubkey address).isSome) ∧
      ∀ transaction ∈ left.submitted,
        transaction = signature ∨ transaction ∈ before.submitted
  | .error _, left => Undisturbed before left

/-- A batch that was planned, and of which nothing is in the cache, is sent. -/
theorem plannedBatch_keeps {amount : U64} {loaded : SentAddresses}
    {batchAddress : List String} {world : SendWorld} (cached : Cached texts world)
    (grows : CacheGrows loaded world.cache)
    (member : batchAddress ∈ planned massSendArgs loaded) (distinct : batchAddress.Nodup)
    (unknown : ∀ address ∈ batchAddress, world.cache.lookup address = none) :
    MassKeeps texts massSendArgs cache (BatchSent texts batchAddress world)
      (sendForBatchAddress texts associatedTokenAddress args wallet amount batchAddress)
      world := by
  refine Keeps.weaken ?_ (sendForBatchAddress_exact Undisturbed.refl Undisturbed.trans
    (fun _ => .none) ?_)
  · intro result left outcome
    cases result with
    | ok done =>
        obtain ⟨⟨ready, undisturbed, rfl⟩, wallets, texts_of⟩ := outcome
        refine ⟨undisturbed.cache, wallets, texts_of, ?_⟩
        intro other sent
        rcases SendWorld.mem_submitted_submit sent with same | earlier
        · exact .inl same
        · exact .inr (undisturbed.submitted.subset earlier)
    | error stop =>
        rcases outcome with undisturbed | ⟨ready, transaction, _, _, _, allowed⟩
        · exact undisturbed
        · exact absurd rfl allowed.2
  · intro ready transaction undisturbed wallets
    apply MassStep.sent (cached.after undisturbed)
    · refine ⟨loaded, batchAddress, undisturbed.cache ▸ grows, member, wallets, ?_⟩
      rw [undisturbed.cache]
      exact unknown
    · rw [wallets]
      exact distinct.filterMap fun _ _ _ => texts.parse_injective

/-- Once the cache is written, it holds the batch too. -/
theorem Cached.record {batchAddress qualified : List String} {signature : Signature}
    {before ready after : SendWorld} (cached : Cached texts before)
    (unknown : ∀ address ∈ batchAddress, before.cache.lookup address = none)
    (sent : BatchSent texts batchAddress before (.ok (signature, qualified)) ready)
    (undisturbed : Undisturbed ready after) :
    Cached texts { after with
      cache := Airdrop.record before.cache signature qualified } := by
  obtain ⟨_, wallets, rfl, submitted⟩ := sent
  intro transaction isSent wallet pays
  rw [lookup_record]
  rcases submitted transaction (undisturbed.submitted.subset isSent) with rfl | earlier
  · rw [Pays, wallets] at pays
    rcases List.mem_filterMap.mp pays with ⟨address, among, parsed⟩
    rw [Texts.text_of_parse parsed, if_pos]
    exact List.mem_filter.mpr ⟨among, by rw [parsed]; rfl⟩
  · rw [if_neg, cached transaction earlier wallet pays]
    intro qualifies
    have known := cached transaction earlier wallet pays
    rw [unknown _ (List.mem_filter.mp qualifies).1] at known
    cases known

/-- The rest of the batches that were planned, none of whose entries is in the cache. -/
theorem batchLoop_keeps {amount : U64} {loaded : SentAddresses}
    (batches : List (List String)) (world : SendWorld) (cached : Cached texts world)
    (grows : CacheGrows loaded world.cache)
    (members : ∀ batchAddress ∈ batches, batchAddress ∈ planned massSendArgs loaded)
    (distinct : batches.flatten.Nodup)
    (unknown : ∀ address ∈ batches.flatten, world.cache.lookup address = none) :
    MassKeeps texts massSendArgs cache (fun _ left => Cached texts left)
      (massSendLoop texts associatedTokenAddress args wallet amount batches world.cache)
      world := by
  induction batches generalizing world with
  | nil => exact cached
  | cons batchAddress batches inductionHypothesis =>
      rw [List.forall_mem_cons] at members
      rw [List.flatten_cons] at distinct unknown
      rw [List.forall_mem_append] at unknown
      obtain ⟨alone, rest, apart⟩ := List.nodup_append.mp distinct
      rw [massSendLoop]
      apply Keeps.bind
      refine Keeps.weaken ?_ (plannedBatch_keeps cached grows members.1 alone unknown.1)
      intro result ready sent
      cases result with
      | error stop =>
          have sinceThen : Undisturbed world ready := sent
          cases stop with
          | panic => exact cached.after sinceThen
          | err message =>
              rw [← sinceThen.cache]
              apply inductionHypothesis ready (cached.after sinceThen) _ members.2 rest
              · rw [sinceThen.cache]
                exact unknown.2
              · rw [sinceThen.cache]
                exact grows
      | ok done =>
          obtain ⟨signature, qualified⟩ := done
          intro found change reply answer left allowed answered
          obtain rfl := SendWorld.answer_writeCache answered
          have kept : CacheGrows world.cache (record world.cache signature qualified) :=
            fun _ held => record_kept held
          constructor
          · apply MassStep.wrote
            rw [change.cache, sent.1]
            exact kept
          · apply inductionHypothesis
              { found with cache := record world.cache signature qualified }
              (cached.record unknown.1 sent change) _ members.2 rest
            · intro address among
              rw [lookup_record, if_neg]
              · exact unknown.2 address among
              · intro qualifies
                rw [sent.2.2.1] at qualifies
                exact apart address (List.mem_filter.mp qualifies).1 address among rfl
            · exact fun address held => kept address (grows address held)

theorem processMassSend_exact (fresh : (uncached massSendArgs cache).Nodup)
    {world : SendWorld} (cached : Cached texts world) :
    MassKeeps texts massSendArgs cache (fun _ left => Cached texts left)
      (processMassSend texts associatedTokenAddress args wallet massSendArgs) world := by
  intro found change reply answer left allowed answered
  obtain ⟨rfl, rfl⟩ := SendWorld.answer_readCache answered
  refine ⟨.none, ?_⟩
  have entries := planned_flatten massSendArgs left.cache
  apply batchLoop_keeps _ left (cached.after change) (fun _ held => held)
    fun _ member => member
  · exact entries ▸ fresh.sublist (uncached_sublist allowed.1.grows)
  · intro address among
    have among : address ∈ uncached massSendArgs left.cache := entries ▸ among
    exact Option.isNone_iff_eq_none.mp (List.mem_filter.mp among).2

theorem massSendRuns_keeps (fresh : (uncached massSendArgs cache).Nodup) (count : Nat)
    (world : SendWorld) (cached : Cached texts world) :
    MassKeeps texts massSendArgs cache (fun _ left => Cached texts left)
      (massSendRuns texts associatedTokenAddress args wallet massSendArgs count) world := by
  induction count generalizing world with
  | zero => exact cached
  | succ count inductionHypothesis =>
      apply Keeps.bind
      refine Keeps.weaken ?_ (processMassSend_exact fresh cached)
      intro _ left cached
      exact inductionHypothesis left cached

end Keeping

/-! ## Runs -/

/-- The premises of the rule for runs. -/
theorem massSend_sound (texts : Texts) (massSendArgs : MassSendArgs)
    (cache : SentAddresses) :
    Sound sendSystem ErrorsUnsent (fun _ _ => True) Undisturbed
      (MassStep texts massSendArgs) (fun _ left => Cached texts left)
      (MassGood cache) where
  refl := .refl
  trans := Undisturbed.trans
  stable := Cached.after
  tolerant := .inr nofun
  started := nofun
  changed := fun _ _ changed => change_undisturbed changed
  called := fun good step => good.step step
  permitted := fun good _ changed => good.undisturbed (change_undisturbed changed)

section Runs

variable {texts : Texts} {associatedTokenAddress : Pubkey → Pubkey → Pubkey}
variable {args : CliArgs} {wallet : WalletArgs} {cache : SentAddresses}
variable {massSendArgs : MassSendArgs}

theorem massSend_invariant (fresh : (uncached massSendArgs cache).Nodup) (count : Nat) :
    Invariant sendSystem ErrorsUnsent Undisturbed (MassStep texts massSendArgs)
      (fun _ left => Cached texts left) (MassGood cache)
      (sendingStarts cache (massSendRuns texts associatedTokenAddress args wallet
        massSendArgs count)) := by
  apply Invariant.single rfl
  · exact ⟨fun _ => Nat.zero_le 1, fun _ held => held⟩
  · exact massSendRuns_keeps fresh count _ nofun

/-- A step that submits a transaction submits a batch that was planned. -/
theorem newTransaction_fromPlan
    {configuration after : Configuration SendWorld SendCall SendCall.Answer Unit}
    {input : Input SendReply SendEvent Empty}
    (invariant : Invariant sendSystem ErrorsUnsent Undisturbed (MassStep texts massSendArgs)
      (fun _ left => Cached texts left) (MassGood cache) configuration)
    (allowed : input.Allowed ErrorsUnsent (fun _ _ => True) configuration)
    (accepted : sendSystem.step configuration input = .ok after)
    {transaction : SendTransaction} (sent : transaction ∈ after.world.submitted)
    (new : transaction ∉ configuration.world.submitted) :
    FromPlan texts massSendArgs configuration.world transaction ∧
      Cached texts configuration.world := by
  cases sendSystem.step_cases accepted with
  | started admitted => cases admitted
  | called current answered =>
      have moved := (massSend_sound texts massSendArgs cache).moved invariant allowed current
        answered
      cases moved.1 with
      | none => exact absurd sent new
      | wrote kept => exact absurd sent new
      | sent cached plan once =>
          rcases SendWorld.mem_submitted_submit sent with rfl | earlier
          · exact ⟨plan, cached⟩
          · exact absurd earlier new
  | changed changed =>
      exact absurd ((change_undisturbed changed).submitted.subset sent) new

end Runs

/-- However often the command is run with the same list, it keeps all this in every run
exactly where the entries of the list that the first cache does not hold are distinct: the
command looks into the cache that it loaded, and not at the entries before. -/
theorem massSend_once_iff (texts : Texts)
    (associatedTokenAddress : Pubkey → Pubkey → Pubkey) (args : CliArgs)
    (wallet : WalletArgs) (cache : SentAddresses) (massSendArgs : MassSendArgs)
    (count : Nat) :
    (∀ (history : SendHistory)
        (configuration : Configuration SendWorld SendCall SendCall.Answer Unit),
      Run sendSystem.machine
        (sendingStarts cache (massSendRuns texts associatedTokenAddress args wallet
          massSendArgs count)) history configuration →
      (∀ entry ∈ history,
        entry.input.Allowed ErrorsUnsent (fun _ _ => True) entry.before) →
      MassSent texts massSendArgs configuration) ↔
    (uncached massSendArgs cache).Nodup := by
  constructor
  · intro always
    have start := always [] _ .start nofun
    have distinct := start.distinct
    rw [start.exact] at distinct
    exact distinct
  · intro fresh history configuration run condition
    have reached := (massSend_sound texts massSendArgs cache).run
      (massSend_invariant fresh count) run condition
    have entries := planned_flatten massSendArgs configuration.world.cache
    constructor
    · exact reached.good.once
    · exact entries
    · exact entries ▸ fresh.sublist (uncached_sublist reached.good.grows)
    · exact planned_sized massSendArgs configuration.world.cache
    · intro input after allowed accepted transaction sent new
      exact newTransaction_fromPlan reached allowed accepted sent new
    · intro done
      exact reached.keeps _ done

section Sample

/-- The list names one address twice, and each transaction pays one address. -/
def repeatedList : MassSendArgs :=
  { addresses := [Base58.encode alice, Base58.encode alice]
    maxAddressPerTx := 1
    amount := 100 }

/-- Both batches are sent, and entered in the cache. -/
def bothBatches : List (Input SendReply SendEvent Empty) :=
  .call 0 .found :: sampleBatch (.replicate 1) ++ sampleBatch (.replicate 2)

/-- The configuration in which the second batch was sent. -/
def repeatedListSent : Configuration SendWorld SendCall SendCall.Answer Unit :=
  (sendSystem.machine.play
    (sendingStarts ∅ (massSendRuns base58Texts sampleEnv.associatedTokenAddress sampleCliArgs
      { keypair := sampleAdmin, priorityFee := none } repeatedList 1)) bothBatches).2

/-- The address is paid twice by a single run. -/
theorem repeated_address_paid_twice :
    ∃ history configuration,
      Run sendSystem.machine
        (sendingStarts ∅ (massSendRuns base58Texts sampleEnv.associatedTokenAddress
          sampleCliArgs { keypair := sampleAdmin, priorityFee := none } repeatedList 1))
        history configuration ∧
      (∀ entry ∈ history,
        entry.input.Allowed ErrorsUnsent (fun _ _ => True) entry.before) ∧
      configuration.world.targeted alice = 2 :=
  ⟨_, repeatedListSent, Run.play _ _ _, by decide +kernel, by decide +kernel⟩

end Sample

end Airdrop
