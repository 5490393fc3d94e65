/-
Module: Airdrop.Proofs.Resend
Purpose: When the commands that pay a list of addresses, and pay again what failed, pay no
  address twice, however the transactions are settled; and that the cache file keeps every
  address.
Trusted boundary: none
Main exports: SettledBefore, Recorded, SendStep, SendGood, sendForBatchAddress_exact,
  sendForBatchAddress_keeps, processMassSend_keeps, processResend_keeps, paid_once
-/
import Airdrop.Cli.Send
import Airdrop.Proofs.KvExport

namespace Airdrop

open Checked Transition Interference LastWins

/-! ## The condition -/

/-- A query that is answered with nothing asks for a transaction that is not in flight any
more; and no call that pays an address which the cache holds already, as those of
`process_resend` do, reports an error for a transaction that it submitted. -/
def SettledBefore (texts : Texts) (world : SendWorld) : SendCall → SendReply → Prop
  | .signatureStatus signature, .found =>
      world.status signature = none → signature ∉ world.mempool.inFlight
  | .sendTransaction transaction, .failed true =>
      ∀ payment ∈ transaction.payments,
        world.cache.lookup (texts.pubkeyText payment.wallet) = none
  | _, _ => True

instance (texts : Texts) (world : SendWorld) : (call : SendCall) → (reply : SendReply) →
    Decidable (SettledBefore texts world call reply)
  | .signatureStatus signature, .found => inferInstanceAs (Decidable
      (world.status signature = none → signature ∉ world.mempool.inFlight))
  | .sendTransaction transaction, .failed true => inferInstanceAs (Decidable
      (∀ payment ∈ transaction.payments,
        world.cache.lookup (texts.pubkeyText payment.wallet) = none))
  | .signatureStatus _, .addresses _ => inferInstanceAs (Decidable True)
  | .signatureStatus _, .signatures _ => inferInstanceAs (Decidable True)
  | .signatureStatus _, .blockhash _ => inferInstanceAs (Decidable True)
  | .signatureStatus _, .failed _ => inferInstanceAs (Decidable True)
  | .sendTransaction _, .found => inferInstanceAs (Decidable True)
  | .sendTransaction _, .addresses _ => inferInstanceAs (Decidable True)
  | .sendTransaction _, .signatures _ => inferInstanceAs (Decidable True)
  | .sendTransaction _, .blockhash _ => inferInstanceAs (Decidable True)
  | .sendTransaction _, .failed false => inferInstanceAs (Decidable True)
  | .readCache, _ => inferInstanceAs (Decidable True)
  | .writeCache _, _ => inferInstanceAs (Decidable True)
  | .iterateAddresses _, _ => inferInstanceAs (Decidable True)
  | .iterateSignatures _, _ => inferInstanceAs (Decidable True)
  | .accountData _, _ => inferInstanceAs (Decidable True)
  | .latestBlockhash, _ => inferInstanceAs (Decidable True)

/-! ## Batches and groups -/

section Lists

variable {sentAddresses : SentAddresses} {number : Nat}

/-- The batches hold the addresses that are not in the cache, in their order. -/
theorem flatten_wrapBatchAddresses (addresses batchAddresses : List String) :
    (wrapBatchAddresses sentAddresses number addresses batchAddresses).flatten =
      batchAddresses ++ addresses.filter fun address =>
        (sentAddresses.lookup address).isNone := by
  induction addresses generalizing batchAddresses with
  | nil =>
      rw [wrapBatchAddresses]
      cases batchAddresses <;> simp
  | cons address addresses inductionHypothesis =>
      rw [wrapBatchAddresses]
      cases sent : sentAddresses.lookup address with
      | some signature => simp [sent, inductionHypothesis]
      | none =>
          dsimp only [Option.isSome_none]
          split
          case isTrue => contradiction
          case isFalse =>
            split
            · simp [sent, inductionHypothesis]
            · simp [sent, inductionHypothesis]

theorem lookup_record (signature : Signature) (qualified : List String)
    (address : String) :
    (record sentAddresses signature qualified).lookup address =
      if address ∈ qualified then some signature else sentAddresses.lookup address := by
  rw [record, lookup_insertAll]
  split
  case isTrue among =>
    have listed : address ∈ (qualified.map fun address => (address, signature)).map
        Prod.fst := by
      simpa using among
    obtain ⟨value, found⟩ := Option.ne_none_iff_exists'.mp fun missing =>
      lastValue_eq_none.mp missing listed
    rcases List.mem_map.mp (mem_of_lastValue found) with ⟨_, _, same⟩
    cases same
    rw [found, Option.some_or]
  case isFalse apart =>
    rw [lastValue_eq_none.mpr, Option.none_or]
    simpa using apart

/-- The addresses of the groups, each with the signature of its group. -/
def groupEntries (groups : List (Signature × List String)) : List (String × Signature) :=
  groups.flatMap fun group => group.2.map fun address => (address, group.1)

theorem groupEntries_cons (group : Signature × List String)
    (groups : List (Signature × List String)) :
    groupEntries (group :: groups) =
      group.2.map (fun address => (address, group.1)) ++ groupEntries groups :=
  List.flatMap_cons

/-- An address is added under its own signature, and the others stay where they are. -/
theorem groupEntries_pushAddress (entry : String × Signature)
    (groups : List (Signature × List String)) :
    (groupEntries (pushAddress entry groups)).Perm (entry :: groupEntries groups) := by
  induction groups with
  | nil => exact .refl _
  | cons group groups inductionHypothesis =>
      rw [pushAddress]
      split
      case isTrue same =>
        rw [groupEntries_cons, groupEntries_cons, List.map_append, List.append_assoc, same]
        exact List.perm_middle
      case isFalse =>
        rw [groupEntries_cons, groupEntries_cons]
        exact (inductionHypothesis.append_left _).trans List.perm_middle

/-- Grouping the entries by their signatures keeps each of them. -/
theorem groupEntries_foldl (entries : List (String × Signature))
    (groups : List (Signature × List String)) :
    (groupEntries (entries.foldl (fun groups entry => pushAddress entry groups)
      groups)).Perm (entries ++ groupEntries groups) := by
  induction entries generalizing groups with
  | nil => exact .refl _
  | cons entry entries inductionHypothesis =>
      rw [List.foldl_cons]
      apply (inductionHypothesis _).trans
      apply ((groupEntries_pushAddress entry groups).append_left entries).trans
      exact List.perm_middle

end Lists

/-! ## What holds between two calls -/

/-- The transaction pays the wallet. -/
def Pays (transaction : SendTransaction) (wallet : Pubkey) : Prop :=
  wallet ∈ transaction.payments.map BatchPayment.wallet

/-- The transactions that are in flight or finalised without an error. -/
def SendWorld.live (world : SendWorld) : List SendTransaction :=
  world.mempool.live SendOutcome.succeeded

/-- For a wallet that a transaction pays, or may still pay, the cache names no other one. -/
def Recorded (texts : Texts) (world : SendWorld) : Prop :=
  ∀ transaction ∈ world.live, ∀ wallet, Pays transaction wallet →
    ∀ signature ∈ world.cache.lookup (texts.pubkeyText wallet), signature = transaction

/-- While a command waits for an answer, nobody else writes the cache, and no transaction
starts to pay. -/
structure OnlySettled (before after : SendWorld) : Prop where
  cache : after.cache = before.cache
  live : ∀ transaction ∈ after.live, transaction ∈ before.live

theorem OnlySettled.refl (world : SendWorld) : OnlySettled world world :=
  ⟨rfl, fun _ isLive => isLive⟩

theorem OnlySettled.trans {one two three : SendWorld} (first : OnlySettled one two)
    (second : OnlySettled two three) : OnlySettled one three :=
  ⟨second.cache.trans first.cache, fun transaction isLive =>
    first.live transaction (second.live transaction isLive)⟩

theorem Recorded.after {texts : Texts} {before after : SendWorld}
    (recorded : Recorded texts before) (settled : OnlySettled before after) :
    Recorded texts after := by
  intro transaction isLive wallet pays
  rw [settled.cache]
  exact recorded transaction (settled.live transaction isLive) wallet pays

/-- The new transactions of a step pay nobody whom another one pays or may still pay, if
the commands are run with care; and the cache keeps every address. -/
inductive SendStep (careful : Prop) (world : SendWorld) : SendWorld → Prop where
  | none : SendStep careful world world
  | wrote {sentAddresses : SentAddresses}
      (kept : ∀ address, (world.cache.lookup address).isSome →
        (sentAddresses.lookup address).isSome) :
      SendStep careful world { world with cache := sentAddresses }
  | sent {transaction : SendTransaction}
      (free : careful → (transaction.payments.map BatchPayment.wallet).Nodup ∧
        ∀ wallet, Pays transaction wallet → ∀ other ∈ world.live, ¬ Pays other wallet) :
      SendStep careful world (world.submit transaction)

/-- Each wallet is paid by one transaction at most, and by that one once. -/
structure SendGood (careful : Prop) (world : SendWorld) : Prop where
  exclusive : careful → ∀ wallet,
    world.mempool.Exclusive SendOutcome.succeeded (Pays · wallet)
  once : careful → ∀ transaction ∈ world.live,
    (transaction.payments.map BatchPayment.wallet).Nodup

section Steps

variable {careful : Prop} {world left : SendWorld}

theorem SendGood.step (good : SendGood careful world)
    (step : SendStep careful world left) : SendGood careful left := by
  cases step with
  | none => exact good
  | wrote kept => exact ⟨good.exclusive, good.once⟩
  | @sent transaction free =>
      constructor
      · intro isCareful wallet
        apply (good.exclusive isCareful wallet).submit
        intro pays other isLive
        exact (free isCareful).2 wallet pays other isLive
      · intro isCareful other isLive
        rcases Mempool.mem_live_submit isLive with rfl | isLive
        · exact (free isCareful).1
        · exact good.once isCareful other isLive

theorem change_onlySettled {event : SendEvent}
    (changed : world.change event = some left) : OnlySettled world left := by
  obtain ⟨mempool, settled, same⟩ := Option.bind_eq_some_iff.mp changed
  cases same
  exact ⟨rfl, fun _ isLive => Mempool.mem_live_settle settled isLive⟩

theorem SendGood.change {event : SendEvent} (good : SendGood careful world)
    (changed : world.change event = some left) : SendGood careful left := by
  have settling := change_onlySettled changed
  obtain ⟨mempool, settled, same⟩ := Option.bind_eq_some_iff.mp changed
  cases same
  constructor
  · intro isCareful wallet
    exact (good.exclusive isCareful wallet).settle settled
  · intro isCareful transaction isLive
    exact good.once isCareful transaction (settling.live transaction isLive)

end Steps

/-! ## Answers -/

namespace SendWorld

variable {world left : SendWorld} {reply : SendReply}

theorem answer_accountData {address : Pubkey}
    {answer : Except Unit Unit}
    (answered : world.answer (.accountData address) reply = some (answer, left)) :
    left = world := by
  cases reply with
  | found =>
      cases answered
      rfl
  | failed submitted =>
      cases answered
      rfl
  | _ => simp [SendWorld.answer] at answered

theorem answer_latestBlockhash {answer : Except Unit Hash}
    (answered : world.answer .latestBlockhash reply = some (answer, left)) :
    left = world := by
  cases reply with
  | blockhash blockhash =>
      cases answered
      rfl
  | failed submitted =>
      cases answered
      rfl
  | _ => simp [SendWorld.answer] at answered

theorem answer_sendTransaction {transaction : SendTransaction}
    {answer : Except Unit Signature}
    (answered : world.answer (.sendTransaction transaction) reply = some (answer, left)) :
    (left = world ∧ answer = .error ()) ∨ left = world.submit transaction ∧
      (answer = .ok transaction ∨ answer = .error () ∧ reply = .failed true) := by
  cases reply with
  | found =>
      cases answered
      exact .inr ⟨rfl, .inl rfl⟩
  | failed submitted =>
      cases submitted with
      | false =>
          cases answered
          exact .inl ⟨rfl, rfl⟩
      | true =>
          cases answered
          exact .inr ⟨rfl, .inr ⟨rfl, rfl⟩⟩
  | _ => simp [SendWorld.answer] at answered

theorem answer_readCache {answer : SentAddresses}
    (answered : world.answer .readCache reply = some (answer, left)) :
    left = world ∧ answer = world.cache := by
  cases reply with
  | found =>
      cases answered
      exact ⟨rfl, rfl⟩
  | _ => simp [SendWorld.answer] at answered

theorem answer_writeCache {sentAddresses : SentAddresses} {answer : Unit}
    (answered : world.answer (.writeCache sentAddresses) reply = some (answer, left)) :
    left = { world with cache := sentAddresses } := by
  cases reply with
  | found =>
      cases answered
      rfl
  | _ => simp [SendWorld.answer] at answered

theorem answer_iterateAddresses {entries answer : List (String × Signature)}
    (answered : world.answer (.iterateAddresses entries) reply = some (answer, left)) :
    left = world ∧ answer.Perm entries := by
  cases reply with
  | addresses order =>
      rw [SendWorld.answer] at answered
      split at answered
      · cases answered
        exact ⟨rfl, by assumption⟩
      · cases answered
  | _ => simp [SendWorld.answer] at answered

theorem answer_iterateSignatures {entries answer : List (Signature × List String)}
    (answered : world.answer (.iterateSignatures entries) reply = some (answer, left)) :
    left = world ∧ answer.Perm entries := by
  cases reply with
  | signatures order =>
      rw [SendWorld.answer] at answered
      split at answered
      · cases answered
        exact ⟨rfl, by assumption⟩
      · cases answered
  | _ => simp [SendWorld.answer] at answered

/-- A transaction whose status asks for another one, and that is not in flight where it says
nothing, does not pay any more. -/
theorem answer_signatureStatus {texts : Texts} {signature : Signature}
    {answer : Except Unit (Option (Except Unit Unit))}
    (answered : world.answer (.signatureStatus signature) reply = some (answer, left)) :
    left = world ∧ ∀ value, answer = .ok value → shouldResend value = true →
      SettledBefore texts world (.signatureStatus signature) reply →
        signature ∉ world.live := by
  cases reply with
  | found =>
      cases answered
      refine ⟨rfl, ?_⟩
      rintro value ⟨⟩ resend settledBefore
      cases settled : world.mempool.outcome? signature with
      | none =>
          have idle : signature ∉ world.mempool.inFlight :=
            settledBefore (by rw [SendWorld.status, settled])
          apply Mempool.not_mem_live idle
          intro outcome isOutcome
          rw [settled] at isOutcome
          cases isOutcome
      | some outcome =>
          apply Mempool.not_mem_live (Mempool.not_mem_inFlight settled)
          intro other isOutcome
          rw [settled, Option.some.injEq] at isOutcome
          rw [SendWorld.status, settled] at resend
          cases outcome with
          | finalised => cases resend
          | failed => exact isOutcome ▸ rfl
          | expired => exact isOutcome ▸ rfl
  | failed submitted =>
      cases answered
      exact ⟨rfl, nofun⟩
  | _ => simp [SendWorld.answer] at answered

end SendWorld

/-! ## One batch -/

section Batch

variable {Allowed : SendWorld → SendCall → SendReply → Prop}
variable {Rely Guarantee : SendWorld → SendWorld → Prop}
variable {texts : Texts} {associatedTokenAddress : Pubkey → Pubkey → Pubkey}
variable {args : CliArgs} {wallet : WalletArgs}

/-- The calls for the payments change nothing: the keys of the batch are paid, and their
texts qualify. -/
theorem collectPayments_exact (refl : ∀ world, Rely world world)
    (trans : ∀ {one two three}, Rely one two → Rely two three → Rely one three)
    (still : ∀ world, Guarantee world world) (batchAddress : List String)
    (world : SendWorld) :
    Keeps SendWorld.answer Allowed Rely Guarantee
      (fun result left => Rely world left ∧
        result.1.map BatchPayment.wallet = batchAddress.filterMap texts.parsePubkey ∧
        result.2 = batchAddress.filter fun address => (texts.parsePubkey address).isSome)
      (collectPayments texts associatedTokenAddress args batchAddress) world := by
  induction batchAddress generalizing world with
  | nil => exact ⟨refl world, rfl, rfl⟩
  | cons address batchAddress inductionHypothesis =>
      rw [collectPayments]
      split
      case h_1 invalid =>
        refine Keeps.weaken ?_ (inductionHypothesis world)
        rintro result left ⟨relied, wallets, qualified⟩
        refine ⟨relied, ?_, ?_⟩
        · rw [List.filterMap_cons_none invalid, wallets]
        · rw [List.filter_cons_of_neg (by simp [invalid]), qualified]
      case h_2 user parsed =>
        intro found change reply answer left allowed answered
        obtain rfl := SendWorld.answer_accountData answered
        refine ⟨still left, ?_⟩
        change Keeps SendWorld.answer Allowed Rely Guarantee _
          (collectPayments texts associatedTokenAddress args batchAddress >>= _) left
        apply Keeps.bind
        refine Keeps.weaken ?_ (inductionHypothesis left)
        rintro ⟨payments, qualified⟩ last ⟨relied, wallets, texts_of⟩
        refine ⟨trans change relied, ?_, ?_⟩
        · rw [List.filterMap_cons_some parsed, ← wallets]
          rfl
        · rw [List.filter_cons_of_pos (by simp [parsed]), ← texts_of]

variable (Allowed Rely texts) in
/-- How a batch is sent: a transaction that pays its keys is submitted, and named by the
signature unless the call fails all the same; or nothing is submitted. -/
def BatchOutcome (batchAddress : List String) (before : SendWorld) :
    Except (Stop String) (Signature × List String) → SendWorld → Prop
  | .ok (signature, qualified), left =>
      (∃ ready, Rely before ready ∧ left = ready.submit signature) ∧
      signature.payments.map BatchPayment.wallet =
        batchAddress.filterMap texts.parsePubkey ∧
      qualified = batchAddress.filter fun address => (texts.parsePubkey address).isSome
  | .error _, left =>
      Rely before left ∨ ∃ ready transaction, Rely before ready ∧
        left = ready.submit transaction ∧
        transaction.payments.map BatchPayment.wallet =
          batchAddress.filterMap texts.parsePubkey ∧
        Allowed ready (.sendTransaction transaction) (.failed true)

/-- Sending a batch keeps what submitting its transaction keeps. -/
theorem sendForBatchAddress_exact (refl : ∀ world, Rely world world)
    (trans : ∀ {one two three}, Rely one two → Rely two three → Rely one three)
    (still : ∀ world, Guarantee world world) {amount : U64} {batchAddress : List String}
    {world : SendWorld}
    (submits : ∀ ready transaction, Rely world ready →
      transaction.payments.map BatchPayment.wallet =
        batchAddress.filterMap texts.parsePubkey →
      Guarantee ready (ready.submit transaction)) :
    Keeps SendWorld.answer Allowed Rely Guarantee
      (BatchOutcome Allowed Rely texts batchAddress world)
      (sendForBatchAddress texts associatedTokenAddress args wallet amount batchAddress)
      world := by
  rw [sendForBatchAddress]
  apply Keeps.bind
  refine Keeps.weaken ?_ (collectPayments_exact refl trans still batchAddress world)
  rintro ⟨payments, qualified⟩ ready ⟨relied, wallets, texts_of⟩
  intro found change reply answer left allowed answered
  obtain rfl := SendWorld.answer_latestBlockhash answered
  refine ⟨still left, ?_⟩
  have sinceThen := trans relied change
  cases answer with
  | error failure => exact .inl sinceThen
  | ok blockhash =>
      intro found change reply answer left allowed answered
      replace sinceThen := trans sinceThen change
      constructor
      · rcases SendWorld.answer_sendTransaction answered with ⟨rfl, _⟩ | ⟨rfl, _⟩
        · exact still left
        · exact submits found _ sinceThen wallets
      · rcases SendWorld.answer_sendTransaction answered with
          ⟨rfl, rfl⟩ | ⟨rfl, rfl | ⟨rfl, rfl⟩⟩
        · exact .inl sinceThen
        · exact ⟨⟨found, sinceThen, rfl⟩, wallets, texts_of⟩
        · exact .inr ⟨found, _, sinceThen, rfl, wallets, allowed⟩

end Batch

/-! ## What the commands keep -/

section Keeping

variable (texts : Texts) {associatedTokenAddress : Pubkey → Pubkey → Pubkey}
variable {args : CliArgs} {wallet : WalletArgs} (careful : Prop)

/-- The program takes such steps only, as long as others only settle transactions. -/
abbrev SendKeeps {Result : Type} (Ensures : Result → SendWorld → Prop)
    (program : SendProgram Result) (world : SendWorld) : Prop :=
  Keeps SendWorld.answer
    (fun found call reply => SendGood careful found ∧
      (careful → SettledBefore texts found call reply))
    OnlySettled (SendStep careful) Ensures program world

/-- The payments belong to the addresses that are keys, among those of the batch. -/
structure Collected (batchAddress : List String) (payments : List BatchPayment)
    (qualified : List String) : Prop where
  keys : List.Forall₂ (fun payment address =>
    texts.parsePubkey address = some payment.wallet) payments qualified
  among : qualified.Sublist batchAddress

variable {texts careful}

/-- The keys of a batch and their texts are such payments. -/
theorem Collected.of_exact {batchAddress qualified : List String}
    {payments : List BatchPayment}
    (wallets : payments.map BatchPayment.wallet =
      batchAddress.filterMap texts.parsePubkey)
    (texts_of : qualified =
      batchAddress.filter fun address => (texts.parsePubkey address).isSome) :
    Collected texts batchAddress payments qualified := by
  have keys : List.Forall₂ (fun wallet address => texts.parsePubkey address = some wallet)
      (batchAddress.filterMap texts.parsePubkey)
      (batchAddress.filter fun address => (texts.parsePubkey address).isSome) := by
    clear wallets texts_of
    induction batchAddress with
    | nil => exact .nil
    | cons address batchAddress inductionHypothesis =>
        cases parsed : texts.parsePubkey address with
        | none =>
            rw [List.filterMap_cons_none parsed, List.filter_cons_of_neg (by simp [parsed])]
            exact inductionHypothesis
        | some wallet =>
            rw [List.filterMap_cons_some parsed, List.filter_cons_of_pos (by simp [parsed])]
            exact .cons parsed inductionHypothesis
  constructor
  · rw [← wallets, ← texts_of, List.forall₂_map_left_iff] at keys
    exact keys
  · rw [texts_of]
    exact List.filter_sublist

/-- The wallets that are paid have the qualified addresses as their texts. -/
theorem Collected.texts_of_wallets {batchAddress qualified : List String}
    {payments : List BatchPayment}
    (collected : Collected texts batchAddress payments qualified) :
    (payments.map BatchPayment.wallet).map texts.pubkeyText = qualified := by
  have keys := collected.keys
  clear collected
  induction keys with
  | nil => rfl
  | cons parsed keys inductionHypothesis =>
      rw [List.map_cons, List.map_cons, Texts.text_of_parse parsed, inductionHypothesis]

variable (texts) in
/-- No transaction pays, or may still pay, the wallet with this address. -/
def Unpaid (world : SendWorld) (address : String) : Prop :=
  ∀ wallet, texts.parsePubkey address = some wallet →
    ∀ transaction ∈ world.live, ¬ Pays transaction wallet

theorem Unpaid.after {before after : SendWorld} {address : String}
    (unpaid : Unpaid texts before address) (settled : OnlySettled before after) :
    Unpaid texts after address :=
  fun wallet parsed transaction isLive =>
    unpaid wallet parsed transaction (settled.live transaction isLive)

variable (texts) in
/-- The transaction pays keys of the batch, and none that the cache holds. -/
def Unrecorded (batchAddress : List String) (world : SendWorld)
    (transaction : SendTransaction) : Prop :=
  ∀ wallet, Pays transaction wallet →
    (∃ address ∈ batchAddress, texts.parsePubkey address = some wallet) ∧
      world.cache.lookup (texts.pubkeyText wallet) = none

variable (texts careful) in
/-- How a batch is sent: if it is, the signature stands for a transaction that pays the
qualified addresses, and for the only new one.  If there is a new one all the same, it pays
addresses that are not in the cache. -/
def SentBatch (batchAddress : List String) (before : SendWorld) :
    Except (Stop String) (Signature × List String) → SendWorld → Prop
  | .ok (signature, qualified), left =>
      left.cache = before.cache ∧
      Collected texts batchAddress signature.payments qualified ∧
      ∀ transaction ∈ left.live, transaction = signature ∨ transaction ∈ before.live
  | .error _, left =>
      left.cache = before.cache ∧
      (careful → ∀ transaction ∈ left.live, transaction ∈ before.live ∨
        Unrecorded texts batchAddress before transaction)

theorem sendForBatchAddress_keeps {amount : U64} {batchAddress : List String}
    {world : SendWorld}
    (unpaid : careful → batchAddress.Nodup ∧
      ∀ address ∈ batchAddress, Unpaid texts world address) :
    SendKeeps texts careful (SentBatch texts careful batchAddress world)
      (sendForBatchAddress texts associatedTokenAddress args wallet amount batchAddress)
      world := by
  refine Keeps.weaken ?_ (sendForBatchAddress_exact OnlySettled.refl OnlySettled.trans
    (fun _ => .none) ?_)
  · intro result left outcome
    cases result with
    | ok done =>
        obtain ⟨⟨ready, settled, rfl⟩, wallets, texts_of⟩ := outcome
        refine ⟨settled.cache, .of_exact wallets texts_of, ?_⟩
        intro other isLive
        exact (Mempool.mem_live_submit isLive).imp id (settled.live other)
    | error stop =>
        rcases outcome with settled | ⟨ready, transaction, settled, rfl, wallets, allowed⟩
        · exact ⟨settled.cache, fun _ other isLive => .inl (settled.live other isLive)⟩
        · refine ⟨settled.cache, fun isCareful other isLive => ?_⟩
          rcases Mempool.mem_live_submit isLive with rfl | isLive
          · right
            intro wallet pays
            constructor
            · rw [Pays, wallets] at pays
              exact List.mem_filterMap.mp pays
            · rcases List.mem_map.mp pays with ⟨payment, isPayment, rfl⟩
              rw [← settled.cache]
              exact allowed.2 isCareful payment isPayment
          · exact .inl (settled.live other isLive)
  · intro ready transaction settled wallets
    apply SendStep.sent
    intro isCareful
    obtain ⟨distinct, free⟩ := unpaid isCareful
    constructor
    · rw [wallets]
      exact distinct.filterMap fun _ _ _ => texts.parse_injective
    · intro wallet pays other isLive
      rw [Pays, wallets] at pays
      rcases List.mem_filterMap.mp pays with ⟨address, among, parsed⟩
      exact free address among wallet parsed other (settled.live other isLive)

/-- What was sent is recorded: the signature replaces those of transactions that do not pay
any more. -/
theorem Recorded.record {before after : SendWorld} {batchAddress qualified : List String}
    {signature : Signature} (recorded : Recorded texts before)
    (collected : Collected texts batchAddress signature.payments qualified)
    (unpaid : ∀ address ∈ batchAddress, Unpaid texts before address)
    (live : ∀ transaction ∈ after.live,
      transaction = signature ∨ transaction ∈ before.live) :
    Recorded texts { after with
      cache := Airdrop.record before.cache signature qualified } := by
  intro transaction isLive wallet pays named isNamed
  rw [lookup_record] at isNamed
  have texts_of := collected.texts_of_wallets
  rcases live transaction isLive with rfl | wasLive
  · rw [if_pos (texts_of ▸ List.mem_map_of_mem pays)] at isNamed
    exact (Option.some.inj isNamed).symm
  · rw [if_neg] at isNamed
    · exact recorded transaction wasLive wallet pays named isNamed
    · intro among
      exact unpaid _ (collected.among.subset among) wallet (texts.parse_text wallet)
        transaction wasLive pays

/-- The cache keeps what it holds when more is recorded. -/
theorem record_kept {sentAddresses : SentAddresses} {signature : Signature}
    {qualified : List String} {address : String}
    (held : (sentAddresses.lookup address).isSome) :
    ((record sentAddresses signature qualified).lookup address).isSome := by
  rw [lookup_record]
  split
  · rfl
  · exact held

/-- A transaction that the cache holds none of the addresses of need not be named. -/
theorem Recorded.error {before after : SendWorld} {batchAddress : List String}
    {stop : Stop String} (recorded : Recorded texts before) (isCareful : careful)
    (sent : SentBatch texts careful batchAddress before (.error stop) after) :
    Recorded texts after := by
  intro transaction isLive wallet pays named isNamed
  rw [sent.1] at isNamed
  rcases sent.2 isCareful transaction isLive with wasLive | unrecorded
  · exact recorded transaction wasLive wallet pays named isNamed
  · rw [(unrecorded wallet pays).2] at isNamed
    cases isNamed

/-- Nobody pays an address whose last transaction does not pay any more. -/
theorem Recorded.unpaid_of_settled {world : SendWorld} (recorded : Recorded texts world)
    {address : String} {signature : Signature}
    (last : world.cache.lookup address = some signature)
    (settled : signature ∉ world.live) : Unpaid texts world address := by
  intro wallet parsed transaction isLive pays
  have named := recorded transaction isLive wallet pays signature
    (by rw [Texts.text_of_parse parsed, last]; rfl)
  exact settled (named ▸ isLive)

/-- A batch pays no address that it does not have. -/
theorem Unpaid.batch {before after : SendWorld} {batchAddress : List String}
    {address : String} {result : Except (Stop String) (Signature × List String)}
    (unpaid : Unpaid texts before address) (isCareful : careful)
    (sent : SentBatch texts careful batchAddress before result after)
    (elsewhere : address ∉ batchAddress) : Unpaid texts after address := by
  intro wallet parsed transaction isLive pays
  cases result with
  | ok done =>
      rcases sent.2.2 transaction isLive with rfl | wasLive
      · have among := List.mem_map_of_mem (f := texts.pubkeyText) pays
        rw [sent.2.1.texts_of_wallets, Texts.text_of_parse parsed] at among
        exact elsewhere (sent.2.1.among.subset among)
      · exact unpaid wallet parsed transaction wasLive pays
  | error stop =>
      rcases sent.2 isCareful transaction isLive with wasLive | unrecorded
      · exact unpaid wallet parsed transaction wasLive pays
      · obtain ⟨⟨other, among, sameWallet⟩, _⟩ := unrecorded wallet pays
        have same := texts.parse_injective sameWallet parsed
        exact elsewhere (same ▸ among)

/-- After a batch was sent its signature is written to the cache, and the rest goes on from
there. -/
theorem writeCache_keeps {Result : Type} {Ensures : Result → SendWorld → Prop}
    {batchAddress qualified : List String} {signature : Signature}
    {before ready : SendWorld} {next : SendProgram Result}
    (recorded : careful → Recorded texts before)
    (unpaid : careful → ∀ address ∈ batchAddress, Unpaid texts before address)
    (sent : SentBatch texts careful batchAddress before (.ok (signature, qualified)) ready)
    (onward : ∀ left : SendWorld,
      left.cache = Airdrop.record before.cache signature qualified →
      (∀ transaction ∈ left.live, transaction ∈ ready.live) →
      (careful → Recorded texts left) → SendKeeps texts careful Ensures next left) :
    SendKeeps texts careful Ensures
      (Program.ask (SendCall.writeCache (Airdrop.record before.cache signature qualified))
        >>= fun _ => next) ready := by
  obtain ⟨cache, collected, live⟩ := sent
  intro found change reply answer left allowed answered
  obtain rfl := SendWorld.answer_writeCache answered
  constructor
  · apply SendStep.wrote
    intro address held
    rw [change.cache, cache] at held
    exact record_kept held
  · apply onward
    · rfl
    · exact change.live
    · intro isCareful
      apply (recorded isCareful).record collected (unpaid isCareful)
      intro transaction isLive
      exact live transaction (change.live transaction isLive)

/-- The rest of the batches, none of whose addresses is paid so far, is sent. -/
theorem massSendLoop_keeps {amount : U64} (batches : List (List String))
    (world : SendWorld) (recorded : careful → Recorded texts world)
    (fresh : careful → batches.flatten.Nodup ∧
      ∀ address ∈ batches.flatten, Unpaid texts world address) :
    SendKeeps texts careful (fun _ left => careful → Recorded texts left)
      (massSendLoop texts associatedTokenAddress args wallet amount batches world.cache)
      world := by
  induction batches generalizing world with
  | nil => exact recorded
  | cons batchAddress batches inductionHypothesis =>
      have unpaid : careful → ∀ address ∈ batchAddress, Unpaid texts world address := by
        intro isCareful address among
        exact (fresh isCareful).2 address (List.mem_append_left _ among)
      rw [massSendLoop]
      apply Keeps.bind
      refine Keeps.weaken ?_ (sendForBatchAddress_keeps fun isCareful =>
        ⟨(List.nodup_append.mp (fresh isCareful).1).1, unpaid isCareful⟩)
      intro result ready sent
      -- the batches share no address
      have rest : careful → batches.flatten.Nodup ∧
          ∀ address ∈ batches.flatten, Unpaid texts ready address := by
        intro isCareful
        obtain ⟨_, distinct, apart⟩ := List.nodup_append.mp (fresh isCareful).1
        refine ⟨distinct, fun address among => ?_⟩
        apply ((fresh isCareful).2 address (List.mem_append_right _ among)).batch isCareful sent
        exact fun here => apart address here address among rfl
      cases result with
      | error stop =>
          have still : careful → Recorded texts ready := fun isCareful =>
            (recorded isCareful).error isCareful sent
          cases stop with
          | panic => exact still
          | err message =>
              rw [← sent.1]
              exact inductionHypothesis ready still rest
      | ok done =>
          obtain ⟨signature, qualified⟩ := done
          apply writeCache_keeps recorded unpaid sent
          intro left cache live recorded
          rw [← cache]
          apply inductionHypothesis left recorded
          intro isCareful
          refine ⟨(rest isCareful).1, fun address among wallet parsed transaction isLive => ?_⟩
          exact (rest isCareful).2 address among wallet parsed transaction
            (live transaction isLive)

theorem processMassSend_keeps {massSendArgs : MassSendArgs} {world : SendWorld}
    (distinct : massSendArgs.addresses.Nodup)
    (idle : ∀ transaction, transaction ∉ world.live) :
    SendKeeps texts careful (fun _ left => careful → Recorded texts left)
      (processMassSend texts associatedTokenAddress args wallet massSendArgs) world := by
  intro found change reply answer left allowed answered
  obtain ⟨rfl, rfl⟩ := SendWorld.answer_readCache answered
  refine ⟨.none, ?_⟩
  have nothing (transaction : SendTransaction) : transaction ∉ left.live :=
    fun isLive => idle transaction (change.live transaction isLive)
  apply massSendLoop_keeps
  · exact fun _ transaction isLive => absurd isLive (nothing transaction)
  · intro _
    rw [flatten_wrapBatchAddresses, List.nil_append]
    refine ⟨distinct.filter _, ?_⟩
    intro address among wallet parsed transaction isLive
    exact absurd isLive (nothing transaction)

/-- The rest of the groups: each address is in the cache, under the signature of its
group. -/
theorem resendLoop_keeps {resendArgs : ResendSendArgs}
    (groups : List (Signature × List String)) (world : SendWorld)
    (recorded : careful → Recorded texts world)
    (distinct : ((groupEntries groups).map Prod.fst).Nodup)
    (last : ∀ entry ∈ groupEntries groups, world.cache.lookup entry.1 = some entry.2) :
    SendKeeps texts careful (fun _ left => careful → Recorded texts left)
      (resendLoop texts associatedTokenAddress args wallet resendArgs groups world.cache)
      world := by
  induction groups generalizing world with
  | nil => exact recorded
  | cons group groups inductionHypothesis =>
      obtain ⟨signature, addresses⟩ := group
      rw [groupEntries_cons, List.map_append, List.map_map, List.nodup_append] at distinct
      rw [groupEntries_cons, List.forall_mem_append] at last
      rw [resendLoop]
      intro found change reply answer left allowed answered
      obtain ⟨rfl, settled⟩ := SendWorld.answer_signatureStatus answered
      refine ⟨.none, ?_⟩
      have still : careful → Recorded texts left := fun isCareful =>
        (recorded isCareful).after change
      have known (entry : String × Signature) (among : entry ∈ groupEntries groups) :
          left.cache.lookup entry.1 = some entry.2 := by
        rw [change.cache]
        exact last.2 entry among
      have later := inductionHypothesis left still distinct.2.1 known
      rw [change.cache] at later
      cases answer with
      | error failure => exact later
      | ok value =>
          change SendKeeps texts careful _ (if shouldResend value then _ else _) left
          split
          case isFalse => exact later
          case isTrue resend =>
            have alone : addresses.Nodup := by simpa [Function.comp_def] using distinct.1
            have part (number : Nat) : (if number < addresses.length then
                addresses.take number else addresses).Sublist addresses := by
              split
              · exact List.take_sublist _ _
              · exact .refl _
            have unpaid : careful → ∀ address ∈ addresses, Unpaid texts left address := by
              intro isCareful address among
              have dead := settled value rfl resend (allowed.2 isCareful)
              apply (still isCareful).unpaid_of_settled _ dead
              rw [change.cache]
              exact last.1 (address, signature) (List.mem_map_of_mem among)
            apply Keeps.bind
            refine Keeps.weaken ?_ (sendForBatchAddress_keeps fun isCareful =>
              ⟨alone.sublist (part _), fun address among =>
                unpaid isCareful address ((part _).subset among)⟩)
            intro result ready sent
            cases result with
            | error stop =>
                have stillThen : careful → Recorded texts ready := fun isCareful =>
                  (still isCareful).error isCareful sent
                cases stop with
                | panic => exact stillThen
                | err message =>
                    have same : ready.cache = world.cache := sent.1.trans change.cache
                    rw [← same]
                    apply inductionHypothesis ready stillThen distinct.2.1
                    intro entry among
                    rw [same]
                    exact last.2 entry among
            | ok done =>
                obtain ⟨newSignature, qualified⟩ := done
                rw [← change.cache]
                apply writeCache_keeps still _ sent
                · intro after cache _ recorded
                  rw [← cache]
                  apply inductionHypothesis after recorded distinct.2.1
                  intro entry among
                  rw [cache, lookup_record, if_neg]
                  · exact known entry among
                  · intro here
                    have inGroup := (part _).subset (sent.2.1.among.subset here)
                    exact distinct.2.2 entry.1 (by simpa using inGroup) entry.1
                      (List.mem_map_of_mem among) rfl
                · intro isCareful address among
                  exact unpaid isCareful address ((part _).subset among)

theorem processResend_keeps {resendArgs : ResendSendArgs} {world : SendWorld}
    (recorded : careful → Recorded texts world) :
    SendKeeps texts careful (fun _ left => careful → Recorded texts left)
      (processResend texts associatedTokenAddress args wallet resendArgs) world := by
  intro found change reply answer left allowed answered
  obtain ⟨rfl, rfl⟩ := SendWorld.answer_readCache answered
  refine ⟨.none, ?_⟩
  intro found further reply entries ready allowed answered
  obtain ⟨rfl, order⟩ := SendWorld.answer_iterateAddresses answered
  refine ⟨.none, ?_⟩
  intro found last reply groups now allowed answered
  obtain ⟨rfl, groupOrder⟩ := SendWorld.answer_iterateSignatures answered
  refine ⟨.none, ?_⟩
  have sinceRead := further.trans last
  have order : (groupEntries groups).Perm (left.cache.entries.map fun entry =>
      (entry.1, entry.2)) := by
    apply (groupOrder.flatMap_right _).trans
    apply (groupEntries_foldl entries []).trans
    exact (List.append_nil entries).symm ▸ order
  change SendKeeps texts careful _ (resendLoop _ _ _ _ _ groups left.cache) now
  rw [← sinceRead.cache]
  apply resendLoop_keeps
  · exact fun isCareful => ((recorded isCareful).after change).after sinceRead
  · rw [(order.map Prod.fst).nodup_iff, List.map_map]
    exact left.cache.nodupKeys
  · intro entry among
    rcases List.mem_map.mp (order.subset among) with ⟨held, isHeld, rfl⟩
    rw [sinceRead.cache]
    exact AList.mem_lookup_iff.mpr isHeld

theorem resendRuns_keeps (resends : List ResendSendArgs) (world : SendWorld)
    (recorded : careful → Recorded texts world) :
    SendKeeps texts careful (fun _ left => careful → Recorded texts left)
      (resendRuns texts associatedTokenAddress args wallet resends) world := by
  induction resends generalizing world with
  | nil => exact recorded
  | cons resendArgs resends inductionHypothesis =>
      apply Keeps.bind
      refine Keeps.weaken ?_ (processResend_keeps recorded)
      intro _ left recorded
      exact inductionHypothesis left recorded

end Keeping

/-! ## Runs -/

/-- The premises of the rule for runs. -/
theorem sendSystem_sound (texts : Texts) (careful : Prop) :
    Sound sendSystem (fun found call reply => careful →
      SettledBefore texts found call reply)
      (fun _ _ => True) OnlySettled (SendStep careful)
      (fun _ left => careful → Recorded texts left) (SendGood careful) where
  refl := .refl
  trans := OnlySettled.trans
  stable := fun recorded settled isCareful => (recorded isCareful).after settled
  tolerant := .inr nofun
  started := nofun
  changed := fun _ _ changed => change_onlySettled changed
  called := fun good step => good.step step
  permitted := fun good _ changed => good.change changed

/-- The record of a run of the commands. -/
abbrev SendHistory : Type :=
  List (Entry (Configuration SendWorld SendCall SendCall.Answer Unit)
    (Input SendReply SendEvent Empty) Unit
    (Configuration SendWorld SendCall SendCall.Answer Unit))

section Runs

variable {texts : Texts} {associatedTokenAddress : Pubkey → Pubkey → Pubkey}
variable {args : CliArgs} {wallet : WalletArgs} {cache : SentAddresses}
variable {massSendArgs : MassSendArgs} {resends : List ResendSendArgs}

theorem sending_invariant (careful : Prop) (distinct : massSendArgs.addresses.Nodup) :
    Invariant sendSystem (fun found call reply => careful →
      SettledBefore texts found call reply)
      OnlySettled (SendStep careful) (fun _ left => careful → Recorded texts left)
      (SendGood careful)
      (sendingStarts cache (sendAndResend texts associatedTokenAddress args wallet
        massSendArgs resends)) := by
  have nothingLive : ∀ transaction : SendTransaction,
      transaction ∉ (sendingStarts cache (sendAndResend texts associatedTokenAddress args
        wallet massSendArgs resends)).world.live := by
    intro transaction isLive
    simp [sendingStarts, SendWorld.live, Mempool.live, Mempool.successes,
      Mempool.empty] at isLive
  apply Invariant.single rfl
  · constructor
    · intro _ wallet
      exact .empty
    · intro _ transaction isLive
      exact absurd isLive (nothingLive transaction)
  · apply Keeps.bind
    refine Keeps.weaken ?_ (processMassSend_keeps distinct nothingLive)
    intro _ left recorded
    exact resendRuns_keeps resends left recorded

/-- The steps that keep every address. -/
theorem SendStep.cache_kept {careful : Prop} {world left : SendWorld}
    (step : SendStep careful world left) :
    ∀ address, (world.cache.lookup address).isSome → (left.cache.lookup address).isSome := by
  cases step with
  | none => exact fun _ held => held
  | wrote kept => exact kept
  | sent free => exact fun _ held => held

/-- What was received is bounded by the one transaction that may pay a wallet. -/
theorem SendGood.received_le {world : SendWorld} {careful : Prop}
    (good : SendGood careful world) (isCareful : careful) (wallet : Pubkey) :
    world.received wallet ≤ 1 := by
  apply (good.exclusive isCareful wallet).sum_le
  · intro transaction some
    exact List.count_pos_iff.mp (Nat.pos_of_ne_zero some)
  · intro transaction success
    exact List.nodup_iff_count_le_one.mp (good.once isCareful transaction
      (List.mem_append_right _ success)) wallet

/-- Over a run of `process_mass_send` and any runs of `process_resend`, no wallet receives
two finalised transfers if no query about a transaction in flight is answered with nothing,
and every transaction that `process_resend` submits is reported as sent.  In every run the
cache keeps the addresses that it holds. -/
theorem paid_once (texts : Texts) (associatedTokenAddress : Pubkey → Pubkey → Pubkey)
    (args : CliArgs) (wallet : WalletArgs) (cache : SentAddresses)
    (massSendArgs : MassSendArgs) (resends : List ResendSendArgs)
    (distinct : massSendArgs.addresses.Nodup) {history : SendHistory}
    {configuration : Configuration SendWorld SendCall SendCall.Answer Unit}
    (run : Run sendSystem.machine
      (sendingStarts cache (sendAndResend texts associatedTokenAddress args wallet
        massSendArgs resends)) history configuration) :
    ((∀ entry ∈ history,
        entry.input.Allowed (SettledBefore texts) (fun _ _ => True) entry.before) →
      ∀ wallet, configuration.world.received wallet ≤ 1) ∧
    ∀ later final, Run sendSystem.machine configuration later final →
      ∀ address, (configuration.world.cache.lookup address).isSome →
        (final.world.cache.lookup address).isSome := by
  constructor
  · intro condition wallet
    have kept := (sendSystem_sound texts True).run (sending_invariant True distinct) run
      fun entry member => (condition entry member).weaken fun settled _ => settled
    exact kept.good.received_le trivial wallet
  · intro later final more
    have free {history : SendHistory} : ∀ entry ∈ history, entry.input.Allowed
        (fun found call reply => False → SettledBefore texts found call reply) (fun _ _ => True)
        entry.before := fun entry _ => .of_all (fun _ => nofun) fun _ => trivial
    have reached := (sendSystem_sound texts False).run (sending_invariant False distinct) run
      free
    apply (sendSystem_sound texts False).related _ _ SendStep.cache_kept _ reached more free
    · exact fun _ _ held => held
    · exact fun first second address held => second address (first address held)
    · intro world event left changed address held
      rw [(change_onlySettled changed).cache]
      exact held

end Runs

section Sample

/-- One address is paid, and paid again by one run of `process_resend`. -/
def sampleSending : SendProgram Unit :=
  sendAndResend base58Texts sampleEnv.associatedTokenAddress sampleCliArgs
    { keypair := sampleAdmin, priorityFee := none }
    { addresses := [Base58.encode alice], maxAddressPerTx := 8, amount := 100 }
    [{ maxAddressPerTx := 8, amount := 100 }]

/-- The transaction that pays the address. -/
def sampleSent (blockhash : Hash) : SendTransaction :=
  { keypair := sampleAdmin
    mint := sampleMint
    sourceVault := sampleEnv.associatedTokenAddress sampleAdmin sampleMint
    priorityFee := none
    amount := 100
    payments :=
      [{ wallet := alice
         userAta := sampleEnv.associatedTokenAddress alice sampleMint
         createsAccount := false }]
    blockhash }

/-- What sending one batch reads, sends and writes. -/
def sampleBatch (blockhash : Hash) : List (Input SendReply SendEvent Empty) :=
  [.call 0 .found, .call 0 (.blockhash blockhash), .call 0 .found, .call 0 .found]

/-- A transaction is finalised. -/
def finalises (blockhash : Hash) : Input SendReply SendEvent Empty :=
  .event { transaction := sampleSent blockhash, outcome := .finalised }

/-- The cache is read and grouped, and one status is asked for. -/
def sampleQuery (blockhash : Hash) : List (Input SendReply SendEvent Empty) :=
  [.call 0 .found,
   .call 0 (.addresses [(Base58.encode alice, sampleSent blockhash)]),
   .call 0 (.signatures [(sampleSent blockhash, [Base58.encode alice])]),
   .call 0 .found]

/-- The configuration that these steps end in. -/
def sampleSendingAfter (inputs : List (Input SendReply SendEvent Empty)) :
    Configuration SendWorld SendCall SendCall.Answer Unit :=
  (sendSystem.machine.play (sendingStarts ∅ sampleSending) inputs).2

/-- Two addresses are paid by transactions of their own, and what failed is paid again. -/
def pairAddresses : List String := [Base58.encode alice, Base58.encode bob]

@[inherit_doc pairAddresses]
def pairSending : SendProgram Unit :=
  sendAndResend base58Texts sampleEnv.associatedTokenAddress sampleCliArgs
    { keypair := sampleAdmin, priorityFee := none }
    { addresses := pairAddresses, maxAddressPerTx := 1, amount := 100 }
    [{ maxAddressPerTx := 8, amount := 100 }]

/-- The transaction that pays the second address. -/
def sampleSentToBob (blockhash : Hash) : SendTransaction :=
  { sampleSent blockhash with
    payments :=
      [{ wallet := bob
         userAta := sampleEnv.associatedTokenAddress bob sampleMint
         createsAccount := false }] }

/-- The first transaction fails before its status is asked for, and is sent again.  The call
that sends the second one reports an error, although it is finalised: it is not in the cache,
and nobody asks for it. -/
def settledThenAsked : List (Input SendReply SendEvent Empty) :=
  .call 0 .found :: sampleBatch (.replicate 1) ++
    [.call 0 .found, .call 0 (.blockhash (.replicate 2)), .call 0 (.failed true),
     .event { transaction := sampleSent (.replicate 1), outcome := .failed },
     .event { transaction := sampleSentToBob (.replicate 2), outcome := .finalised }] ++
    sampleQuery (.replicate 1) ++ sampleBatch (.replicate 3) ++ [finalises (.replicate 3)]

/-- The configuration that these steps end in. -/
def pairSendingAfter (inputs : List (Input SendReply SendEvent Empty)) :
    Configuration SendWorld SendCall SendCall.Answer Unit :=
  (sendSystem.machine.play (sendingStarts ∅ pairSending) inputs).2

theorem paid_once_sample :
    (pairSendingAfter settledThenAsked).world.received alice = 1 ∧
    (pairSendingAfter settledThenAsked).world.received bob = 1 ∧
    (∀ wallet, (pairSendingAfter settledThenAsked).world.received wallet ≤ 1) ∧
    ∀ later final, Run sendSystem.machine (pairSendingAfter settledThenAsked) later final →
      ∀ address, ((pairSendingAfter settledThenAsked).world.cache.lookup address).isSome →
        (final.world.cache.lookup address).isSome := by
  have run : Run sendSystem.machine (sendingStarts ∅ pairSending) _
      (pairSendingAfter settledThenAsked) := Run.play _ _ _
  have paid := paid_once base58Texts sampleEnv.associatedTokenAddress sampleCliArgs
    { keypair := sampleAdmin, priorityFee := none } ∅
    { addresses := pairAddresses, maxAddressPerTx := 1, amount := 100 }
    [{ maxAddressPerTx := 8, amount := 100 }] (by decide +kernel) run
  exact ⟨by decide +kernel, by decide +kernel, paid.1 (by decide +kernel), paid.2⟩

/-- The status is asked for while the transaction is in flight, and it is finalised after
the one that is sent in its place. -/
def askedInFlight : List (Input SendReply SendEvent Empty) :=
  .call 0 .found :: sampleBatch (.replicate 1) ++ sampleQuery (.replicate 1) ++
    sampleBatch (.replicate 2) ++ [finalises (.replicate 2), finalises (.replicate 1)]

/-- A transaction without a status may still be finalised: the address is paid twice, and
the cache holds the second signature only. -/
theorem in_flight_resent :
    [Base58.encode alice].Nodup ∧
    base58Texts.parsePubkey (Base58.encode alice) = some alice ∧
    ∃ history configuration,
      Run sendSystem.machine (sendingStarts ∅ sampleSending) history configuration ∧
      configuration.world.mempool.inFlight = [] ∧
      configuration.world.received alice = 2 :=
  ⟨List.nodup_singleton _, base58Texts.parse_text alice, _, sampleSendingAfter askedInFlight,
    Run.play _ _ _, by decide +kernel, by decide +kernel⟩

end Sample

end Airdrop
