/-
Module: Airdrop.Proofs.Verification
Purpose: What a run of `process_verify` says about the deployed distributors while others
  transact: when exactly it passes, and what stays certain once it has.
Trusted boundary: none
Main exports: Matches, verifyState_eq_ok, Certified, Instruction.Spares, matches_spared,
  verifyLoop_sound, verifyLoop_complete, verification_exact, verification_certifies
-/
import Airdrop.Cli.Verify
import Airdrop.Proofs.Bystanders
import Airdrop.Proofs.ClaimRecords
import Airdrop.Proofs.ReceiverChange

namespace Airdrop

open Checked Interference Transition

/-! ## What is compared -/

section Compared

variable (associatedTokenAddress : Pubkey → Pubkey → Pubkey)
variable (args : CliArgs) (verifyArgs : VerifyArgs)

/-- The distributor is the one that the tree and the arguments describe. -/
structure Matches (tree : AirdropMerkleTree) (distributor : MerkleDistributor) : Prop where
  root : distributor.root = tree.merkleRoot
  clawbackStartTs : distributor.clawbackStartTs = verifyArgs.clawbackStartTs
  closable : distributor.closable = verifyArgs.closable
  admin : distributor.admin = verifyArgs.admin
  activationType : distributor.activationType = verifyArgs.activationType
  activationPoint : distributor.activationPoint = verifyArgs.activationPoint
  clawbackReceiver : distributor.clawbackReceiver =
    associatedTokenAddress verifyArgs.clawbackReceiverOwner args.mint

/-- The part of it that nobody can change. -/
structure Certified (tree : AirdropMerkleTree) (distributor : MerkleDistributor) : Prop where
  root : distributor.root = tree.merkleRoot
  clawbackStartTs : distributor.clawbackStartTs = verifyArgs.clawbackStartTs
  closable : distributor.closable = verifyArgs.closable
  activationType : distributor.activationType = verifyArgs.activationType

variable {associatedTokenAddress args verifyArgs}
variable {tree : AirdropMerkleTree} {distributor after : MerkleDistributor}

theorem verifyState_eq_ok :
    verifyState associatedTokenAddress args verifyArgs tree distributor = .ok () ↔
      Matches associatedTokenAddress args verifyArgs tree distributor := by
  unfold verifyState
  simp only [bind_eq_ok, require_eq_ok]
  constructor
  · rintro ⟨_, root, _, clawbackStartTs, _, closable, _, admin, _, activationType, _,
      activationPoint, clawbackReceiver⟩
    exact ⟨root, clawbackStartTs, closable, admin, activationType, activationPoint,
      clawbackReceiver⟩
  · intro same
    exact ⟨(), same.root, (), same.clawbackStartTs, (), same.closable, (), same.admin, (),
      same.activationType, (), same.activationPoint, same.clawbackReceiver⟩

theorem Matches.certified
    (same : Matches associatedTokenAddress args verifyArgs tree distributor) :
    Certified verifyArgs tree distributor :=
  ⟨same.root, same.clawbackStartTs, same.closable, same.activationType⟩

theorem Certified.of_sameTerms (certified : Certified verifyArgs tree distributor)
    (same : SameTerms distributor after) : Certified verifyArgs tree after where
  root := same.root.trans certified.root
  clawbackStartTs := same.clawbackStartTs.trans certified.clawbackStartTs
  closable := same.closable.trans certified.closable
  activationType := by
    rw [same]
    exact certified.activationType

/-- Claims and clawbacks change nothing that is compared. -/
theorem Served.matches_iff (served : Served distributor after) :
    Matches associatedTokenAddress args verifyArgs tree after ↔
      Matches associatedTokenAddress args verifyArgs tree distributor := by
  rw [served.rest]
  constructor
  · exact fun same => ⟨same.root, same.clawbackStartTs, same.closable, same.admin,
      same.activationType, same.activationPoint, same.clawbackReceiver⟩
  · exact fun same => ⟨same.root, same.clawbackStartTs, same.closable, same.admin,
      same.activationType, same.activationPoint, same.clawbackReceiver⟩

end Compared

/-! ## What others do meanwhile -/

/-- Where the instruction works on this distributor, it is a claim or a clawback. -/
def Instruction.Spares (key : Pubkey) (instruction : Instruction) : Prop :=
  instruction.distributorKey = some key →
    instruction.claimedFrom = some key ∨ instruction.clawedBack = some key

instance {key : Pubkey} {instruction : Instruction} : Decidable (instruction.Spares key) :=
  inferInstanceAs (Decidable (_ → _))

section Steps

variable {env : Env} {tx : Transaction env} {bank : Bank} {receipt : Receipt} {key : Pubkey}

theorem Creation.only {created : MerkleDistributor} {instruction : Instruction}
    (creation : Creation key created instruction) :
    instruction.claimedFrom = none ∧ instruction.clawedBack = none := by
  cases creation with
  | plain here written => exact ⟨rfl, rfl⟩
  | withBonus here isMax written => exact ⟨rfl, rfl⟩

/-- An instruction that neither claims nor claws back spares no distributor that it works
on. -/
theorem Instruction.not_spares {instruction : Instruction}
    (works : instruction.distributorKey = some key) (unclaimed : instruction.claimedFrom = none)
    (kept : instruction.clawedBack = none) : ¬ instruction.Spares key := by
  intro spares
  rcases spares works with claims | clawsBack
  · exact absurd (unclaimed.symm.trans claims) (by simp)
  · exact absurd (kept.symm.trans clawsBack) (by simp)

/-- What happens to a distributor that is spared: it is as it was, or it has served. -/
theorem distributor_spared (accepted : execute env bank tx = .ok receipt)
    (spares : tx.instruction.Spares key) :
    receipt.bank.distributor? key = bank.distributor? key ∨
      ∃ before after, bank key = some (.distributor before) ∧
        receipt.bank key = some (.distributor after) ∧ Served before after := by
  cases distributorStep accepted key with
  | other elsewhere same notPaid => exact .inl same
  | created creation effect =>
      exact absurd spares (Instruction.not_spares creation.distributorKey creation.only.1
        creation.only.2)
  | claimed instruction here checks effect =>
      exact .inr ⟨_, _, effect.isDistributor, Bank.distributor_of_update effect.distributors,
        .of_advanced effect.advanced⟩
  | withdrawn instruction here checks effect =>
      exact .inr ⟨_, _, effect.isDistributor, Bank.distributor_of_update effect.distributors,
        .of_advanced effect.advanced⟩
  | clawedBack instruction here checks effect =>
      exact .inr ⟨_, _, effect.isDistributor, Bank.distributor_of_update effect.distributors,
        .of_clawback _⟩
  | closed instruction here checks effect =>
      refine absurd spares (Instruction.not_spares ?_ ?_ ?_)
      · rw [instruction]
        exact congrArg some here
      · rw [instruction]
        rfl
      · rw [instruction]
        rfl
  | tuned tuning effect =>
      exact absurd spares (Instruction.not_spares tuning.distributorKey tuning.only.2.1
        tuning.only.2.2.1)

end Steps

section Folder

variable (findProgramAddress : List Bytes → Pubkey → Pubkey × UInt8)
variable (associatedTokenAddress : Pubkey → Pubkey → Pubkey)
variable (args : CliArgs) (verifyArgs : VerifyArgs)

/-- The distributor of the tree is there, and is as described. -/
def MatchesAt (bank : Bank) (file : TreeFile) : Prop :=
  ∃ distributor,
    bank (fileAddress findProgramAddress args file) = some (.distributor distributor) ∧
      Matches associatedTokenAddress args verifyArgs file.tree distributor

/-- The distributor of the tree is there, on the terms that cannot be changed. -/
def CertifiedAt (bank : Bank) (file : TreeFile) : Prop :=
  ∃ distributor,
    bank (fileAddress findProgramAddress args file) = some (.distributor distributor) ∧
      Certified verifyArgs file.tree distributor

variable {findProgramAddress associatedTokenAddress args verifyArgs}
variable {env : Env} {tx : Transaction env} {bank : Bank} {receipt : Receipt} {file : TreeFile}

/-- Whether a spared distributor is as described does not change. -/
theorem matches_spared (accepted : execute env bank tx = .ok receipt)
    (spares : tx.instruction.Spares (fileAddress findProgramAddress args file)) :
    MatchesAt findProgramAddress associatedTokenAddress args verifyArgs receipt.bank file ↔
      MatchesAt findProgramAddress associatedTokenAddress args verifyArgs bank file := by
  rcases distributor_spared accepted spares with same | ⟨before, after, isBefore, isAfter, served⟩
  · simp only [MatchesAt, ← Bank.distributor?_eq_some, same]
  · constructor
    · rintro ⟨distributor, present, described⟩
      obtain rfl := Bank.distributor_unique present isAfter
      exact ⟨before, isBefore, served.matches_iff.mp described⟩
    · rintro ⟨distributor, present, described⟩
      obtain rfl := Bank.distributor_unique present isBefore
      exact ⟨after, isAfter, served.matches_iff.mpr described⟩

/-- What is certified stays, as long as the distributor is not closed. -/
theorem certified_kept (accepted : execute env bank tx = .ok receipt)
    (unclosed : tx.instruction.closed ≠ some (fileAddress findProgramAddress args file))
    (certified : CertifiedAt findProgramAddress args verifyArgs bank file) :
    CertifiedAt findProgramAddress args verifyArgs receipt.bank file := by
  obtain ⟨distributor, present, terms⟩ := certified
  obtain ⟨after, isAfter, same⟩ := terms_kept accepted unclosed present
  exact ⟨after, isAfter, terms.of_sameTerms same⟩

end Folder

/-! ## The loop -/

/-- A call that is answered shows the account, or fails. -/
theorem answerReading_distributor {bank left : Bank} {address : Pubkey} {reached : Bool}
    {answer : NodeCall.Answer (.distributor address)}
    (answered : answerReading bank (.distributor address) reached = some (answer, left)) :
    left = bank ∧
      (∀ distributor, answer = .ok distributor →
        bank address = some (.distributor distributor)) ∧
      (reached = true → ∀ distributor, bank address = some (.distributor distributor) →
        answer = .ok distributor) := by
  cases reached with
  | false =>
      cases answered
      exact ⟨rfl, fun distributor isOk => (by cases isOk), fun isTrue => (by cases isTrue)⟩
  | true =>
      simp only [answerReading] at answered
      split at answered
      case h_1 distributor present =>
        cases answered
        refine ⟨rfl, fun found isOk => ?_, fun _ found isFound => ?_⟩
        · cases isOk
          exact present
        · rw [Bank.distributor_unique present isFound]
      case h_2 missing =>
        cases answered
        refine ⟨rfl, fun found isOk => ?_, fun _ found isFound => ?_⟩
        · cases isOk
        · exact absurd isFound (missing found)

section Loop

variable {findProgramAddress : List Bytes → Pubkey → Pubkey × UInt8}
variable {associatedTokenAddress : Pubkey → Pubkey → Pubkey}
variable {args : CliArgs} {verifyArgs : VerifyArgs} {file : TreeFile} {paths : List TreeFile}
variable {Allowed : Bank → NodeCall → Bool → Prop} {Rely : Bank → Bank → Prop}

/-- A turn that comes through has seen a distributor that is as described. -/
theorem verifyTree_sound (bank : Bank) :
    Keeps answerReading Allowed Rely Eq
      (fun result left => result = .ok () →
        MatchesAt findProgramAddress associatedTokenAddress args verifyArgs left file)
      (verifyTree findProgramAddress associatedTokenAddress args verifyArgs file.tree) bank := by
  intro found change reached answer left allowed answered
  obtain ⟨rfl, shown, _⟩ := answerReading_distributor answered
  refine ⟨rfl, ?_⟩
  cases answer with
  | error failure => exact fun returned => by cases returned
  | ok distributor =>
      intro passed
      exact ⟨distributor, shown distributor rfl, verifyState_eq_ok.mp passed⟩

/-- A turn whose call is answered comes through where the distributor is as described. -/
theorem verifyTree_complete
    (honest : ∀ {bank call reached}, Allowed bank call reached → reached = true)
    (lasts : ∀ {one two}, Rely one two →
      MatchesAt findProgramAddress associatedTokenAddress args verifyArgs one file →
        MatchesAt findProgramAddress associatedTokenAddress args verifyArgs two file)
    {bank : Bank} (described : MatchesAt findProgramAddress associatedTokenAddress args
      verifyArgs bank file) :
    Keeps answerReading Allowed Rely Eq (fun result left => result = .ok () ∧ Rely bank left)
      (verifyTree findProgramAddress associatedTokenAddress args verifyArgs file.tree) bank := by
  intro found change reached answer left allowed answered
  obtain ⟨rfl, _, seen⟩ := answerReading_distributor answered
  refine ⟨rfl, ?_⟩
  obtain ⟨distributor, present, same⟩ := lasts change described
  obtain rfl := seen (honest allowed) distributor present
  exact ⟨verifyState_eq_ok.mpr same, change⟩

/-- What a loop that comes through has seen still holds, if it lasts. -/
theorem verifyLoop_sound (Holds : Bank → TreeFile → Prop)
    (holds : ∀ {bank file}, MatchesAt findProgramAddress associatedTokenAddress args verifyArgs
      bank file → Holds bank file)
    (lasts : ∀ file ∈ paths, verifyArgs.wants file.tree = true → ∀ {one two}, Rely one two →
      Holds one file → Holds two file) (bank : Bank) :
    Keeps answerReading Allowed Rely Eq
      (fun result left => result = .ok () →
        ∀ file ∈ paths, verifyArgs.wants file.tree = true → Holds left file)
      (verifyLoop findProgramAddress associatedTokenAddress args verifyArgs paths) bank := by
  induction paths generalizing bank with
  | nil => exact fun _ file member => absurd member List.not_mem_nil
  | cons file paths inductionHypothesis =>
      rw [List.forall_mem_cons] at lasts
      have later := inductionHypothesis lasts.2
      rw [verifyLoop]
      split
      case isFalse unwanted =>
        refine Keeps.weaken ?_ (later bank)
        intro result left ensured returned
        exact List.forall_mem_cons.mpr ⟨fun wanted => absurd wanted unwanted, ensured returned⟩
      case isTrue wanted =>
        apply Keeps.bind
        refine Keeps.weaken ?_ (verifyTree_sound bank)
        intro result left passed
        cases result with
        | error halt => exact fun returned => by cases returned
        | ok _ =>
            -- what was seen lasts through the rest of the loop
            have both := (later left).since (fun one two => Holds one file → Holds two file)
              (fun _ seen => seen) (fun first second seen => second (first seen))
              (lasts.1 wanted) (by rintro one two rfl seen; exact seen)
            refine Keeps.weaken ?_ both
            rintro result final ⟨lasting, ensured⟩ returned
            exact List.forall_mem_cons.mpr ⟨fun _ => lasting (holds (passed rfl)),
              ensured returned⟩

/-- A loop whose calls are answered comes through where every distributor is as described, if
this lasts. -/
theorem verifyLoop_complete
    (honest : ∀ {bank call reached}, Allowed bank call reached → reached = true)
    (lasts : ∀ file ∈ paths, verifyArgs.wants file.tree = true → ∀ {one two}, Rely one two →
      MatchesAt findProgramAddress associatedTokenAddress args verifyArgs one file →
        MatchesAt findProgramAddress associatedTokenAddress args verifyArgs two file)
    {bank : Bank} (all : ∀ file ∈ paths, verifyArgs.wants file.tree = true →
      MatchesAt findProgramAddress associatedTokenAddress args verifyArgs bank file) :
    Keeps answerReading Allowed Rely Eq (fun result _ => result = .ok ())
      (verifyLoop findProgramAddress associatedTokenAddress args verifyArgs paths) bank := by
  induction paths generalizing bank with
  | nil => rfl
  | cons file paths inductionHypothesis =>
      rw [List.forall_mem_cons] at lasts all
      rw [verifyLoop]
      split
      case isFalse unwanted => exact inductionHypothesis lasts.2 all.2
      case isTrue wanted =>
        apply Keeps.bind
        refine Keeps.weaken ?_ (verifyTree_complete honest (lasts.1 wanted) (all.1 wanted))
        rintro result left ⟨rfl, change⟩
        exact inductionHypothesis lasts.2 fun other member otherWanted =>
          lasts.2 other member otherWanted change (all.2 other member otherWanted)

end Loop

/-! ## Runs -/

section Runs

variable {env : Env} {findProgramAddress : List Bytes → Pubkey → Pubkey × UInt8}
variable {associatedTokenAddress : Pubkey → Pubkey → Pubkey}
variable {args : CliArgs} {verifyArgs : VerifyArgs} {listing : List TreeFile}

variable (env findProgramAddress args verifyArgs listing) in
/-- The transaction closes none of the distributors that are asked for. -/
def ClosesNone (tx : Transaction env) : Prop :=
  ∀ file ∈ listing, verifyArgs.wants file.tree = true →
    tx.instruction.closed ≠ some (fileAddress findProgramAddress args file)

variable (env findProgramAddress args verifyArgs listing) in
/-- The transaction spares all distributors that are asked for. -/
def SparesAll (tx : Transaction env) : Prop :=
  ∀ file ∈ listing, verifyArgs.wants file.tree = true →
    tx.instruction.Spares (fileAddress findProgramAddress args file)

instance : DecidablePred (ClosesNone env findProgramAddress args verifyArgs listing) :=
  fun _ => inferInstanceAs (Decidable (∀ _ ∈ _, _))

instance : DecidablePred (SparesAll env findProgramAddress args verifyArgs listing) :=
  fun _ => inferInstanceAs (Decidable (∀ _ ∈ _, _))

theorem verifySystem_change {bank left : Bank} {tx : Transaction env}
    (changed : (verifySystem env findProgramAddress associatedTokenAddress args verifyArgs
      listing).change bank tx = some left) :
    ∃ receipt, execute env bank tx = .ok receipt ∧ receipt.bank = left := by
  change (execute env bank tx).toOption.map Receipt.bank = some left at changed
  cases executed : execute env bank tx with
  | error failure =>
      rw [executed] at changed
      cases changed
  | ok receipt =>
      rw [executed] at changed
      exact ⟨receipt, rfl, Option.some.inj changed⟩

/-- The premises of the rule for runs in which no distributor is closed. -/
theorem certifying_sound :
    Sound (verifySystem env findProgramAddress associatedTokenAddress args verifyArgs listing)
      (fun _ _ _ => True)
      (fun _ tx => ClosesNone env findProgramAddress args verifyArgs listing tx)
      (fun one two => ∀ file ∈ listing, verifyArgs.wants file.tree = true →
        CertifiedAt findProgramAddress args verifyArgs one file →
          CertifiedAt findProgramAddress args verifyArgs two file) Eq
      (fun result left => result = .ok () →
        ∀ file ∈ listing, verifyArgs.wants file.tree = true →
          CertifiedAt findProgramAddress args verifyArgs left file) (fun _ => True) where
  refl := fun _ _ _ _ certified => certified
  trans := fun first second file member wanted certified =>
    second file member wanted (first file member wanted certified)
  stable := fun ensured kept returned file member wanted =>
    kept file member wanted (ensured returned file member wanted)
  tolerant := .inl (by rintro one two rfl file member wanted certified; exact certified)
  started := by
    intro bank programs job admitted good
    refine Keeps.weaken ?_ (verifyLoop_sound (CertifiedAt findProgramAddress args verifyArgs)
      ?_ ?_ bank)
    · intro result left ensured returned file member wanted
      exact ensured returned file ((sortByPath_perm listing).mem_iff.mpr member) wanted
    · rintro bank file ⟨distributor, present, described⟩
      exact ⟨distributor, present, described.certified⟩
    · intro file member wanted one two kept certified
      exact kept file ((sortByPath_perm listing).mem_iff.mp member) wanted certified
  changed := by
    intro bank tx left good permitted changed file member wanted certified
    obtain ⟨receipt, accepted, rfl⟩ := verifySystem_change changed
    exact certified_kept accepted (permitted file member wanted) certified
  called := fun _ _ => trivial
  permitted := fun _ _ _ => trivial

variable (findProgramAddress associatedTokenAddress args verifyArgs listing) in
/-- Every distributor that is asked for is there, and is as described. -/
def AllMatch (bank : Bank) : Prop :=
  ∀ file ∈ listing, verifyArgs.wants file.tree = true →
    MatchesAt findProgramAddress associatedTokenAddress args verifyArgs bank file

/-- The premises of the rule for runs in which all calls are answered, and the distributors
serve claims and are clawed back, but nothing else happens to them. -/
theorem sparing_sound (start : Bank) :
    Sound (verifySystem env findProgramAddress associatedTokenAddress args verifyArgs listing)
      (fun _ _ reached => reached = true)
      (fun _ tx => SparesAll env findProgramAddress args verifyArgs listing tx)
      (fun one two => ∀ file ∈ listing, verifyArgs.wants file.tree = true →
        (MatchesAt findProgramAddress associatedTokenAddress args verifyArgs two file ↔
          MatchesAt findProgramAddress associatedTokenAddress args verifyArgs one file)) Eq
      (fun result left =>
        (AllMatch findProgramAddress associatedTokenAddress args verifyArgs listing start →
          result = .ok ()) ∧
        (result = .ok () →
          AllMatch findProgramAddress associatedTokenAddress args verifyArgs listing left))
      (fun bank => ∀ file ∈ listing, verifyArgs.wants file.tree = true →
        (MatchesAt findProgramAddress associatedTokenAddress args verifyArgs bank file ↔
          MatchesAt findProgramAddress associatedTokenAddress args verifyArgs start file)) where
  refl := fun _ _ _ _ => .rfl
  trans := fun first second file member wanted =>
    (second file member wanted).trans (first file member wanted)
  stable := by
    rintro result one two ⟨passes, ensured⟩ same
    refine ⟨passes, fun returned file member wanted => ?_⟩
    exact (same file member wanted).mpr (ensured returned file member wanted)
  tolerant := .inl (by rintro one two rfl file member wanted; exact .rfl)
  started := by
    intro bank programs job admitted good
    have listed (file : TreeFile) : file ∈ sortByPath listing ↔ file ∈ listing :=
      (sortByPath_perm listing).mem_iff
    have sound := @verifyLoop_sound findProgramAddress associatedTokenAddress args verifyArgs
      (sortByPath listing)
      (fun found _ reached => (∀ file ∈ listing, verifyArgs.wants file.tree = true →
        (MatchesAt findProgramAddress associatedTokenAddress args verifyArgs found file ↔
          MatchesAt findProgramAddress associatedTokenAddress args verifyArgs start file)) ∧
        reached = true)
      (fun one two => ∀ file ∈ listing, verifyArgs.wants file.tree = true →
        (MatchesAt findProgramAddress associatedTokenAddress args verifyArgs two file ↔
          MatchesAt findProgramAddress associatedTokenAddress args verifyArgs one file))
      (MatchesAt findProgramAddress associatedTokenAddress args verifyArgs) id
      (fun file member wanted one two same =>
        (same file ((listed file).mp member) wanted).mpr) bank
    have ensures (result : Except Halt Unit) (left : Bank)
        (ensured : result = .ok () → ∀ file ∈ sortByPath listing,
          verifyArgs.wants file.tree = true →
            MatchesAt findProgramAddress associatedTokenAddress args verifyArgs left file)
        (returned : result = .ok ()) :
        AllMatch findProgramAddress associatedTokenAddress args verifyArgs listing left :=
      fun file member => ensured returned file ((listed file).mpr member)
    by_cases all : AllMatch findProgramAddress associatedTokenAddress args verifyArgs listing
      start
    · refine Keeps.weaken ?_ (Keeps.and (verifyLoop_complete ?_ ?_ ?_) sound)
      · rintro result left ⟨passed, ensured⟩
        exact ⟨fun _ => passed, ensures result left ensured⟩
      · exact fun allowed => allowed.2
      · exact fun file member wanted one two same =>
          (same file ((listed file).mp member) wanted).mpr
      · intro file member wanted
        have among := (listed file).mp member
        exact (good file among wanted).mpr (all file among wanted)
    · refine Keeps.weaken ?_ sound
      exact fun result left ensured => ⟨fun isAll => absurd isAll all, ensures result left ensured⟩
  changed := by
    intro bank tx left good permitted changed file member wanted
    obtain ⟨receipt, accepted, rfl⟩ := verifySystem_change changed
    exact matches_spared accepted (permitted file member wanted)
  called := by
    rintro bank left good rfl
    exact good
  permitted := by
    intro bank tx left good permitted changed file member wanted
    obtain ⟨receipt, accepted, rfl⟩ := verifySystem_change changed
    exact (matches_spared accepted (permitted file member wanted)).trans
      (good file member wanted)

/-- The record of a run of the command. -/
abbrev VerifyHistory (env : Env) : Type :=
  List (Entry (Configuration Bank NodeCall NodeCall.Answer (Except Halt Unit))
    (Input Bool (Transaction env) Unit) Unit
    (Configuration Bank NodeCall NodeCall.Answer (Except Halt Unit)))

variable {start : Bank} {history : VerifyHistory env}
variable {configuration : Configuration Bank NodeCall NodeCall.Answer (Except Halt Unit)}

/-- What `process_verify` certifies once it has passed, whatever else was done meanwhile but
for closing these distributors: each of them has the root of its tree and the terms it was
asked for, and in its present life, before and after, all new claims are nodes of the tree. -/
theorem verification_certifies
    (run : Run (verifySystem env findProgramAddress associatedTokenAddress args verifyArgs
      listing).machine ⟨start, []⟩ history configuration)
    (condition : ∀ entry ∈ history, entry.input.Allowed (fun _ _ _ => True)
      (fun _ tx => ClosesNone env findProgramAddress args verifyArgs listing tx) entry.before)
    (passed : .done (.ok ()) ∈ configuration.programs)
    {file : TreeFile} (member : file ∈ listing) (wanted : verifyArgs.wants file.tree = true) :
    CertifiedAt findProgramAddress args verifyArgs configuration.world file ∧
      ∀ {earlier founding created before},
        Lifetime env earlier founding (fileAddress findProgramAddress args file) created before
          configuration.world →
        Certified verifyArgs file.tree created ∧
        ∀ (later : History env) {treeNodes airdropVersion bank},
          AirdropMerkleTree.new env.sha256 treeNodes airdropVersion = .ok file.tree →
          Lifetime env earlier founding (fileAddress findProgramAddress args file) created
            (later ++ before) bank →
          NoCollision env.sha256 (builderInputs env.sha256 file.tree.treeNodes ++
            committedInputs (commits (later ++ before))) →
          ∀ record ∈ newClaims (fileAddress findProgramAddress args file)
              (commits (later ++ before)), ∃ node ∈ file.tree.treeNodes,
            node.claimant = record.claimant ∧ node.amount = record.amountUnlocked ∧
              node.lockedAmount = record.amountLocked := by
  have reached := certifying_sound.run (.start trivial) run condition
  have certified := reached.keeps _ passed rfl file member wanted
  refine ⟨certified, fun life => ?_⟩
  obtain ⟨distributor, present, terms⟩ := certified
  have same := life.sameTerms present
  have founded : Certified verifyArgs file.tree _ :=
    ⟨same.root.symm.trans terms.root, same.clawbackStartTs.symm.trans terms.clawbackStartTs,
      same.closable.symm.trans terms.closable, by
        rw [← terms.activationType, same]⟩
  refine ⟨founded, ?_⟩
  intro later treeNodes airdropVersion bank built whole noCollision
  exact whole.newClaims_in_tree built founded.root noCollision

end Runs

section Sample

/-- The arguments that describe the small deployment. -/
def sampleVerifyArgs : VerifyArgs :=
  { clawbackStartTs := 300, clawbackReceiverOwner := sampleAdmin, activationPoint := 50
    activationType := 1, admin := sampleAdmin, airdropVersion := none, closable := false }

/-- The system in which the small deployment is verified. -/
abbrev sampleVerifySystem : System Bank NodeCall NodeCall.Answer Bool (Transaction sampleEnv)
    Unit (Except Halt Unit) :=
  verifySystem sampleEnv (fun seeds _ => sampleFind seeds) sampleAssociated sampleCliArgs
    sampleVerifyArgs [⟨"tree_0.json", sampleTree⟩]

/-- Alice claims after the command is started and before it asks for the distributor. -/
def verifiedMeanwhile : List (Input Bool (Transaction sampleEnv) Unit) :=
  [.start (), .event (aliceClaims 55), .call 0 true]

/-- The configuration that these steps end in. -/
def sampleVerified : Configuration Bank NodeCall NodeCall.Answer (Except Halt Unit) :=
  (sampleVerifySystem.machine.play ⟨sampleThen sampleTree.merkleRoot false [], []⟩
    verifiedMeanwhile).2

theorem sampleVerified_passed : .done (.ok ()) ∈ sampleVerified.programs := by
  have returned : some (Except.ok ()) ∈ sampleVerified.programs.map Program.result? := by
    decide +kernel
  rcases List.mem_map.mp returned with ⟨program, member, isDone⟩
  rwa [Program.result?_eq_some.mp isDone] at member

/-- Alice's claim, made while the command ran, is a node of the tree. -/
theorem verification_certifies_sample :
    (newClaims sampleKey (commits
      (sampleRecord sampleTree.merkleRoot false [aliceClaims 55]))).length = 1 ∧
    ∀ record ∈ newClaims sampleKey (commits
        (sampleRecord sampleTree.merkleRoot false [aliceClaims 55])),
      ∃ node ∈ sampleTree.treeNodes, node.claimant = record.claimant ∧
        node.amount = record.amountUnlocked ∧ node.lockedAmount = record.amountLocked := by
  have life : Lifetime sampleEnv [] (sampleFounding sampleTree.merkleRoot false)
      (fileAddress (fun seeds _ => sampleFind seeds) sampleCliArgs ⟨"tree_0.json", sampleTree⟩)
      (sampleDistributor sampleTree.merkleRoot false)
      (sampleRecord sampleTree.merkleRoot false [aliceClaims 55]) sampleVerified.world :=
    sample_lifetime sampleTree.merkleRoot false [aliceClaims 55] (by decide)
  obtain ⟨-, certain⟩ := verification_certifies (Run.play _ _ _) (by decide +kernel)
    sampleVerified_passed List.mem_cons_self rfl
  exact ⟨by decide +kernel, (certain life).2 [] sampleTree_built life
    (by decide +kernel)⟩

end Sample

end Airdrop
