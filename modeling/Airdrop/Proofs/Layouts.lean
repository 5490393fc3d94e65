/-
Module: Airdrop.Proofs.Layouts
Purpose: What account data hold: each kind of account is read back from its data and is
  never taken for the other kind, and the filters of the commands select exactly the claim
  statuses that can be closed.
Trusted boundary: none
Main exports: distributorBorsh_width, claimStatusBorsh_width, RoundTrips,
  accountLayout_roundTrips, digests, Listing, closable_accountsOf
-/
import Airdrop.Program.Layout
import Airdrop.Library.Checked

namespace Airdrop

open Borsh Checked Codec

/-! ## Sizes -/

theorem airdropBonusBorsh_width : airdropBonusBorsh.HasWidth 24 :=
  (u64_width.pair (u64_width.pair u64_width)).through _

theorem distributorBorsh_width : distributorBorsh.HasWidth 363 :=
  (u8_width.pair <| u64_width.pair <| bytes32_width.pair <| bytes32_width.pair <|
    bytes32_width.pair <| bytes32_width.pair <| u64_width.pair <| u64_width.pair <|
    u64_width.pair <| u64_width.pair <| i64_width.pair <| i64_width.pair <| i64_width.pair <|
    bytes32_width.pair <| bytes32_width.pair <| bool_width.pair <| u64_width.pair <|
    bool_width.pair <| airdropBonusBorsh_width.pair <| u8_width.pair <|
    (hasWidth_byte.repeated 7).pair <| bytes32_width.pair bytes32_width).through _

theorem claimStatusBorsh_width : claimStatusBorsh.HasWidth 89 :=
  (bytes32_width.pair <| u64_width.pair <| u64_width.pair <| u64_width.pair <|
    bool_width.pair bytes32_width).through _

theorem accountDiscriminator_length (sha256 : Bytes → Hash) (name : String) :
    (accountDiscriminator sha256 name).length = 8 := by
  rw [accountDiscriminator, List.length_take, Bytes32.length_eq]
  rfl

section AccountData

variable {discriminator fields : Bytes} {len : Nat}

theorem accountData_length (fits : (discriminator ++ fields).length ≤ len) :
    (accountData discriminator fields len).length = len := by
  rw [accountData, List.length_append, List.length_replicate]
  omega

theorem accountData_take (short : discriminator.length = 8) :
    (accountData discriminator fields len).take 8 = discriminator := by
  rw [accountData, List.append_assoc, List.take_left' short]

theorem accountData_drop (short : discriminator.length = 8) :
    ∃ rest, (accountData discriminator fields len).drop 8 = fields ++ rest :=
  ⟨_, by rw [accountData, List.append_assoc, List.drop_left' short]⟩

/-- What was written after the discriminator is read back. -/
theorem tryDeserializeUnchecked_accountData {Data : Type} (codec : Codec Data) (value : Data)
    (short : discriminator.length = 8) :
    tryDeserializeUnchecked codec (accountData discriminator (codec.encode value) len) =
      some value := by
  obtain ⟨rest, dropped⟩ := @accountData_drop _ (codec.encode value) len short
  rw [tryDeserializeUnchecked, dropped, codec.decode_encode]
  rfl

theorem tryDeserialize_accountData {Data : Type} (codec : Codec Data) (value : Data)
    (short : discriminator.length = 8) :
    tryDeserialize discriminator codec (accountData discriminator (codec.encode value) len) =
      some value := by
  rw [tryDeserialize, accountData_take short, if_pos rfl,
    tryDeserializeUnchecked_accountData codec value short]

/-- Data that begin with another discriminator are refused. -/
theorem tryDeserialize_eq_none {Data : Type} {codec : Codec Data} {other : Bytes}
    (short : discriminator.length = 8) (apart : discriminator ≠ other) :
    tryDeserialize other codec (accountData discriminator fields len) = none := by
  rw [tryDeserialize, accountData_take short, if_neg apart]

end AccountData

/-! ## The round trip -/

/-- What the program and its clients make of account data of the distributor with these
fields. -/
structure DistributorLaidOut (sha256 : Bytes → Hash) (data : MerkleDistributor)
    (buffers : Buffers) (bytes : Bytes) : Prop where
  isLen : bytes.length = MerkleDistributor.len
  readBack : MerkleDistributor.tryDeserialize sha256 bytes = some data
  withBuffers : tryDeserialize (accountDiscriminator sha256 "MerkleDistributor")
    distributorBorsh bytes = some (data, buffers)
  notStatus : ClaimStatus.tryDeserialize sha256 bytes = none

/-- The same for a claim status. -/
structure StatusLaidOut (sha256 : Bytes → Hash) (status : ClaimStatus) (bytes : Bytes) :
    Prop where
  isLen : bytes.length = ClaimStatus.len
  readBack : ClaimStatus.tryDeserialize sha256 bytes = some status
  notDistributor : MerkleDistributor.tryDeserialize sha256 bytes = none

theorem distributor_laidOut {sha256 : Bytes → Hash}
    (apart : accountDiscriminator sha256 "MerkleDistributor" ≠
      accountDiscriminator sha256 "ClaimStatus")
    (data : MerkleDistributor) (buffers : Buffers) :
    DistributorLaidOut sha256 data buffers
      (accountData (accountDiscriminator sha256 "MerkleDistributor")
        (distributorBorsh.encode (data, buffers)) MerkleDistributor.len) := by
  have short := accountDiscriminator_length sha256 "MerkleDistributor"
  refine ⟨?_, ?_, tryDeserialize_accountData distributorBorsh (data, buffers) short,
    tryDeserialize_eq_none short apart⟩
  · apply accountData_length
    rw [List.length_append, short, distributorBorsh_width]
    decide
  · rw [MerkleDistributor.tryDeserialize,
      tryDeserialize_accountData distributorBorsh (data, buffers) short]
    rfl

theorem status_laidOut {sha256 : Bytes → Hash}
    (apart : accountDiscriminator sha256 "MerkleDistributor" ≠
      accountDiscriminator sha256 "ClaimStatus")
    (status : ClaimStatus) :
    StatusLaidOut sha256 status
      (accountData (accountDiscriminator sha256 "ClaimStatus")
        (claimStatusBorsh.encode status) ClaimStatus.len) := by
  have short := accountDiscriminator_length sha256 "ClaimStatus"
  refine ⟨?_, tryDeserialize_accountData claimStatusBorsh status short, ?_⟩
  · apply accountData_length
    rw [List.length_append, short, claimStatusBorsh_width]
    decide
  · rw [MerkleDistributor.tryDeserialize, tryDeserialize_eq_none short (Ne.symm apart)]
    rfl

/-- Bytes are accepted exactly if they are the discriminator and the fields, whatever
follows. -/
theorem tryDeserialize_eq_some {Data : Type} {codec : Codec Data} {discriminator bytes : Bytes}
    {value : Data} (short : discriminator.length = 8) :
    tryDeserialize discriminator codec bytes = some value ↔
      ∃ rest, bytes = discriminator ++ codec.encode value ++ rest := by
  constructor
  · intro accepted
    rw [tryDeserialize] at accepted
    split at accepted
    case isFalse => cases accepted
    case isTrue named =>
      rw [tryDeserializeUnchecked, Option.map_eq_some_iff] at accepted
      obtain ⟨⟨_, rest⟩, decoded, rfl⟩ := accepted
      refine ⟨rest, ?_⟩
      rw [List.append_assoc, codec.encode_of_decode decoded, ← named, List.take_append_drop]
  · rintro ⟨rest, rfl⟩
    rw [tryDeserialize, List.append_assoc, List.take_left' short, if_pos rfl,
      tryDeserializeUnchecked, List.drop_left' short, codec.decode_encode]
    rfl

/-- Account data are a faithful image of the two kinds of accounts: what was written has the
allocated length, is read back as it was and refused as the other kind; what is accepted was
written so; and no two accounts have the same data. -/
structure RoundTrips (sha256 : Bytes → Hash) : Prop where
  distributor : ∀ data buffers, DistributorLaidOut sha256 data buffers
    (accountData (accountDiscriminator sha256 "MerkleDistributor")
      (distributorBorsh.encode (data, buffers)) MerkleDistributor.len)
  status : ∀ status, StatusLaidOut sha256 status
    (accountData (accountDiscriminator sha256 "ClaimStatus")
      (claimStatusBorsh.encode status) ClaimStatus.len)
  acceptedDistributor : ∀ bytes data,
    MerkleDistributor.tryDeserialize sha256 bytes = some data →
      ∃ buffers rest, bytes = accountDiscriminator sha256 "MerkleDistributor" ++
        distributorBorsh.encode (data, buffers) ++ rest
  acceptedStatus : ∀ bytes status, ClaimStatus.tryDeserialize sha256 bytes = some status →
    ∃ rest, bytes = accountDiscriminator sha256 "ClaimStatus" ++
      claimStatusBorsh.encode status ++ rest
  injective : ∀ (account other : Account) bytes, account.data sha256 = some bytes →
    other.data sha256 = some bytes → account = other

theorem accountLayout_roundTrips {sha256 : Bytes → Hash}
    (apart : accountDiscriminator sha256 "MerkleDistributor" ≠
      accountDiscriminator sha256 "ClaimStatus") : RoundTrips sha256 := by
  have distributors := distributor_laidOut apart
  have statuses := status_laidOut apart
  refine ⟨distributors, statuses, ?_, ?_, ?_⟩
  · intro bytes data accepted
    rw [MerkleDistributor.tryDeserialize, Option.map_eq_some_iff] at accepted
    obtain ⟨⟨_, buffers⟩, isRead, rfl⟩ := accepted
    exact ⟨buffers, (tryDeserialize_eq_some (accountDiscriminator_length sha256 _)).mp isRead⟩
  · intro bytes status accepted
    exact (tryDeserialize_eq_some (accountDiscriminator_length sha256 _)).mp accepted
  · intro account other bytes isData isOther
    cases account with
    | distributor data =>
        cases isData
        cases other with
        | distributor otherData =>
            have readBack := (distributors data .default).readBack
            have otherBack := (distributors otherData .default).readBack
            rw [Option.some.inj isOther, readBack, Option.some.injEq] at otherBack
            rw [otherBack]
        | claimStatus status =>
            have refused := (statuses status).notDistributor
            rw [Option.some.inj isOther, (distributors data .default).readBack] at refused
            cases refused
        | token => cases isOther
        | mint => cases isOther
    | claimStatus status =>
        cases isData
        cases other with
        | distributor data =>
            have refused := (distributors data .default).notStatus
            rw [Option.some.inj isOther, (statuses status).readBack] at refused
            cases refused
        | claimStatus otherStatus =>
            have readBack := (statuses otherStatus).readBack
            rw [Option.some.inj isOther, (statuses status).readBack, Option.some.injEq]
              at readBack
            rw [readBack]
        | token => cases isOther
        | mint => cases isOther
    | token => cases isData
    | mint => cases isData

/-- SHA-256 on the names of this table, and zero elsewhere. -/
def digests (table : List (String × Nat)) (input : Bytes) : Hash :=
  match table.find? fun entry => asciiBytes entry.1 = input with
  | some (_, digest) => .ofNat digest
  | none => .replicate 0

/-- SHA-256 on the names of the account types. -/
def accountDigests : Bytes → Hash :=
  digests
    [("account:MerkleDistributor",
        0x4d778b4654f70c1a15c42a6a1b081afe5dfe0b7dd43903b6033e4d352b5402bb),
      ("account:ClaimStatus",
        0x16b7f99df75f9660741c28c20193708f0e52e5a775ef5762584f76021ef69475)]

theorem accountLayout_roundTrips_sample : RoundTrips accountDigests :=
  accountLayout_roundTrips (by decide +kernel)

/-! ## Requests for accounts -/

/-- `listing` holds the accounts of the program, each once, with their data. -/
structure Listing (sha256 : Bytes → Hash) (bank : Bank) (listing : List (Pubkey × Bytes)) :
    Prop where
  once : (listing.map Prod.fst).Nodup
  complete : ∀ key data, (key, data) ∈ listing ↔
    ∃ account, bank key = some account ∧ account.data sha256 = some data

/-- The accounts of the program among these addresses, with their data. -/
def listingOf (sha256 : Bytes → Hash) (bank : Bank) (keys : List Pubkey) :
    List (Pubkey × Bytes) :=
  keys.filterMap fun key => do
    let account ← bank key
    let data ← account.data sha256
    pure (key, data)

theorem mem_listingOf {sha256 : Bytes → Hash} {bank : Bank} {keys : List Pubkey}
    {key : Pubkey} {data : Bytes} :
    (key, data) ∈ listingOf sha256 bank keys ↔
      key ∈ keys ∧ ∃ account, bank key = some account ∧ account.data sha256 = some data := by
  simp only [listingOf, List.mem_filterMap, Option.bind_eq_bind, Option.bind_eq_some_iff,
    Option.pure_def, Option.some.injEq, Prod.mk.injEq]
  constructor
  · rintro ⟨_, member, account, present, _, isData, rfl, rfl⟩
    exact ⟨member, account, present, isData⟩
  · rintro ⟨member, account, present, isData⟩
    exact ⟨key, member, account, present, data, isData, rfl, rfl⟩

/-- Addresses among which all accounts of the program are give a listing. -/
theorem listingOf_listing {sha256 : Bytes → Hash} {bank : Bank} {keys : List Pubkey}
    (once : keys.Nodup)
    (covers : ∀ key account, bank key = some account → account.data sha256 ≠ none →
      key ∈ keys) : Listing sha256 bank (listingOf sha256 bank keys) where
  once := by
    clear covers
    induction keys with
    | nil => exact List.nodup_nil
    | cons key keys inductionHypothesis =>
        obtain ⟨fresh, later⟩ := List.nodup_cons.mp once
        rw [listingOf, List.filterMap_cons]
        split
        case h_1 => exact inductionHypothesis later
        case h_2 item found =>
          have isKey : item.1 = key := by
            simp only [Option.bind_eq_bind, Option.bind_eq_some_iff, Option.pure_def,
              Option.some.injEq] at found
            obtain ⟨_, _, _, _, rfl⟩ := found
            rfl
          rw [List.map_cons, List.nodup_cons, isKey]
          refine ⟨fun again => ?_, inductionHypothesis later⟩
          obtain ⟨other, member, same⟩ := List.mem_map.mp again
          exact fresh (same ▸ (mem_listingOf.mp member).1)
  complete key data := by
    rw [mem_listingOf]
    constructor
    · exact fun listed => listed.2
    · rintro ⟨account, present, isData⟩
      refine ⟨covers key account present ?_, account, present, isData⟩
      rw [isData]
      exact Option.some_ne_none data

/-- The filters of `view_claim_status` and `process_close_claim_status`. -/
def closableFilters : List RpcFilterType :=
  [.dataSize ClaimStatus.len, .memcmp (8 + 32 + 8 + 8 + 8) [1]]

/-- The byte of the flag `closable`. -/
def closableByte (status : ClaimStatus) : UInt8 := if status.closable then 1 else 0

/-- The flag of a claim status lies where the filter looks. -/
theorem closableByte_at (sha256 : Bytes → Hash) (status : ClaimStatus) :
    ∃ front rest, front.length = 8 + 32 + 8 + 8 + 8 ∧
      accountData (accountDiscriminator sha256 "ClaimStatus")
        (claimStatusBorsh.encode status) ClaimStatus.len =
          front ++ closableByte status :: rest := by
  have encoded : claimStatusBorsh.encode status =
      bytes32.encode status.claimant ++ (u64.encode status.lockedAmount ++
        (u64.encode status.lockedAmountWithdrawn ++ (u64.encode status.unlockedAmount ++
          (closableByte status :: bytes32.encode status.admin)))) := rfl
  have frontLength : (accountDiscriminator sha256 "ClaimStatus" ++
      (bytes32.encode status.claimant ++ (u64.encode status.lockedAmount ++
        (u64.encode status.lockedAmountWithdrawn ++
          u64.encode status.unlockedAmount)))).length = 8 + 32 + 8 + 8 + 8 := by
    simp only [List.length_append, accountDiscriminator_length, bytes32_width _, u64_width _]
  refine ⟨_, bytes32.encode status.admin ++ List.replicate (ClaimStatus.len -
    (accountDiscriminator sha256 "ClaimStatus" ++ claimStatusBorsh.encode status).length) 0,
    frontLength, ?_⟩
  rw [accountData, encoded]
  simp only [List.append_assoc, List.cons_append]

/-- The filters, with the one that the client adds, accept the data of a claim status
exactly if it can be closed. -/
theorem closableFilters_status (sha256 : Bytes → Hash) (status : ClaimStatus) :
    (closableFilters ++ [RpcFilterType.memcmp 0 (accountDiscriminator sha256 "ClaimStatus")]).all
        (RpcFilterType.accepts (accountData (accountDiscriminator sha256 "ClaimStatus")
          (claimStatusBorsh.encode status) ClaimStatus.len)) = status.closable := by
  have short := accountDiscriminator_length sha256 "ClaimStatus"
  have isLen : (accountData (accountDiscriminator sha256 "ClaimStatus")
      (claimStatusBorsh.encode status) ClaimStatus.len).length = ClaimStatus.len := by
    apply accountData_length
    rw [List.length_append, short, claimStatusBorsh_width]
    decide
  have isNamed := @accountData_take _ (claimStatusBorsh.encode status) ClaimStatus.len short
  obtain ⟨front, rest, frontLength, laidOut⟩ := closableByte_at sha256 status
  rw [Bool.eq_iff_iff]
  simp only [closableFilters, List.cons_append, List.nil_append, List.all_cons, List.all_nil,
    RpcFilterType.accepts, isLen, short, List.drop_zero, isNamed, decide_true, Bool.true_and,
    beq_self_eq_true, Bool.and_true, Nat.zero_add, Bool.and_eq_true, decide_eq_true_eq]
  rw [laidOut, List.drop_left' frontLength]
  cases isClosable : status.closable <;>
    simp [closableByte, isClosable, ClaimStatus.len, sizeOf8]

/-- The data of a distributor are too long for the filters. -/
theorem closableFilters_distributor {bytes : Bytes}
    (isLen : bytes.length = MerkleDistributor.len) {others : List RpcFilterType} :
    (closableFilters ++ others).all (RpcFilterType.accepts bytes) = false := by
  have different : ¬ bytes.length = ClaimStatus.len := by
    rw [isLen]
    decide
  simp [closableFilters, RpcFilterType.accepts, different]

section Fetched

variable {sha256 : Bytes → Hash} {bank : Bank} {listing : List (Pubkey × Bytes)}

/-- The accounts of the listing that pass the filters. -/
def selectedAccounts (sha256 : Bytes → Hash) (listing : List (Pubkey × Bytes)) :
    List (Pubkey × Bytes) :=
  listing.filter fun account =>
    (closableFilters ++ [RpcFilterType.memcmp 0 (accountDiscriminator sha256 "ClaimStatus")]).all
      (RpcFilterType.accepts account.2)

theorem mem_selectedAccounts (listed : Listing sha256 bank listing) {key : Pubkey}
    {bytes : Bytes} :
    (key, bytes) ∈ selectedAccounts sha256 listing ↔
      ∃ status, bank key = some (.claimStatus status) ∧ status.closable = true ∧
        bytes = accountData (accountDiscriminator sha256 "ClaimStatus")
          (claimStatusBorsh.encode status) ClaimStatus.len := by
  rw [selectedAccounts, List.mem_filter, listed.complete]
  constructor
  · rintro ⟨⟨account, present, isData⟩, accepted⟩
    cases account with
    | distributor data =>
        rw [Account.data, Option.some.injEq] at isData
        subst isData
        rw [closableFilters_distributor] at accepted
        · cases accepted
        · apply accountData_length
          rw [List.length_append, accountDiscriminator_length, distributorBorsh_width]
          decide
    | claimStatus status =>
        rw [Account.data, Option.some.injEq] at isData
        subst isData
        rw [closableFilters_status] at accepted
        exact ⟨status, present, accepted, rfl⟩
    | token data => cases isData
    | mint => cases isData
  · rintro ⟨status, present, isClosable, rfl⟩
    exact ⟨⟨_, present, rfl⟩, (closableFilters_status sha256 status).trans isClosable⟩

/-- What the commands fetch: every claim status that can be closed, once and with its
contents, and nothing else. -/
structure ClosableFetched (bank : Bank) (fetched : List (Pubkey × ClaimStatus)) : Prop where
  once : (fetched.map Prod.fst).Nodup
  exact : ∀ key status, (key, status) ∈ fetched ↔
    bank key = some (.claimStatus status) ∧ status.closable = true

theorem closable_accountsOf (listed : Listing sha256 bank listing) :
    ∃ fetched, accountsOf (accountDiscriminator sha256 "ClaimStatus") claimStatusBorsh
        closableFilters listing = .ok fetched ∧ ClosableFetched bank fetched := by
  have short := accountDiscriminator_length sha256 "ClaimStatus"
  have turns : ∀ account ∈ selectedAccounts sha256 listing, ∃ result,
      (do
        let data ← okOr (tryDeserializeUnchecked claimStatusBorsh account.2) ()
        pure (account.1, data)) = .ok result ∧
      (result.1 = account.1 ∧ bank result.1 = some (.claimStatus result.2) ∧
        result.2.closable = true) := by
    rintro ⟨key, bytes⟩ isSelected
    obtain ⟨status, present, isClosable, rfl⟩ := (mem_selectedAccounts listed).mp isSelected
    refine ⟨(key, status), ?_, rfl, present, isClosable⟩
    rw [tryDeserializeUnchecked_accountData claimStatusBorsh status short]
    rfl
  obtain ⟨fetched, returned, related, origins⟩ := exists_mapM turns
  have sameKeys : (selectedAccounts sha256 listing).map Prod.fst = fetched.map Prod.fst := by
    rw [← List.forall₂_eq_eq_eq, List.forall₂_map_left_iff, List.forall₂_map_right_iff]
    exact related.imp fun account result holds => holds.1.symm
  refine ⟨fetched, returned, ?_, ?_⟩
  · rw [← sameKeys]
    exact listed.once.sublist (List.filter_sublist.map Prod.fst)
  · intro key status
    constructor
    · intro member
      obtain ⟨account, -, -, found⟩ := origins _ member
      exact found
    · rintro ⟨present, isClosable⟩
      have isSelected := (mem_selectedAccounts listed).mpr ⟨status, present, isClosable, rfl⟩
      have isKey : key ∈ fetched.map Prod.fst := by
        rw [← sameKeys]
        exact List.mem_map_of_mem isSelected
      obtain ⟨⟨_, other⟩, member, rfl⟩ := List.mem_map.mp isKey
      obtain ⟨account, -, -, found, -⟩ := origins _ member
      have same := present.symm.trans found
      rw [Option.some.injEq, Account.claimStatus.injEq] at same
      rwa [same]

end Fetched

end Airdrop
