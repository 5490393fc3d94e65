/-
Module: Airdrop.Proofs.WireFormat
Purpose: What the program reads is what clients write: the dispatch returns an instruction
  exactly for the data and the accounts that are written for it, whatever follows them.
Trusted boundary: none
Main exports: readWith_eq_some, DistinctSighashes, dispatch_eq_some_iff
-/
import Airdrop.Proofs.AccountFootprints
import Airdrop.Proofs.Layouts

namespace Airdrop

open Borsh Checked Codec

/-! ## Accounts -/

theorem fitsContext_keys {expected passed : List AccountMeta}
    (fits : fitsContext expected passed = true) :
    ∃ more, passed.map AccountMeta.pubkey = expected.map AccountMeta.pubkey ++ more := by
  induction expected generalizing passed with
  | nil => exact ⟨_, rfl⟩
  | cons head tail inductionHypothesis =>
      cases passed with
      | nil => cases fits
      | cons first rest =>
          simp only [fitsContext, Bool.and_eq_true, decide_eq_true_eq] at fits
          obtain ⟨more, same⟩ := inductionHypothesis fits.2
          exact ⟨more, by rw [List.map_cons, List.map_cons, same, fits.1.1, List.cons_append]⟩

/-! ## Reading one instruction -/

section ReadWith

variable {Args Accounts : Type} {args : Codec Args} {ofKeys : List Pubkey → Option Accounts}
variable {toAccountMetas : Accounts → List AccountMeta}
variable {instruction : Accounts → Args → Instruction} {passed : List AccountMeta}
variable {data : Bytes} {result : Instruction}

/-- The positions of the accounts are those in which they are written. -/
def Positioned (ofKeys : List Pubkey → Option Accounts)
    (toAccountMetas : Accounts → List AccountMeta) : Prop :=
  ∀ accounts more,
    ofKeys ((toAccountMetas accounts).map AccountMeta.pubkey ++ more) = some accounts

/-- An instruction is read exactly from its arguments, with accounts that fit it. -/
theorem readWith_eq_some (positioned : Positioned ofKeys toAccountMetas) :
    readWith args ofKeys toAccountMetas instruction passed data = some result ↔
      ∃ accounts value rest, result = instruction accounts value ∧
        fitsContext (toAccountMetas accounts) passed = true ∧
        data = args.encode value ++ rest := by
  simp only [readWith, Option.bind_eq_bind, Option.bind_eq_some_iff]
  constructor
  · rintro ⟨⟨value, rest⟩, decoded, accounts, isRead, checked⟩
    split at checked
    case isFalse => cases checked
    case isTrue fits =>
      cases checked
      exact ⟨accounts, value, rest, rfl, fits, (args.encode_of_decode decoded).symm⟩
  · rintro ⟨accounts, value, rest, rfl, fits, rfl⟩
    obtain ⟨more, keys⟩ := fitsContext_keys fits
    refine ⟨(value, rest), args.decode_encode value rest, accounts, ?_, ?_⟩
    · rw [keys]
      exact positioned accounts more
    · rw [if_pos fits]
      rfl

end ReadWith

/-! ## The dispatch -/

theorem sighash_length (sha256 : Bytes → Hash) (name : String) :
    (sighash sha256 name).length = 8 := by
  rw [sighash, List.length_take, Bytes32.length_eq]
  rfl

/-- No two instructions have the same discriminator. -/
def DistinctSighashes (sha256 : Bytes → Hash) (programs : Programs) : Prop :=
  ((readers programs).map fun reader => sighash sha256 reader.1).Nodup

instance (sha256 : Bytes → Hash) (programs : Programs) :
    Decidable (DistinctSighashes sha256 programs) :=
  inferInstanceAs (Decidable (List.Nodup _))

/-- Where all keys are distinct, the search for a key finds the item that has it. -/
theorem find?_key_eq_some {Item Key : Type} [DecidableEq Key] {key : Item → Key}
    {items : List Item} (distinct : (items.map key).Nodup) {wanted : Key} {found : Item} :
    items.find? (fun item => key item = wanted) = some found ↔
      found ∈ items ∧ key found = wanted := by
  induction items with
  | nil => simp
  | cons head tail inductionHypothesis =>
      rw [List.map_cons, List.nodup_cons] at distinct
      by_cases here : key head = wanted
      · rw [List.find?_cons_of_pos (by simpa using here), Option.some.injEq]
        constructor
        · rintro rfl
          exact ⟨List.mem_cons_self, here⟩
        · rintro ⟨member, same⟩
          rcases List.mem_cons.mp member with rfl | later
          · rfl
          · have again : key head ∈ tail.map key := by
              rw [here, ← same]
              exact List.mem_map_of_mem later
            exact absurd again distinct.1
      · rw [List.find?_cons_of_neg (by simpa using here), inductionHypothesis distinct.2]
        constructor
        · rintro ⟨member, same⟩
          exact ⟨List.mem_cons_of_mem head member, same⟩
        · rintro ⟨member, same⟩
          rcases List.mem_cons.mp member with rfl | later
          · exact absurd same here
          · exact ⟨later, same⟩

section Dispatch

variable {sha256 : Bytes → Hash} {programs : Programs} {passed : List AccountMeta}
variable {data : Bytes} {result : Instruction}

theorem dispatch_eq_some (distinct : DistinctSighashes sha256 programs) :
    dispatch programs sha256 passed data = some result ↔
      ∃ reader ∈ readers programs, sighash sha256 reader.1 = data.take 8 ∧
        reader.2 passed (data.drop 8) = some result := by
  simp only [dispatch, Option.bind_eq_bind, Option.bind_eq_some_iff,
    find?_key_eq_some distinct]
  constructor
  · rintro ⟨reader, ⟨member, begins⟩, reads⟩
    exact ⟨reader, member, begins, reads⟩
  · rintro ⟨reader, member, begins, reads⟩
    exact ⟨reader, ⟨member, begins⟩, reads⟩

/-- The data and the accounts are those written for an instruction with this name, followed
by anything. -/
def WrittenAs (sha256 : Bytes → Hash) {Args Accounts : Type} (name : String)
    (args : Codec Args) (toAccountMetas : Accounts → List AccountMeta)
    (instruction : Accounts → Args → Instruction) (passed : List AccountMeta) (data : Bytes)
    (result : Instruction) : Prop :=
  ∃ accounts value rest, result = instruction accounts value ∧
    fitsContext (toAccountMetas accounts) passed = true ∧
    data = sighash sha256 name ++ args.encode value ++ rest

/-- A reader reads what is written as its instruction. -/
theorem reader_iff {Args Accounts : Type} {args : Codec Args}
    {ofKeys : List Pubkey → Option Accounts} {toAccountMetas : Accounts → List AccountMeta}
    {instruction : Accounts → Args → Instruction} {name : String}
    (positioned : Positioned ofKeys toAccountMetas) :
    sighash sha256 name = data.take 8 ∧
        readWith args ofKeys toAccountMetas instruction passed (data.drop 8) = some result ↔
      WrittenAs sha256 name args toAccountMetas instruction passed data result := by
  rw [readWith_eq_some positioned, WrittenAs]
  constructor
  · rintro ⟨begins, accounts, value, rest, isResult, fits, follows⟩
    refine ⟨accounts, value, rest, isResult, fits, ?_⟩
    rw [begins, List.append_assoc, ← follows, List.take_append_drop]
  · rintro ⟨accounts, value, rest, isResult, fits, rfl⟩
    have short := sighash_length sha256 name
    rw [List.append_assoc, List.take_left' short, List.drop_left' short]
    exact ⟨rfl, accounts, value, rest, isResult, fits, rfl⟩

/-- An instruction that is made of its accounts and arguments alone. -/
theorem writtenAs_iff {Args Accounts : Type} (args : Codec Args)
    {toAccountMetas : Accounts → List AccountMeta}
    {instruction : Accounts → Args → Instruction} {name : String} (accounts : Accounts)
    (value : Args)
    (unique : ∀ other otherValue, instruction accounts value = instruction other otherValue →
      other = accounts ∧ otherValue = value) :
    WrittenAs sha256 name args toAccountMetas instruction passed data
        (instruction accounts value) ↔
      (∃ written rest, some (sighash sha256 name ++ args.encode value) = some written ∧
          data = written ++ rest) ∧
        fitsContext (toAccountMetas accounts) passed = true := by
  constructor
  · rintro ⟨other, otherValue, rest, same, fits, rfl⟩
    obtain ⟨rfl, rfl⟩ := unique other otherValue same
    exact ⟨⟨_, rest, rfl, rfl⟩, fits⟩
  · rintro ⟨⟨_, rest, ⟨rfl⟩, rfl⟩, fits⟩
    exact ⟨accounts, value, rest, rfl, fits, rfl⟩

/-- An instruction without arguments. -/
theorem writtenAs_unit {Accounts : Type} {toAccountMetas : Accounts → List AccountMeta}
    {instruction : Accounts → Instruction} {name : String} (accounts : Accounts)
    (unique : Function.Injective instruction) :
    WrittenAs sha256 name .unit toAccountMetas (fun accounts _ => instruction accounts) passed
        data (instruction accounts) ↔
      (∃ written rest, some (sighash sha256 name) = some written ∧ data = written ++ rest) ∧
        fitsContext (toAccountMetas accounts) passed = true := by
  have written : sighash sha256 name ++ Codec.unit.encode () = sighash sha256 name :=
    List.append_nil _
  rw [← written]
  exact writtenAs_iff _ accounts () fun other _ same => ⟨(unique same).symm, rfl⟩

/-- No data are written for an instruction under another name. -/
theorem not_writtenAs {Args Accounts : Type} {args : Codec Args}
    {toAccountMetas : Accounts → List AccountMeta}
    {instruction : Accounts → Args → Instruction} {name : String}
    (other : ∀ accounts value, result ≠ instruction accounts value) :
    ¬ WrittenAs sha256 name args toAccountMetas instruction passed data result := by
  rintro ⟨accounts, value, rest, same, -, -⟩
  exact other accounts value same

end Dispatch

/-- SHA-256 on the names of the instructions. -/
def instructionDigests : Bytes → Hash :=
  digests
    [("global:new_distributor",
        0x208b70ab0002e19beda713628d915cb5834e743c551f927dd33c4f2f11c6c812),
      ("global:new_distributor2",
        0x455b22f770b215fb0cc009c26401beb5b950edccb1f3b84e581fcf73eb46d223),
      ("global:close_distributor",
        0xca38b48f2e686a70327f79bfa47583edb02cdd990117da8028fc279458e66bfd),
      ("global:close_claim_status",
        0xa3d6bfa5f5bc11b9793c0f1a805f8035f52554e57320f3c647c7ee6303fc0857),
      ("global:set_activation_point",
        0x5bf90fa51a81fe7de11f9bf0697a197bb45ca8ed2ad90820fee02e6f268e115c),
      ("global:new_claim",
        0x4eb1627bd215bb53d1e179ef5ed15aa331d1b858af78000c71ce38e716a6ed47),
      ("global:claim_locked",
        0x22ceb5170bcf935a991e6f2fc01d89a6739dc7174581987a0819227bc93c39b8),
      ("global:clawback",
        0x6f5c8e4f21ea521b6a85ac326981def093e8bf318164f69a8796a17d68218044),
      ("global:set_clawback_receiver",
        0x99d92214131de54be9f7986d76b2d3c6ba8d6a60e2c95fcf4fdc74a7ef0294d3),
      ("global:set_admin",
        0xfba300345bc2bb5c2276288ddbfa511b9bd5ebf5fff5ed1dc5f30fa0fff3fe70)]

end Airdrop
