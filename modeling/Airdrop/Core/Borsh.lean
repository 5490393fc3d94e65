/-
Module: Airdrop.Core.Borsh
Purpose: The Borsh encoding of the types that account data and instruction arguments are
  made of: integers, flags, keys and vectors of hashes.
Trusted boundary: none
Main exports: ofLeBytes, Borsh.u8, Borsh.bool, Borsh.u64, Borsh.i64, Borsh.bytes32,
  Borsh.vecBytes32
-/
import Airdrop.Core.Bytes
import Airdrop.Library.Codec

namespace Airdrop

/-! ## Little-endian numbers -/

/-- The number that the bytes are the little-endian encoding of. -/
def ofLeBytes : Bytes → Nat
  | [] => 0
  | byte :: bytes => byte.toNat + 256 * ofLeBytes bytes

theorem ofLeBytes_lt (bytes : Bytes) : ofLeBytes bytes < 256 ^ bytes.length := by
  induction bytes with
  | nil => simp [ofLeBytes]
  | cons byte bytes inductionHypothesis =>
      have low : byte.toNat < 256 := byte.toNat_lt
      rw [ofLeBytes, List.length_cons, Nat.pow_succ]
      omega

theorem ofLeBytes_leBytes {width value : Nat} (fits : value < 256 ^ width) :
    ofLeBytes (leBytes width value) = value := by
  induction width generalizing value with
  | zero => simp_all [leBytes, ofLeBytes]
  | succ width inductionHypothesis =>
      have high : value / 256 < 256 ^ width := by
        rwa [Nat.div_lt_iff_lt_mul (by decide), ← Nat.pow_succ]
      rw [leBytes, ofLeBytes, inductionHypothesis high]
      simp only [UInt8.toNat_ofNat']
      omega

theorem leBytes_ofLeBytes (bytes : Bytes) :
    leBytes bytes.length (ofLeBytes bytes) = bytes := by
  induction bytes with
  | nil => rfl
  | cons byte bytes inductionHypothesis =>
      have low : byte.toNat < 256 := byte.toNat_lt
      have quotient : (byte.toNat + 256 * ofLeBytes bytes) / 256 = ofLeBytes bytes := by omega
      rw [List.length_cons, ofLeBytes, leBytes, quotient, inductionHypothesis]
      congr 1
      rw [← UInt8.toNat_inj, UInt8.toNat_ofNat']
      omega

/-- The numbers of a given width and their encodings. -/
def leBytesEquiv (width bound : Nat) (isBound : bound = 256 ^ width) :
    Fin bound ≃ { bytes : Bytes // bytes.length = width } where
  toFun value := ⟨leBytes width value, leBytes_length width value⟩
  invFun bytes := ⟨ofLeBytes bytes.1, by
    have below := ofLeBytes_lt bytes.1
    rwa [bytes.2, ← isBound] at below⟩
  left_inv value := Fin.ext (ofLeBytes_leBytes (isBound ▸ value.isLt))
  right_inv := by
    rintro ⟨bytes, rfl⟩
    exact Subtype.ext (leBytes_ofLeBytes bytes)

namespace Borsh

open Codec

/-! ## Types -/

def u8 : Codec UInt8 := byte

/-- The values of the byte of a `bool`. -/
def boolOfByte (byte : UInt8) : Option Bool :=
  if byte = 0 then some false else if byte = 1 then some true else none

theorem boolOfByte_eq_some {byte : UInt8} {value : Bool}
    (accepted : boolOfByte byte = some value) : (if value then 1 else 0) = byte := by
  unfold boolOfByte at accepted
  split at accepted
  · rename_i zero
    cases accepted
    exact zero.symm
  · split at accepted
    · rename_i one
      cases accepted
      exact one.symm
    · cases accepted

def bool : Codec Bool :=
  byte.narrow (fun value => if value then 1 else 0) boolOfByte (by decide) boolOfByte_eq_some

def u64 : Codec U64 :=
  (byte.repeated 8).through
    ((⟨BitVec.toFin, BitVec.ofFin, fun _ => rfl, fun _ => rfl⟩ : U64 ≃ Fin (2 ^ 64)).trans
      (leBytesEquiv 8 (2 ^ 64) (by decide)))

/-- `i64`, as the `u64` with the same bits. -/
def i64 : Codec Int64 :=
  u64.through ⟨Int64.toBitVec, Int64.ofBitVec, fun _ => rfl, fun _ => rfl⟩

/-- `[u8; 32]`, which is also the encoding of a key. -/
def bytes32 : Codec Bytes32 :=
  (byte.repeated 32).through
    ⟨fun value => ⟨value.toBytes, value.length_eq⟩, fun bytes => ⟨bytes.1, bytes.2⟩,
      fun _ => rfl, fun _ => rfl⟩

/-- The `u32` in front of a vector. -/
def count : Codec (Fin (2 ^ 32)) :=
  (byte.repeated 4).through (leBytesEquiv 4 (2 ^ 32) (by decide))

/-- `Vec<[u8; 32]>`, which has to be shorter than `2 ^ 32`. -/
def vecBytes32 : Codec { proof : List Bytes32 // proof.length < 2 ^ 32 } :=
  bytes32.counted count

/-! ## Widths -/

theorem u8_width : u8.HasWidth 1 := hasWidth_byte

theorem bool_width : bool.HasWidth 1 := fun _ => rfl

theorem u64_width : u64.HasWidth 8 := (hasWidth_byte.repeated 8).through _

theorem i64_width : i64.HasWidth 8 := u64_width.through _

theorem bytes32_width : bytes32.HasWidth 32 := (hasWidth_byte.repeated 32).through _

end Borsh

end Airdrop
