/-
Module: Airdrop.Core.Bytes
Purpose: The fixed-width data of the source (`u64`, `u128`, `[u8; 32]`), its byte
  encodings, and `hashv` over a hash function left open.
Trusted boundary: SHA-256 itself, taken as the parameter `sha256`
Main exports: U64, U128, Bytes32, toLeBytes, hashv, NoCollision
-/
import Mathlib.Algebra.Group.Nat.Defs
import Mathlib.Data.List.Lex
import Mathlib.Tactic.Common

namespace Airdrop

abbrev U64 := BitVec 64
abbrev U128 := BitVec 128
abbrev Bytes := List UInt8

/-- The cast `as u128` of a `u64`. -/
def U64.toU128 (value : U64) : U128 := value.setWidth 128

/-- The cast `as u64` of a `u128`, which drops the upper half. -/
def U128.toU64 (value : U128) : U64 := value.setWidth 64

@[simp] theorem U64.toNat_toU128 (value : U64) :
    (U64.toU128 value).toNat = value.toNat :=
  BitVec.toNat_setWidth_of_le (by decide)

@[simp] theorem U128.toNat_toU64 (value : U128) :
    (U128.toU64 value).toNat = value.toNat % 2 ^ 64 := by
  rw [U128.toU64, BitVec.toNat_setWidth]

/-- The cast `as u64` of an `i64`, which keeps the bits. -/
def I64.toU64 (value : Int64) : U64 := value.toBitVec

/-- The cast `as u128` of an `i64`, which extends the sign. -/
def I64.toU128 (value : Int64) : U128 := value.toBitVec.signExtend 128

theorem I64.msb_eq_false {value : Int64} (nonnegative : 0 ≤ value.toInt) :
    value.toBitVec.msb = false := by
  rw [← Bool.not_eq_true]
  intro negative
  have below := BitVec.toInt_neg_of_msb_true negative
  change value.toInt < 0 at below
  omega

theorem I64.toNat_toU64 {value : Int64} (nonnegative : 0 ≤ value.toInt) :
    ((I64.toU64 value).toNat : Int) = value.toInt :=
  (BitVec.toInt_eq_toNat_of_msb (I64.msb_eq_false nonnegative)).symm

theorem I64.toNat_toU128 {value : Int64} (nonnegative : 0 ≤ value.toInt) :
    ((I64.toU128 value).toNat : Int) = value.toInt := by
  rw [← I64.toNat_toU64 nonnegative, I64.toU128, I64.toU64,
    BitVec.signExtend_eq_setWidth_of_msb_false (I64.msb_eq_false nonnegative),
    BitVec.toNat_setWidth_of_le (by decide)]

/-- `[u8; 32]`: the contents of a `Hash` and of a `Pubkey`. -/
structure Bytes32 where
  toBytes : Bytes
  length_eq : toBytes.length = 32
deriving DecidableEq

abbrev Hash := Bytes32
abbrev Pubkey := Bytes32

namespace Bytes32

@[ext] theorem ext {a b : Bytes32} (same : a.toBytes = b.toBytes) : a = b := by
  cases a
  cases b
  cases same
  rfl

/-- The array with the same byte everywhere. -/
def replicate (byte : UInt8) : Bytes32 :=
  ⟨List.replicate 32 byte, List.length_replicate⟩

/-- Byte values in the order of the array, the key of its comparison. -/
def lexKey (a : Bytes32) : List Nat := a.toBytes.map UInt8.toNat

theorem lexKey_injective : Function.Injective lexKey := by
  intro a b same
  have bytesSame : a.toBytes = b.toBytes :=
    List.map_injective_iff.mpr (fun _ _ => UInt8.toNat_inj.mp) same
  exact ext bytesSame

/-- Arrays compare lexicographically by byte value, as in Rust. -/
instance : LinearOrder Bytes32 := LinearOrder.lift' lexKey lexKey_injective

end Bytes32

/-! ## Little-endian encoding -/

/-- The `width` lowest bytes of a number, lowest first. -/
def leBytes : Nat → Nat → Bytes
  | 0, _ => []
  | width + 1, value => UInt8.ofNat value :: leBytes width (value / 256)

@[simp] theorem leBytes_length (width value : Nat) :
    (leBytes width value).length = width := by
  induction width generalizing value with
  | zero => rfl
  | succ width inductionHypothesis => simp [leBytes, inductionHypothesis]

theorem leBytes_inj {width : Nat} {a b : Nat} (aBound : a < 256 ^ width)
    (bBound : b < 256 ^ width) (same : leBytes width a = leBytes width b) :
    a = b := by
  induction width generalizing a b with
  | zero => simp_all
  | succ width inductionHypothesis =>
      simp only [leBytes, List.cons.injEq] at same
      have low : a % 256 = b % 256 := by
        simpa using congrArg UInt8.toNat same.1
      have high : a / 256 = b / 256 := by
        apply inductionHypothesis _ _ same.2 <;>
          rw [Nat.div_lt_iff_lt_mul (by decide), ← Nat.pow_succ] <;>
          assumption
      rw [← Nat.div_add_mod a 256, ← Nat.div_add_mod b 256, low, high]

/-- The array that holds a number in big-endian order, as digests are printed. -/
def Bytes32.ofNat (number : Nat) : Bytes32 :=
  ⟨(leBytes 32 number).reverse, by simp⟩

/-- `u64::to_le_bytes`. -/
def toLeBytes (value : U64) : Bytes := leBytes 8 value.toNat

@[simp] theorem toLeBytes_length (value : U64) :
    (toLeBytes value).length = 8 := leBytes_length 8 value.toNat

theorem toLeBytes_inj {a b : U64} (same : toLeBytes a = toLeBytes b) :
    a = b :=
  BitVec.eq_of_toNat_eq (leBytes_inj a.isLt b.isLt same)

/-! ## Hashing -/

/-- `hashv`: the hash of the concatenated parts. -/
def hashv (sha256 : Bytes → Hash) (parts : List Bytes) : Hash :=
  sha256 parts.flatten

/-- The hash has no collision among the listed inputs. -/
def NoCollision (sha256 : Bytes → Hash) (inputs : List Bytes) : Prop :=
  ∀ first ∈ inputs, ∀ second ∈ inputs,
    sha256 first = sha256 second → first = second

instance (sha256 : Bytes → Hash) (inputs : List Bytes) :
    Decidable (NoCollision sha256 inputs) :=
  inferInstanceAs (Decidable (∀ first ∈ inputs, ∀ second ∈ inputs,
    sha256 first = sha256 second → first = second))

theorem NoCollision.mono {sha256 : Bytes → Hash} {large small : List Bytes}
    (none : NoCollision sha256 large) (subset : small ⊆ large) :
    NoCollision sha256 small :=
  fun first firstMember second secondMember same =>
    none first (subset firstMember) second (subset secondMember) same

end Airdrop
