/-
Module: Airdrop.Core.Base58
Purpose: The base58 text of 32-byte keys, written and read; only the text that is
  written for a key is read as the key.
Trusted boundary: follows the format of the `bs58` crate, whose source is not here
Main exports: Base58.encode, Base58.decode, decode_encode, decode_eq_some
-/
import Airdrop.Core.Bytes
import Mathlib.Data.Nat.Digits.Defs

namespace Airdrop

namespace Base58

/-- The digits, without those that look alike. -/
def alphabet : List Char :=
  "123456789ABCDEFGHJKLMNPQRSTUVWXYZabcdefghijkmnopqrstuvwxyz".toList

def digitChar (digit : Nat) : Char := alphabet.getD digit '1'

def digitOf (char : Char) : Option Nat := alphabet.idxOf? char

/-- A key read as a number, first byte highest. -/
def number (key : Bytes32) : Nat :=
  Nat.ofDigits 256 (key.toBytes.reverse.map UInt8.toNat)

/-- The text of a key: a `1` for each zero byte in front, then the digits of the
number. -/
def encode (key : Bytes32) : String :=
  let zeros := key.toBytes.takeWhile (· = 0)
  let digits := (Nat.digits 58 (number key)).reverse
  String.ofList (zeros.map (fun _ => digitChar 0) ++ digits.map digitChar)

/-- The key of a text, where it is the text of a key. -/
def decode (text : String) : Option Bytes32 := do
  let digits ← text.toList.mapM digitOf
  let key := Bytes32.ofNat (Nat.ofDigits 58 digits.reverse)
  if encode key = text then some key else none

theorem leBytes_ofDigits (bytes : Bytes) :
    leBytes bytes.length (Nat.ofDigits 256 (bytes.map UInt8.toNat)) = bytes := by
  induction bytes with
  | nil => rfl
  | cons byte bytes inductionHypothesis =>
      have bound := byte.toNat_lt
      have rest : (byte.toNat + 256 * Nat.ofDigits 256 (bytes.map UInt8.toNat)) / 256 =
          Nat.ofDigits 256 (bytes.map UInt8.toNat) := by
        omega
      rw [List.length_cons, List.map_cons, Nat.ofDigits_cons, leBytes, rest,
        inductionHypothesis]
      congr 1
      rw [← UInt8.toNat_inj, UInt8.toNat_ofNat']
      omega

theorem ofNat_number (key : Bytes32) : Bytes32.ofNat (number key) = key := by
  apply Bytes32.ext
  have whole := leBytes_ofDigits key.toBytes.reverse
  rw [List.length_reverse, key.length_eq] at whole
  change (leBytes 32 (number key)).reverse = key.toBytes
  rw [number, whole, List.reverse_reverse]

theorem digitOf_digitChar {digit : Nat} (small : digit < 58) :
    digitOf (digitChar digit) = some digit := by
  have all : ∀ digit < 58, digitOf (digitChar digit) = some digit := by decide
  exact all digit small

theorem mapM_digitOf {digits : List Nat} (small : ∀ digit ∈ digits, digit < 58) :
    (digits.map digitChar).mapM digitOf = some digits := by
  induction digits with
  | nil => rfl
  | cons digit digits inductionHypothesis =>
      rw [List.forall_mem_cons] at small
      rw [List.map_cons, List.mapM_cons, digitOf_digitChar small.1,
        inductionHypothesis small.2]
      rfl

/-- Reading a written key gives the key back. -/
theorem decode_encode (key : Bytes32) : decode (encode key) = some key := by
  have small : ∀ digit ∈ (key.toBytes.takeWhile (· = 0)).map (fun _ => 0) ++
      (Nat.digits 58 (number key)).reverse, digit < 58 := by
    intro digit member
    rcases List.mem_append.mp member with zero | member
    · obtain ⟨_, _, rfl⟩ := List.mem_map.mp zero
      decide
    · exact Nat.digits_lt_base (by decide) (List.mem_reverse.mp member)
  have read := mapM_digitOf small
  have value : Nat.ofDigits 58 ((key.toBytes.takeWhile (· = 0)).map (fun _ => 0) ++
      (Nat.digits 58 (number key)).reverse).reverse = number key := by
    rw [List.reverse_append, List.reverse_reverse, Nat.ofDigits_append,
      Nat.ofDigits_digits, List.map_const', List.reverse_replicate,
      Nat.ofDigits_replicate_zero]
    rfl
  rw [List.map_append, List.map_map] at read
  have chars : (encode key).toList.mapM digitOf = some
      ((key.toBytes.takeWhile (· = 0)).map (fun _ => 0) ++
        (Nat.digits 58 (number key)).reverse) := by
    rw [encode, String.toList_ofList]
    exact read
  rw [decode, chars, Option.bind_eq_bind, Option.bind_some, value, ofNat_number]
  exact if_pos rfl

/-- Only the text that is written for a key is read as the key. -/
theorem decode_eq_some {text : String} {key : Bytes32}
    (read : decode text = some key) : encode key = text := by
  rw [decode, Option.bind_eq_bind, Option.bind_eq_some_iff] at read
  obtain ⟨digits, _, checked⟩ := read
  dsimp only at checked
  split at checked
  · rename_i same
    exact Option.some.inj checked ▸ same
  · cases checked

example : encode (.replicate 9) = "cGfHiC6Kgg3FpFZvgwGcswsCRtp4aBP2fzuXRQPizuN" := by
  decide +kernel

end Base58

end Airdrop
