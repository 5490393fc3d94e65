/-
Module: Airdrop.Library.Codec
Purpose: Binary formats as pairs of a writer and a reader that undo each other, and the
  ways to build larger ones from smaller ones.
Trusted boundary: none
Main exports: Codec, Codec.encode_append_inj, Codec.unit, Codec.byte, Codec.narrow,
  Codec.through, Codec.pair, Codec.repeated, Codec.counted, Codec.HasWidth
-/
import Mathlib.Logic.Equiv.Defs
import Mathlib.Tactic.Common

/-- A binary format.  What is written is read back, whatever follows it; and only what the
writer writes is read. -/
structure Codec (Value : Type) where
  encode : Value → List UInt8
  decode : List UInt8 → Option (Value × List UInt8)
  decode_encode : ∀ value rest, decode (encode value ++ rest) = some (value, rest)
  encode_of_decode : ∀ {bytes value rest}, decode bytes = some (value, rest) →
    encode value ++ rest = bytes

namespace Codec

variable {Value Other Item : Type}

section Laws

variable (codec : Codec Value) {value other : Value} {rest otherRest : List UInt8}

@[simp] theorem decode_encode_self (value : Value) :
    codec.decode (codec.encode value) = some (value, []) := by
  have read := codec.decode_encode value []
  rwa [List.append_nil] at read

/-- No encoding starts with the encoding of another value. -/
theorem encode_append_inj
    (same : codec.encode value ++ rest = codec.encode other ++ otherRest) :
    value = other ∧ rest = otherRest := by
  have read := codec.decode_encode value rest
  rw [same, codec.decode_encode, Option.some.injEq, Prod.mk.injEq] at read
  exact ⟨read.1.symm, read.2.symm⟩

/-- All values are written in this many bytes. -/
def HasWidth (codec : Codec Value) (width : Nat) : Prop :=
  ∀ value, (codec.encode value).length = width

end Laws

/-! ## Building formats -/

/-- Nothing is written. -/
def unit : Codec Unit where
  encode _ := []
  decode bytes := some ((), bytes)
  decode_encode _ _ := rfl
  encode_of_decode read := by
    rw [Option.some.injEq, Prod.mk.injEq] at read
    exact read.2.symm

/-- A single byte. -/
def byte : Codec UInt8 where
  encode value := [value]
  decode
    | [] => none
    | value :: rest => some (value, rest)
  decode_encode _ _ := rfl
  encode_of_decode {bytes _ _} read := by
    cases bytes with
    | nil => cases read
    | cons head tail =>
        rw [Option.some.injEq, Prod.mk.injEq] at read
        rw [← read.1, ← read.2]
        rfl

/-- A format for those values of another one that `read` accepts. -/
def narrow (codec : Codec Other) (write : Value → Other) (read : Other → Option Value)
    (read_write : ∀ value, read (write value) = some value)
    (write_read : ∀ {other value}, read other = some value → write value = other) :
    Codec Value where
  encode value := codec.encode (write value)
  decode bytes := do
    let (other, rest) ← codec.decode bytes
    let value ← read other
    pure (value, rest)
  decode_encode value rest := by
    simp [codec.decode_encode, read_write]
  encode_of_decode {bytes value rest} decoded := by
    simp only [Option.bind_eq_bind, Option.bind_eq_some_iff, Option.pure_def,
      Option.some.injEq, Prod.mk.injEq] at decoded
    obtain ⟨⟨other, left⟩, isRead, found, accepted, rfl, rfl⟩ := decoded
    rw [write_read accepted]
    exact codec.encode_of_decode isRead

/-- A format for the same values under another name. -/
def through (codec : Codec Other) (rename : Value ≃ Other) : Codec Value :=
  codec.narrow rename (fun other => some (rename.symm other))
    (fun value => congrArg some (rename.symm_apply_apply value))
    (by
      intro other value named
      rw [Option.some.injEq] at named
      rw [← named, rename.apply_symm_apply])

/-- One value after the other. -/
def pair (first : Codec Value) (second : Codec Other) : Codec (Value × Other) where
  encode value := first.encode value.1 ++ second.encode value.2
  decode bytes := do
    let (value, left) ← first.decode bytes
    let (other, rest) ← second.decode left
    pure ((value, other), rest)
  decode_encode value rest := by
    simp [first.decode_encode, second.decode_encode]
  encode_of_decode {bytes value rest} decoded := by
    simp only [Option.bind_eq_bind, Option.bind_eq_some_iff, Option.pure_def,
      Option.some.injEq, Prod.mk.injEq] at decoded
    obtain ⟨⟨head, left⟩, isFirst, ⟨tail, right⟩, isSecond, rfl, rfl⟩ := decoded
    rw [List.append_assoc, second.encode_of_decode isSecond]
    exact first.encode_of_decode isFirst

/-- Read this many items. -/
def decodeItems (item : Codec Item) : Nat → List UInt8 → Option (List Item × List UInt8)
  | 0, bytes => some ([], bytes)
  | count + 1, bytes => do
      let (head, left) ← item.decode bytes
      let (tail, rest) ← decodeItems item count left
      pure (head :: tail, rest)

theorem decodeItems_encode (item : Codec Item) (items : List Item) (rest : List UInt8) :
    decodeItems item items.length (items.flatMap item.encode ++ rest) = some (items, rest) := by
  induction items with
  | nil => rfl
  | cons head tail inductionHypothesis =>
      simp [decodeItems, item.decode_encode, inductionHypothesis]

theorem encode_of_decodeItems (item : Codec Item) {count : Nat} {bytes rest : List UInt8}
    {items : List Item} (decoded : decodeItems item count bytes = some (items, rest)) :
    items.length = count ∧ items.flatMap item.encode ++ rest = bytes := by
  induction count generalizing bytes items with
  | zero =>
      rw [decodeItems, Option.some.injEq, Prod.mk.injEq] at decoded
      obtain ⟨rfl, rfl⟩ := decoded
      exact ⟨rfl, rfl⟩
  | succ count inductionHypothesis =>
      simp only [decodeItems, Option.bind_eq_bind, Option.bind_eq_some_iff, Option.pure_def,
        Option.some.injEq, Prod.mk.injEq] at decoded
      obtain ⟨⟨head, left⟩, isHead, ⟨tail, right⟩, isTail, rfl, rfl⟩ := decoded
      obtain ⟨length, written⟩ := inductionHypothesis isTail
      refine ⟨congrArg (· + 1) length, ?_⟩
      rw [List.flatMap_cons, List.append_assoc, written]
      exact item.encode_of_decode isHead

/-- A fixed number of items. -/
def repeated (item : Codec Item) (count : Nat) : Codec { items : List Item // items.length = count }
    where
  encode items := items.1.flatMap item.encode
  decode bytes :=
    (decodeItems item count bytes).bind fun found =>
      if length : found.1.length = count then some (⟨found.1, length⟩, found.2) else none
  decode_encode items rest := by
    obtain ⟨items, rfl⟩ := items
    simp [decodeItems_encode]
  encode_of_decode {bytes items rest} decoded := by
    rw [Option.bind_eq_some_iff] at decoded
    obtain ⟨⟨found, left⟩, isFound, decoded⟩ := decoded
    obtain ⟨length, written⟩ := encode_of_decodeItems item isFound
    rw [dif_pos length, Option.some.injEq, Prod.mk.injEq] at decoded
    obtain ⟨rfl, rfl⟩ := decoded
    exact written

/-- A number of items that is written in front of them. -/
def counted (item : Codec Item) {bound : Nat} (count : Codec (Fin bound)) :
    Codec { items : List Item // items.length < bound } where
  encode items := count.encode ⟨items.1.length, items.2⟩ ++ items.1.flatMap item.encode
  decode bytes :=
    (count.decode bytes).bind fun counter =>
      (decodeItems item counter.1 counter.2).bind fun found =>
        if short : found.1.length < bound then some (⟨found.1, short⟩, found.2) else none
  decode_encode items rest := by
    obtain ⟨items, short⟩ := items
    simp [count.decode_encode, decodeItems_encode, short]
  encode_of_decode {bytes items rest} decoded := by
    rw [Option.bind_eq_some_iff] at decoded
    obtain ⟨⟨counter, middle⟩, isCounter, decoded⟩ := decoded
    rw [Option.bind_eq_some_iff] at decoded
    obtain ⟨⟨found, left⟩, isFound, decoded⟩ := decoded
    obtain ⟨length, written⟩ := encode_of_decodeItems item isFound
    have short : found.length < bound := length ▸ counter.isLt
    rw [dif_pos short, Option.some.injEq, Prod.mk.injEq] at decoded
    obtain ⟨rfl, rfl⟩ := decoded
    have same : (⟨found.length, short⟩ : Fin bound) = counter := Fin.ext length
    rw [List.append_assoc, written, same]
    exact count.encode_of_decode isCounter

/-! ## Widths -/

section Widths

variable {codec : Codec Value} {other : Codec Other} {width otherWidth : Nat}

theorem hasWidth_byte : byte.HasWidth 1 := fun _ => rfl

theorem HasWidth.narrow (wide : other.HasWidth width) {write : Value → Other}
    {read : Other → Option Value} {read_write : ∀ value, read (write value) = some value}
    {write_read : ∀ {other value}, read other = some value → write value = other} :
    (other.narrow write read read_write write_read).HasWidth width :=
  fun value => wide (write value)

theorem HasWidth.through (wide : other.HasWidth width) (rename : Value ≃ Other) :
    (other.through rename).HasWidth width :=
  fun value => wide (rename value)

theorem HasWidth.pair (wide : codec.HasWidth width) (otherWide : other.HasWidth otherWidth) :
    (codec.pair other).HasWidth (width + otherWidth) := by
  intro value
  exact List.length_append.trans (congrArg₂ (· + ·) (wide value.1) (otherWide value.2))

theorem HasWidth.repeated (wide : codec.HasWidth width) (count : Nat) :
    (codec.repeated count).HasWidth (count * width) := by
  rintro ⟨items, rfl⟩
  change (items.flatMap codec.encode).length = items.length * width
  induction items with
  | nil => simp
  | cons head tail inductionHypothesis =>
      rw [List.flatMap_cons, List.length_append, wide, inductionHypothesis, List.length_cons,
        Nat.succ_mul, Nat.add_comm]

end Widths

end Codec
