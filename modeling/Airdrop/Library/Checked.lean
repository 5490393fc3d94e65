/-
Module: Airdrop.Library.Checked
Purpose: Fallible computations in `Except` and checked machine arithmetic on
  words of any width, each operation with the one equation that says when it
  succeeds and with what value.
Trusted boundary: none
Main exports: require, okOr, Stop, unwrap, bind_eq_ok, Avoids, checkedAdd,
  checkedSub, checkedMul, checkedDiv, Overflow, Stable, plainAdd, plainSub, plainMul, plainDiv,
  checkedSubSigned, foldlM_checkedAdd_eq_some
-/
import Mathlib.Algebra.BigOperators.Group.List.Basic
import Mathlib.Data.List.Forall2
import Mathlib.Tactic.Ring

namespace Checked

universe u

/-! ## Fallible computations -/

/-- Stop with `error` unless `condition` holds. -/
def require {ε : Type*} (condition : Prop) [Decidable condition] (error : ε) :
    Except ε Unit :=
  if condition then .ok () else .error error

/-- How a Rust function stops without a value: it panics, or it returns an
`Err`. -/
inductive Stop (ε : Type*) where
  | panic
  | err (error : ε)
deriving DecidableEq

/-- The value of an option, or `error` where there is none. -/
def okOr {ε α : Type*} (value : Option α) (error : ε) : Except ε α :=
  match value with
  | some result => .ok result
  | none => .error error

/-- `Option::unwrap`, `expect`, and an index that may be out of range. -/
def unwrap {ε α : Type*} (value : Option α) : Except (Stop ε) α :=
  okOr value .panic

/-- Report `error` in place of whatever `Err` a call returned; a panic stays. -/
def replaceErr {ε α : Type*} (result : Except (Stop ε) α) (error : ε) :
    Except (Stop ε) α :=
  match result with
  | .ok value => .ok value
  | .error .panic => .error .panic
  | .error (.err _) => .error (.err error)

section Fallible

variable {ε : Type*} {α β : Type u}

/-- A sequence succeeds exactly when its first part does and the rest succeeds
on the result.  This peels one step off a successful `do` block. -/
@[simp] theorem bind_eq_ok {first : Except ε α} {rest : α → Except ε β}
    {result : β} :
    (first >>= rest) = .ok result ↔
      ∃ middle, first = .ok middle ∧ rest middle = .ok result := by
  cases first with
  | error failure => simp [bind, Except.bind]
  | ok middle => simp [bind, Except.bind]

@[simp] theorem ok_bind (value : α) (rest : α → Except ε β) :
    (Except.ok value >>= rest) = rest value := rfl

@[simp] theorem pure_eq (value : α) : (pure value : Except ε α) = .ok value :=
  rfl

@[simp] theorem throw_ne_ok {error : ε} {result : α} :
    ¬ (throw error : Except ε α) = .ok result := by
  simp [throw, throwThe, MonadExceptOf.throw]

theorem require_of {condition : Prop} [Decidable condition] {error : ε}
    (holds : condition) : require condition error = .ok () := if_pos holds

@[simp] theorem require_eq_ok {condition : Prop} [Decidable condition]
    {error : ε} {result : Unit} :
    require condition error = .ok result ↔ condition := by
  unfold require
  split <;> simp_all

/-- A check that fails reports its own error. -/
theorem require_eq_error {condition : Prop} [Decidable condition]
    {error reported : ε} :
    require condition error = .error reported ↔
      ¬ condition ∧ error = reported := by
  unfold require
  split <;> simp_all

@[simp] theorem okOr_eq_ok {value : Option α} {error : ε} {result : α} :
    okOr value error = .ok result ↔ value = some result := by
  cases value <;> simp [okOr]

@[simp] theorem unwrap_some (value : α) :
    (unwrap (some value) : Except (Stop ε) α) = .ok value := rfl

@[simp] theorem unwrap_eq_ok {value : Option α} {result : α} :
    (unwrap value : Except (Stop ε) α) = .ok result ↔ value = some result :=
  okOr_eq_ok

theorem okOr_eq_error {value : Option α} {error reported : ε} :
    okOr value error = .error reported ↔ value = none ∧ error = reported := by
  cases value <;> simp [okOr]

@[simp] theorem replaceErr_eq_ok {called : Except (Stop ε) α} {error : ε}
    {result : α} : replaceErr called error = .ok result ↔ called = .ok result := by
  unfold replaceErr
  split <;> simp

/-- A loop over a list finishes exactly when every turn does. -/
theorem forM_eq_ok {items : List α} {body : α → Except ε PUnit} :
    items.forM body = .ok () ↔ ∀ item ∈ items, body item = .ok () := by
  induction items with
  | nil => simp [List.forM]
  | cons item items inductionHypothesis =>
      rw [List.forM, bind_eq_ok, List.forall_mem_cons]
      constructor
      · rintro ⟨⟨⟩, first, rest⟩
        exact ⟨first, inductionHypothesis.mp rest⟩
      · rintro ⟨first, rest⟩
        exact ⟨(), first, inductionHypothesis.mpr rest⟩

/-- A fallible map returns the results of its turns, in their order. -/
theorem mapM_eq_ok {items : List α} {body : α → Except ε β} {results : List β} :
    items.mapM body = .ok results ↔
      List.Forall₂ (fun item result => body item = .ok result) items results := by
  induction items generalizing results with
  | nil => simp [eq_comm]
  | cons item items inductionHypothesis =>
      simp only [List.mapM_cons, bind_eq_ok, pure_eq, Except.ok.injEq,
        List.forall₂_cons_left_iff, inductionHypothesis]
      constructor
      · rintro ⟨result, turn, results, turns, rfl⟩
        exact ⟨result, results, turn, turns, rfl⟩
      · rintro ⟨result, results, turn, turns, rfl⟩
        exact ⟨result, turn, results, turns, rfl⟩

/-- A loop that carries a state succeeds when every turn does, from any state that
satisfies an invariant over the items done so far. -/
theorem exists_foldlM (step : β → α → Except ε β) (items : List α) (start : β)
    (Inv : List α → β → Prop) (initially : Inv [] start)
    (turn : ∀ finished item state, finished ++ [item] <+: items → Inv finished state →
      ∃ next, step state item = .ok next ∧ Inv (finished ++ [item]) next) :
    ∃ final, items.foldlM step start = .ok final ∧ Inv items final := by
  have continues (later finished : List α) (state : β) (whole : finished ++ later = items)
      (holds : Inv finished state) :
      ∃ final, later.foldlM step state = .ok final ∧ Inv items final := by
    induction later generalizing finished state with
    | nil =>
        rw [List.append_nil] at whole
        exact ⟨state, rfl, whole ▸ holds⟩
    | cons item later inductionHypothesis =>
        rw [List.append_cons] at whole
        obtain ⟨next, turned, nextHolds⟩ := turn finished item state ⟨later, whole⟩ holds
        rw [List.foldlM_cons, turned, ok_bind]
        exact inductionHypothesis (finished ++ [item]) next whole nextHolds
  exact continues items [] start rfl initially

/-- A fallible map whose every turn is known returns the mapped list. -/
theorem mapM_eq_ok_map {items : List α} {body : α → Except ε β} {image : α → β}
    (turns : ∀ item ∈ items, body item = .ok (image item)) :
    items.mapM body = .ok (items.map image) := by
  induction items with
  | nil => rfl
  | cons item items inductionHypothesis =>
      rw [List.mapM_cons, turns item (by simp), ok_bind,
        inductionHypothesis fun other member => turns other (by simp [member])]
      rfl

/-- A fallible map whose every turn returns a result with some property returns. -/
theorem exists_mapM {items : List α} {body : α → Except ε β} {Holds : α → β → Prop}
    (turns : ∀ item ∈ items, ∃ result, body item = .ok result ∧ Holds item result) :
    ∃ results, items.mapM body = .ok results ∧ List.Forall₂ Holds items results ∧
      ∀ result ∈ results, ∃ item ∈ items, Holds item result := by
  induction items with
  | nil => exact ⟨[], rfl, .nil, by simp⟩
  | cons item items inductionHypothesis =>
      obtain ⟨result, turn, holds⟩ := turns item (by simp)
      obtain ⟨results, turned, hold, origins⟩ := inductionHypothesis
        fun other member => turns other (by simp [member])
      refine ⟨result :: results, ?_, .cons holds hold, ?_⟩
      · rw [List.mapM_cons, turn, ok_bind, turned]
        rfl
      · rw [List.forall_mem_cons]
        refine ⟨⟨item, by simp, holds⟩, fun other member => ?_⟩
        obtain ⟨origin, isItem, related⟩ := origins other member
        exact ⟨origin, by simp [isItem], related⟩

/-- The error of a computation that stopped. -/
def failure? (called : Except ε α) : Option ε :=
  match called with
  | .ok _ => none
  | .error error => some error

theorem failure?_eq_some {called : Except ε α} {error : ε} :
    failure? called = some error ↔ called = .error error := by
  cases called <;> simp [failure?]

/-! ## Errors that cannot occur -/

/-- The computation does not stop with `error`. -/
def Avoids (called : Except ε α) (error : ε) : Prop := called ≠ .error error

section Avoids

variable {error failure : ε}

theorem Avoids.ok (value : α) : Avoids (.ok value) error := by simp [Avoids]

/-- A sequence avoids an error that its first part and, from there, the rest
avoid. -/
theorem Avoids.bind {first : Except ε α} {rest : α → Except ε β}
    (begins : Avoids first error)
    (continues : ∀ middle, first = .ok middle → Avoids (rest middle) error) :
    Avoids (first >>= rest) error := by
  cases answer : first with
  | error reported =>
      intro same
      exact begins (answer.trans (congrArg Except.error (Except.error.inj same)))
  | ok middle => exact continues middle answer

theorem Avoids.require {condition : Prop} [Decidable condition]
    (other : failure ≠ error) : Avoids (require condition failure) error :=
  fun same => other (require_eq_error.mp same).2

theorem Avoids.okOr {value : Option α} (other : failure ≠ error) :
    Avoids (okOr value failure) error :=
  fun same => other (okOr_eq_error.mp same).2

end Avoids

end Fallible

/-! ## Unsigned words -/

section Unsigned

variable {w : Nat}

/-- Addition, defined only where the sum fits the word. -/
def checkedAdd (a b : BitVec w) : Option (BitVec w) :=
  if a.toNat + b.toNat < 2 ^ w then some (a + b) else none

/-- Subtraction, defined only where the difference is not negative. -/
def checkedSub (a b : BitVec w) : Option (BitVec w) :=
  if b.toNat ≤ a.toNat then some (a - b) else none

/-- Multiplication, defined only where the product fits the word. -/
def checkedMul (a b : BitVec w) : Option (BitVec w) :=
  if a.toNat * b.toNat < 2 ^ w then some (a * b) else none

/-- Division, defined only for a divisor other than zero. -/
def checkedDiv (a b : BitVec w) : Option (BitVec w) :=
  if b.toNat = 0 then none else some (a / b)

/-- `checked_pow` -/
def checkedPow (a : BitVec w) (exponent : Nat) : Option (BitVec w) :=
  if a.toNat ^ exponent < 2 ^ w then some (BitVec.ofNat w (a.toNat ^ exponent)) else none

@[simp] theorem checkedAdd_eq_some {a b c : BitVec w} :
    checkedAdd a b = some c ↔ c.toNat = a.toNat + b.toNat := by
  have bound := c.isLt
  unfold checkedAdd
  split
  · rename_i fits
    rw [Option.some.injEq, ← BitVec.toNat_inj, BitVec.toNat_add_of_lt fits]
    exact eq_comm
  · simp only [reduceCtorEq, false_iff]
    omega

@[simp] theorem checkedSub_eq_some {a b c : BitVec w} :
    checkedSub a b = some c ↔ c.toNat + b.toNat = a.toNat := by
  unfold checkedSub
  split
  · rename_i fits
    rw [Option.some.injEq, ← BitVec.toNat_inj, BitVec.toNat_sub_of_le fits]
    omega
  · simp only [reduceCtorEq, false_iff]
    omega

@[simp] theorem checkedMul_eq_some {a b c : BitVec w} :
    checkedMul a b = some c ↔ c.toNat = a.toNat * b.toNat := by
  have bound := c.isLt
  unfold checkedMul
  split
  · rename_i fits
    rw [Option.some.injEq, ← BitVec.toNat_inj, BitVec.toNat_mul_of_lt fits]
    exact eq_comm
  · simp only [reduceCtorEq, false_iff]
    omega

theorem checkedAdd_zero (a : BitVec w) : checkedAdd a 0 = some a := by
  simp

theorem checkedMul_zero (a : BitVec w) : checkedMul a 0 = some 0 := by
  simp

@[simp] theorem checkedDiv_eq_some {a b c : BitVec w} :
    checkedDiv a b = some c ↔ b.toNat ≠ 0 ∧ c.toNat = a.toNat / b.toNat := by
  unfold checkedDiv
  split
  · simp_all
  · rename_i nonzero
    rw [Option.some.injEq, ← BitVec.toNat_inj, BitVec.toNat_udiv]
    exact ⟨fun same => ⟨nonzero, same.symm⟩, fun both => both.2.symm⟩

/-- The sum exists as soon as it fits. -/
theorem exists_checkedAdd {a b : BitVec w} (fits : a.toNat + b.toNat < 2 ^ w) :
    ∃ c, checkedAdd a b = some c ∧ c.toNat = a.toNat + b.toNat :=
  ⟨a + b, by simp [checkedAdd, fits], BitVec.toNat_add_of_lt fits⟩

/-- The difference exists as soon as it is not negative. -/
theorem exists_checkedSub {a b : BitVec w} (fits : b.toNat ≤ a.toNat) :
    ∃ c, checkedSub a b = some c ∧ c.toNat + b.toNat = a.toNat :=
  ⟨a - b, by simp [checkedSub, fits], by
    rw [BitVec.toNat_sub_of_le fits]; omega⟩

/-- A running checked sum is defined exactly when the sum fits, and then it is
the sum. -/
theorem foldlM_checkedAdd_eq_some {α : Type*} {value : α → BitVec w}
    {items : List α} {start total : BitVec w} :
    items.foldlM (fun acc item => checkedAdd acc (value item)) start =
        some total ↔
      total.toNat =
        start.toNat + (items.map fun item => (value item).toNat).sum := by
  induction items generalizing start with
  | nil => simp [← BitVec.toNat_inj, eq_comm]
  | cons item items inductionHypothesis =>
      rw [List.foldlM_cons, Option.bind_eq_bind, Option.bind_eq_some_iff]
      simp only [checkedAdd_eq_some, inductionHypothesis, List.map_cons,
        List.sum_cons]
      constructor
      · rintro ⟨middle, first, rest⟩
        omega
      · intro whole
        have bound := total.isLt
        obtain ⟨middle, _, value⟩ :=
          exists_checkedAdd (a := start) (b := value item) (by omega)
        exact ⟨middle, value, by omega⟩

end Unsigned

/-! ## Operators without a check -/

/-- What a build makes of an operator whose result does not fit: one with overflow checks
panics, and in any other the result wraps around. -/
inductive Overflow where
  | panics
  | wraps
deriving DecidableEq

section Operators

variable {ε : Type} {w : Nat}

/-- The result of an operator, by what the checked one gives and by the one that wraps. -/
def Overflow.result (overflow : Overflow) (checked : Option (BitVec w))
    (wrapped : BitVec w) : Except (Stop ε) (BitVec w) :=
  match overflow with
  | .panics => unwrap checked
  | .wraps => .ok wrapped

/-- `a + b` -/
def plainAdd (overflow : Overflow) (a b : BitVec w) : Except (Stop ε) (BitVec w) :=
  overflow.result (checkedAdd a b) (a + b)

/-- `a - b` -/
def plainSub (overflow : Overflow) (a b : BitVec w) : Except (Stop ε) (BitVec w) :=
  overflow.result (checkedSub a b) (a - b)

/-- `a * b` -/
def plainMul (overflow : Overflow) (a b : BitVec w) : Except (Stop ε) (BitVec w) :=
  overflow.result (checkedMul a b) (a * b)

/-- `a / b`, which panics in every build where the divisor is zero. -/
def plainDiv (a b : BitVec w) : Except (Stop ε) (BitVec w) :=
  unwrap (checkedDiv a b)

variable {a b c : BitVec w}

@[simp] theorem plainAdd_panics_eq_ok :
    (plainAdd .panics a b : Except (Stop ε) _) = .ok c ↔ c.toNat = a.toNat + b.toNat :=
  unwrap_eq_ok.trans checkedAdd_eq_some

@[simp] theorem plainSub_panics_eq_ok :
    (plainSub .panics a b : Except (Stop ε) _) = .ok c ↔ c.toNat + b.toNat = a.toNat :=
  unwrap_eq_ok.trans checkedSub_eq_some

@[simp] theorem plainMul_panics_eq_ok :
    (plainMul .panics a b : Except (Stop ε) _) = .ok c ↔ c.toNat = a.toNat * b.toNat :=
  unwrap_eq_ok.trans checkedMul_eq_some

@[simp] theorem plainDiv_eq_ok :
    (plainDiv a b : Except (Stop ε) _) = .ok c ↔
      b.toNat ≠ 0 ∧ c.toNat = a.toNat / b.toNat :=
  unwrap_eq_ok.trans checkedDiv_eq_some

/-! ### What no build changes -/

/-- What a build with overflow checks computes, every build computes. -/
def Stable {α : Type} (called : Overflow → Except (Stop ε) α) : Prop :=
  ∀ value, called .panics = .ok value → ∀ overflow, called overflow = .ok value

theorem Stable.const {α : Type} (called : Except (Stop ε) α) : Stable fun _ => called :=
  fun _ computed _ => computed

theorem Stable.bind {α β : Type} {first : Overflow → Except (Stop ε) α}
    {rest : Overflow → α → Except (Stop ε) β} (begins : Stable first)
    (continues : ∀ middle, Stable fun overflow => rest overflow middle) :
    Stable fun overflow => first overflow >>= rest overflow := by
  intro value computed overflow
  obtain ⟨middle, firstComputed, restComputed⟩ := bind_eq_ok.mp computed
  exact bind_eq_ok.mpr ⟨middle, begins middle firstComputed overflow,
    continues middle value restComputed overflow⟩

theorem Stable.foldlM {α β : Type} {step : Overflow → β → α → Except (Stop ε) β}
    (turns : ∀ state item, Stable fun overflow => step overflow state item)
    (items : List α) (start : β) :
    Stable fun overflow => items.foldlM (step overflow) start := by
  induction items generalizing start with
  | nil => exact .const _
  | cons item items inductionHypothesis =>
      simp only [List.foldlM_cons]
      exact (turns start item).bind inductionHypothesis

/-- An operator is stable when the one that wraps extends the checked one. -/
theorem Overflow.result_stable {checked : Option (BitVec w)} {wrapped : BitVec w}
    (extends_checked : ∀ value, checked = some value → wrapped = value) :
    Stable fun overflow => (overflow.result checked wrapped : Except (Stop ε) _) := by
  intro value computed overflow
  have defined : checked = some value := unwrap_eq_ok.mp computed
  cases overflow with
  | panics => exact unwrap_eq_ok.mpr defined
  | wraps => exact congrArg Except.ok (extends_checked value defined)

variable (a b : BitVec w)

theorem plainAdd_stable :
    Stable fun overflow => (plainAdd overflow a b : Except (Stop ε) _) := by
  refine Overflow.result_stable fun value defined => ?_
  rw [checkedAdd, Option.ite_none_right_eq_some] at defined
  exact Option.some.inj defined.2

theorem plainSub_stable :
    Stable fun overflow => (plainSub overflow a b : Except (Stop ε) _) := by
  refine Overflow.result_stable fun value defined => ?_
  rw [checkedSub, Option.ite_none_right_eq_some] at defined
  exact Option.some.inj defined.2

theorem plainMul_stable :
    Stable fun overflow => (plainMul overflow a b : Except (Stop ε) _) := by
  refine Overflow.result_stable fun value defined => ?_
  rw [checkedMul, Option.ite_none_right_eq_some] at defined
  exact Option.some.inj defined.2

end Operators

/-! ## Signed words -/

/-- Signed subtraction, defined only where the difference fits 64 bits. -/
def checkedSubSigned (a b : Int64) : Option Int64 :=
  if -2 ^ 63 ≤ a.toInt - b.toInt ∧ a.toInt - b.toInt < 2 ^ 63 then
    some (a - b)
  else
    none

@[simp] theorem checkedSubSigned_eq_some {a b c : Int64} :
    checkedSubSigned a b = some c ↔ c.toInt = a.toInt - b.toInt := by
  have low := c.le_toInt
  have high := c.toInt_lt
  unfold checkedSubSigned
  split
  · rename_i fits
    have exact : (a - b).toInt = a.toInt - b.toInt := by
      rw [Int64.toInt_sub, Int.bmod_eq_of_le] <;> omega
    rw [Option.some.injEq, ← Int64.toInt_inj, exact]
    exact eq_comm
  · simp only [reduceCtorEq, false_iff]
    omega

end Checked
