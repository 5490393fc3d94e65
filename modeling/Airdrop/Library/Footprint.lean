/-
Module: Airdrop.Library.Footprint
Purpose: Machines over a store whose inputs declare what they read and what they write:
  inputs without a conflict can be exchanged, and two schedules that order all conflicts
  alike give the same answers and end in the same store.
Trusted boundary: none
Main exports: Alike, Agree, Footprints, Footprints.frame, Footprints.answer_congr,
  Footprints.Independent, Footprints.exchange, SameOrder, Footprints.play_of_sameOrder
-/
import Airdrop.Library.Transition
import Mathlib.Data.List.Perm.Basic
import Mathlib.Data.Set.Basic

namespace Footprint

open Transition

/-! ## Computations that fail alike -/

section Alike

universe u v

variable {Error : Type*} {One OneNext : Type u} {Other OtherNext : Type v}
variable {Result OneRest OtherRest : Type u}

/-- Both computations fail with the same error, or both return and the results are
related. -/
inductive Alike (Related : One → Other → Prop) : Except Error One → Except Error Other → Prop
    where
  | error (failure : Error) : Alike Related (.error failure) (.error failure)
  | ok {one : One} {other : Other} (related : Related one other) :
      Alike Related (.ok one) (.ok other)

variable {Related : One → Other → Prop} {Next : OneNext → OtherNext → Prop}

theorem Alike.bind {one : Except Error One} {other : Except Error Other}
    {oneNext : One → Except Error OneNext} {otherNext : Other → Except Error OtherNext}
    (first : Alike Related one other)
    (next : ∀ result result', Related result result' →
      Alike Next (oneNext result) (otherNext result')) :
    Alike Next (one >>= oneNext) (other >>= otherNext) := by
  cases first with
  | error failure => exact .error failure
  | ok related => exact next _ _ related

/-- After the same computation it is enough that the rest is alike. -/
theorem Alike.bind_same {Rest : OneRest → OtherRest → Prop} {first : Except Error Result}
    {oneNext : Result → Except Error OneRest} {otherNext : Result → Except Error OtherRest}
    (next : ∀ result, Alike Rest (oneNext result) (otherNext result)) :
    Alike Rest (first >>= oneNext) (first >>= otherNext) := by
  cases first with
  | error failure => exact .error failure
  | ok result => exact next result

end Alike

/-! ## Stores -/

section Stores

variable {Key Value : Type*}

/-- Both stores have the same values at these keys. -/
def Agree (keys : Set Key) (one other : Key → Value) : Prop :=
  ∀ key ∈ keys, one key = other key

theorem Agree.refl (keys : Set Key) (store : Key → Value) : Agree keys store store :=
  fun _ _ => rfl

/-- The stores `one` and `other` were made from `first` and `second` by writes: they agree
on what was read, and differ from what they were made from only where it may be written. -/
structure Derived (reads writes : Set Key) (first second one other : Key → Value) : Prop where
  agree : Agree reads one other
  firstKept : ∀ key ∉ writes, one key = first key
  secondKept : ∀ key ∉ writes, other key = second key

namespace Derived

variable {reads writes : Set Key} {first second one other : Key → Value}

theorem start (agree : Agree reads first second) :
    Derived reads writes first second first second :=
  ⟨agree, fun _ _ => rfl, fun _ _ => rfl⟩

/-- The same value is written to both stores. -/
theorem update [DecidableEq Key] (derived : Derived reads writes first second one other)
    {key : Key} (written : key ∈ writes) (value : Value) :
    Derived reads writes first second (Function.update one key value)
      (Function.update other key value) where
  agree := by
    intro place isRead
    by_cases here : place = key
    · rw [here, Function.update_self, Function.update_self]
    · rw [Function.update_of_ne here, Function.update_of_ne here]
      exact derived.agree place isRead
  firstKept := by
    intro place notWritten
    have elsewhere : place ≠ key := fun here => notWritten (here ▸ written)
    rw [Function.update_of_ne elsewhere]
    exact derived.firstKept place notWritten
  secondKept := by
    intro place notWritten
    have elsewhere : place ≠ key := fun here => notWritten (here ▸ written)
    rw [Function.update_of_ne elsewhere]
    exact derived.secondKept place notWritten

end Derived

end Stores

/-! ## Declared footprints -/

variable {Key Value Input Error Outcome Report : Type*}

/-- What each input of a machine over a store declares to read and to write.  The answer,
apart from the store it leaves, depends on nothing else, and nothing else is written. -/
structure Footprints (machine : Machine (Key → Value) Input Error Outcome)
    (report : Outcome → Report) where
  reads : Input → Set Key
  writes : Input → Set Key
  writes_subset : ∀ input, writes input ⊆ reads input
  confined : ∀ input first second, Agree (reads input) first second →
    Alike
      (fun one other => report one = report other ∧
        Derived (reads input) (writes input) first second (machine.state one)
          (machine.state other))
      (machine.step first input) (machine.step second input)

namespace Footprints

variable {machine : Machine (Key → Value) Input Error Outcome} {report : Outcome → Report}
variable (footprints : Footprints machine report)
variable {store other : Key → Value} {input one two : Input}

/-- The store after an input, accepted or refused. -/
abbrev leaves (machine : Machine (Key → Value) Input Error Outcome) (store : Key → Value)
    (input : Input) : Key → Value :=
  (machine.attempt store input).after machine

/-- What the machine answers, without the store that it leaves. -/
def answer (machine : Machine (Key → Value) Input Error Outcome) (report : Outcome → Report)
    (store : Key → Value) (input : Input) : Except Error Report :=
  (machine.step store input).map report

/-- An input leaves alone what it does not declare to write. -/
theorem frame {key : Key} (notWritten : key ∉ footprints.writes input) :
    leaves machine store input key = store key := by
  have confined := footprints.confined input store store (Agree.refl _ _)
  cases answered : machine.step store input with
  | error failure => rw [leaves, Entry.after_of_error answered]; rfl
  | ok outcome =>
      rw [answered] at confined
      cases confined with
      | ok related =>
          rw [leaves, Entry.after_of_ok answered]
          exact related.2.firstKept key notWritten

/-- The answer depends on what the input declares to read. -/
theorem answer_congr (agree : Agree (footprints.reads input) store other) :
    answer machine report store input = answer machine report other input := by
  have confined := footprints.confined input store other agree
  unfold answer
  generalize machine.step store input = answered at confined ⊢
  generalize machine.step other input = answered' at confined ⊢
  cases confined with
  | error failure => rfl
  | ok related => exact congrArg Except.ok related.1

/-- What an input leaves at the keys that it reads depends on these keys. -/
theorem leaves_congr (agree : Agree (footprints.reads input) store other) :
    Agree (footprints.reads input) (leaves machine store input)
      (leaves machine other input) := by
  have confined := footprints.confined input store other agree
  cases answered : machine.step store input with
  | error failure =>
      rw [answered] at confined
      cases otherwise : machine.step other input with
      | error failure' =>
          rw [leaves, leaves, Entry.after_of_error answered, Entry.after_of_error otherwise]
          exact agree
      | ok outcome => rw [otherwise] at confined; cases confined
  | ok outcome =>
      rw [answered] at confined
      cases otherwise : machine.step other input with
      | error failure' => rw [otherwise] at confined; cases confined
      | ok outcome' =>
          rw [otherwise] at confined
          cases confined with
          | ok related =>
              rw [leaves, leaves, Entry.after_of_ok answered, Entry.after_of_ok otherwise]
              exact related.2.agree

/-- What no attempt of a run declares to write is as it was at the start. -/
theorem unchanged {start : Key → Value} {history : List (Entry (Key → Value) Input Error Outcome)}
    {key : Key} (run : Run machine start history store)
    (notWritten : ∀ entry ∈ history, key ∉ footprints.writes entry.input) :
    store key = start key := by
  induction run with
  | start => rfl
  | @attempt history state earlier input inductionHypothesis =>
      have now := notWritten _ List.mem_cons_self
      have before := inductionHypothesis fun entry member =>
        notWritten entry (List.mem_cons_of_mem _ member)
      exact (footprints.frame now).trans before

/-- Neither input writes what the other reads. -/
def Independent (one two : Input) : Prop :=
  (∀ key ∈ footprints.writes one, key ∉ footprints.reads two) ∧
    ∀ key ∈ footprints.writes two, key ∉ footprints.reads one

variable {footprints}

theorem Independent.symm (independent : footprints.Independent one two) :
    footprints.Independent two one :=
  ⟨independent.2, independent.1⟩

/-- An input before an independent one does not change its answer. -/
theorem Independent.answer_after (independent : footprints.Independent one two) :
    answer machine report (leaves machine store one) two =
      answer machine report store two := by
  apply footprints.answer_congr
  intro key isRead
  exact footprints.frame fun written => independent.1 key written isRead

/-- Independent inputs leave the same store in either order. -/
theorem exchange (independent : footprints.Independent one two) :
    leaves machine (leaves machine store one) two =
      leaves machine (leaves machine store two) one := by
  have oneUndisturbed : Agree (footprints.reads one) (leaves machine store two) store :=
    fun key isRead => footprints.frame fun written => independent.2 key written isRead
  have twoUndisturbed : Agree (footprints.reads two) (leaves machine store one) store :=
    fun key isRead => footprints.frame fun written => independent.1 key written isRead
  funext key
  by_cases byOne : key ∈ footprints.writes one
  · have readByOne := footprints.writes_subset one byOne
    have notByTwo : key ∉ footprints.writes two := fun byTwo =>
      independent.2 key byTwo readByOne
    rw [footprints.frame notByTwo]
    exact (footprints.leaves_congr oneUndisturbed key readByOne).symm
  · rw [footprints.frame byOne]
    by_cases byTwo : key ∈ footprints.writes two
    · exact footprints.leaves_congr twoUndisturbed key (footprints.writes_subset two byTwo)
    · rw [footprints.frame byTwo, footprints.frame byTwo, footprints.frame byOne]

end Footprints

/-! ## Schedules -/

section Schedules

open Footprints (leaves exchange)

/-- Every two inputs in conflict come in the same order in both schedules. -/
def SameOrder [DecidableEq Input] (Conflict : Input → Input → Prop)
    (first second : List Input) : Prop :=
  ∀ one two, Conflict one two →
    first.filter (fun input => input = one ∨ input = two) =
      second.filter (fun input => input = one ∨ input = two)

/-- An input is in conflict with itself, and with whatever it is not independent of. -/
def Footprints.Conflict {machine : Machine (Key → Value) Input Error Outcome}
    {report : Outcome → Report} (footprints : Footprints machine report)
    (one two : Input) : Prop :=
  one = two ∨ ¬ footprints.Independent one two

variable {machine : Machine (Key → Value) Input Error Outcome} {report : Outcome → Report}
variable {footprints : Footprints machine report}

theorem Footprints.Conflict.symm {one two : Input}
    (conflict : footprints.Conflict one two) : footprints.Conflict two one := by
  rcases conflict with same | dependent
  · exact .inl same.symm
  · exact .inr fun independent => dependent independent.symm

/-- Two neighbours without a conflict in the other order. -/
theorem SameOrder.swap [DecidableEq Input] {Conflict : Input → Input → Prop}
    {before after : List Input} {one two : Input} (apart : ¬ Conflict one two)
    (symmetric : ∀ {one two}, Conflict one two → Conflict two one) :
    SameOrder Conflict (before ++ one :: two :: after) (before ++ two :: one :: after) := by
  intro first second conflict
  rw [List.filter_append, List.filter_append, List.append_cancel_left_eq]
  by_cases oneCounts : one = first ∨ one = second
  · by_cases twoCounts : two = first ∨ two = second
    · have same : one = two := by
        by_contra different
        rcases oneCounts with rfl | rfl
        · rcases twoCounts with rfl | rfl
          · exact different rfl
          · exact apart conflict
        · rcases twoCounts with rfl | rfl
          · exact apart (symmetric conflict)
          · exact different rfl
      rw [same]
    · simp [List.filter_cons, twoCounts]
  · simp [List.filter_cons, oneCounts]

/-- What a recorded attempt says without the stores. -/
def reported (report : Outcome → Report)
    (entry : Entry (Key → Value) Input Error Outcome) : Input × Except Error Report :=
  (entry.input, entry.result.map report)

/-- The schedules give the same answers and end in the same store. -/
def SameOutcome (machine : Machine (Key → Value) Input Error Outcome)
    (report : Outcome → Report) (start : Key → Value) (first second : List Input) : Prop :=
  (machine.play start first).2 = (machine.play start second).2 ∧
    ((machine.play start first).1.map (reported report)).Perm
      ((machine.play start second).1.map (reported report))

namespace SameOutcome

variable {start : Key → Value} {first second third rest : List Input} {input one two : Input}

theorem refl (start : Key → Value) (inputs : List Input) :
    SameOutcome machine report start inputs inputs :=
  ⟨rfl, .refl _⟩

theorem trans (before : SameOutcome machine report start first second)
    (after : SameOutcome machine report start second third) :
    SameOutcome machine report start first third :=
  ⟨before.1.trans after.1, before.2.trans after.2⟩

theorem cons (same : SameOutcome machine report (leaves machine start input)
      first second) :
    SameOutcome machine report start (input :: first) (input :: second) := by
  unfold SameOutcome
  rw [Machine.play_cons, Machine.play_cons]
  refine ⟨same.1, ?_⟩
  rw [List.map_append, List.map_append]
  exact same.2.append_right _

/-- Two neighbours that are independent can be exchanged. -/
theorem swap (independent : footprints.Independent one two) :
    SameOutcome machine report start (one :: two :: rest) (two :: one :: rest) := by
  have oneAnswers : reported report (machine.attempt (leaves machine start two) one) =
      reported report (machine.attempt start one) :=
    congrArg (Prod.mk one) independent.symm.answer_after
  have twoAnswers : reported report (machine.attempt (leaves machine start one) two) =
      reported report (machine.attempt start two) :=
    congrArg (Prod.mk two) independent.answer_after
  unfold SameOutcome
  simp only [Machine.play_cons, exchange independent, List.map_append, List.map_cons,
    List.map_nil, List.append_assoc, List.singleton_append, oneAnswers, twoAnswers, true_and]
  exact .append_left _ (.swap _ _ _)

/-- An input can be moved in front of inputs that it is independent of. -/
theorem move_front {before : List Input}
    (independent : ∀ other ∈ before, footprints.Independent other input) :
    SameOutcome machine report start (before ++ input :: rest) (input :: before ++ rest) := by
  induction before generalizing start with
  | nil => exact refl start _
  | cons other before inductionHypothesis =>
      have later : SameOutcome machine report (leaves machine start other)
          (before ++ input :: rest) (input :: before ++ rest) :=
        inductionHypothesis fun between member =>
          independent between (List.mem_cons_of_mem other member)
      exact later.cons.trans (swap (independent other List.mem_cons_self))

end SameOutcome

namespace SameOrder

variable [DecidableEq Input] {input : Input} {inputs before after second : List Input}

/-- Where a schedule starts with `input`, the other one has nothing in front of it that is
in conflict with it. -/
theorem apart_before
    (order : SameOrder footprints.Conflict (input :: inputs) (before ++ input :: after))
    (isFirst : input ∉ before) :
    ∀ other ∈ before, footprints.Independent other input := by
  intro other member
  by_contra dependent
  have projected := order other input (.inr dependent)
  rw [List.filter_cons_of_pos (by simp), List.filter_append] at projected
  cases front : before.filter fun entry => entry = other ∨ entry = input with
  | nil =>
      have isThere : other ∈ before.filter fun entry => entry = other ∨ entry = input :=
        List.mem_filter.mpr ⟨member, by simp⟩
      rw [front] at isThere
      cases isThere
  | cons head tail =>
      rw [front, List.cons_append, List.cons.injEq] at projected
      have headMember : head ∈ before := by
        have inFront : head ∈ before.filter fun entry => entry = other ∨ entry = input := by
          rw [front]
          exact List.mem_cons_self
        exact List.mem_of_mem_filter inFront
      exact isFirst (projected.1 ▸ headMember)

/-- Both schedules without their first `input` order all conflicts alike. -/
theorem tail
    (order : SameOrder footprints.Conflict (input :: inputs) (before ++ input :: after))
    (isFirst : input ∉ before) :
    SameOrder footprints.Conflict inputs (before ++ after) := by
  have apart := order.apart_before isFirst
  intro one two conflict
  have projected := order one two conflict
  rw [List.filter_append] at projected ⊢
  by_cases concerned : input = one ∨ input = two
  · have none : before.filter (fun entry => entry = one ∨ entry = two) = [] := by
      rw [List.filter_eq_nil_iff]
      intro other member isConcerned
      have different : other ≠ input := fun same => isFirst (same ▸ member)
      have dependent : ¬ footprints.Independent other input := by
        have conflicts : footprints.Conflict other input := by
          rcases of_decide_eq_true isConcerned with rfl | rfl
          · rcases concerned with same | rfl
            · exact absurd same.symm different
            · exact conflict
          · rcases concerned with rfl | same
            · exact conflict.symm
            · exact absurd same.symm different
        exact conflicts.resolve_left different
      exact dependent (apart other member)
    rw [List.filter_cons_of_pos (by simpa using concerned), none,
      List.filter_cons_of_pos (by simpa using concerned), List.nil_append,
      List.cons.injEq] at projected
    rw [none, List.nil_append]
    exact projected.2
  · rwa [List.filter_cons_of_neg (by simpa using concerned),
      List.filter_cons_of_neg (by simpa using concerned)] at projected

/-- An input of the one schedule occurs in the other one. -/
theorem mem (order : SameOrder footprints.Conflict (input :: inputs) second) :
    input ∈ second := by
  have projected := order input input (.inl rfl)
  rw [List.filter_cons_of_pos (by simp)] at projected
  have isThere : input ∈ second.filter fun entry => entry = input ∨ entry = input := by
    rw [← projected]
    exact List.mem_cons_self
  exact List.mem_of_mem_filter isThere

theorem eq_nil (order : SameOrder footprints.Conflict [] second) : second = [] := by
  cases second with
  | nil => rfl
  | cons input inputs =>
      have projected := order input input (.inl rfl)
      rw [List.filter_cons_of_pos (by simp), List.filter_nil] at projected
      cases projected

end SameOrder

/-- Schedules that order all conflicts alike give the same answers and end in the same
store. -/
theorem Footprints.play_of_sameOrder [DecidableEq Input] {start : Key → Value}
    {first second : List Input} (order : SameOrder footprints.Conflict first second) :
    SameOutcome machine report start first second := by
  induction first generalizing second start with
  | nil => rw [order.eq_nil]; exact .refl start []
  | cons input inputs inductionHypothesis =>
      obtain ⟨before, after, rfl, isFirst⟩ := List.eq_append_cons_of_mem order.mem
      have sameRest : SameOutcome machine report (leaves machine start input) inputs
          (before ++ after) := inductionHypothesis (order.tail isFirst)
      have moved : SameOutcome machine report start (before ++ input :: after)
          (input :: before ++ after) := .move_front (order.apart_before isFirst)
      exact sameRest.cons.trans ⟨moved.1.symm, moved.2.symm⟩

end Schedules

end Footprint
