/-
Module: Airdrop.Library.Reordering
Purpose: Operations that can be exchanged two by two can be performed in any
  order, and all orders end in the same state.
Trusted boundary: none
Main exports: Performs, Performs.perm
-/
import Mathlib.Data.List.Perm.Basic

namespace Reordering

variable {State Operation : Type*}

/-- Operations performed one after another, each of which succeeds. -/
inductive Performs (step : State → Operation → State → Prop) :
    State → List Operation → State → Prop where
  | nil (state : State) : Performs step state [] state
  | cons {before middle after : State} {operation : Operation}
      {later : List Operation} (now : step before operation middle)
      (rest : Performs step middle later after) :
      Performs step before (operation :: later) after

section Performs

variable {step : State → Operation → State → Prop} {before after : State}
variable {first second : List Operation}

/-- When operations that are apart can be exchanged in every state that satisfies an
invariant, operations that are pairwise apart can be performed in any order, and
end in the same state. -/
theorem Performs.perm (Inv : State → Prop) {Apart : Operation → Operation → Prop}
    (symmetric : ∀ {one other}, Apart one other → Apart other one)
    (keep : ∀ {before operation after}, Inv before → step before operation after →
      Inv after)
    (exchange : ∀ {before middle after one other}, Inv before → Apart one other →
      step before one middle → step middle other after →
      ∃ between, step before other between ∧ step between one after)
    (order : first.Perm second) (apart : first.Pairwise Apart)
    (initially : Inv before) (performs : Performs step before first after) :
    Performs step before second after := by
  induction order generalizing before with
  | nil => exact performs
  | cons operation order inductionHypothesis =>
      cases performs with
      | cons now rest =>
          exact .cons now (inductionHypothesis (List.pairwise_cons.mp apart).2
            (keep initially now) rest)
  | swap other one later =>
      cases performs with
      | cons now rest =>
          cases rest with
          | cons next rest =>
              have isApart := (List.pairwise_cons.mp apart).1 other List.mem_cons_self
              obtain ⟨between, sooner, later⟩ := exchange initially isApart now next
              exact .cons sooner (.cons later rest)
  | trans order next firstHypothesis secondHypothesis =>
      have stillApart := apart.perm order symmetric
      exact secondHypothesis stillApart initially
        (firstHypothesis apart initially performs)

end Performs

end Reordering
