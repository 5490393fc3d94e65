/-
Module: Airdrop.Library.Allocation
Purpose: Machines over a store in which others make room while they run: what was allocated in
  the course of a run might as well have been there from the start.
Trusted boundary: none
Main exports: Growable, Growable.run, AllocatingRun, AllocatingRun.trans,
  AllocatingRun.allocated_first
-/
import Airdrop.Library.Transition
import Mathlib.Logic.Function.Basic

namespace Allocation

open Transition

variable {Key Value Input Error Outcome : Type*} [DecidableEq Key]

/-- One value more at an allowed key, where there is none, does not stop the machine and is
not touched by it; and at such a key no value disappears. -/
structure Growable (machine : Machine (Key → Option Value) Input Error Outcome)
    (Good : (Key → Option Value) → Prop) (Allowed : Key → Value → Prop) : Prop where
  step : ∀ {store input outcome}, Good store → machine.step store input = .ok outcome →
    Good (machine.state outcome)
  allocate : ∀ {store key value}, Good store → Allowed key value →
    Good (Function.update store key (some value))
  kept : ∀ {store input outcome key value}, Good store → Allowed key value →
    machine.step store input = .ok outcome → machine.state outcome key = none →
    store key = none
  grown : ∀ {store input outcome key value}, Allowed key value → store key = none →
    machine.step store input = .ok outcome →
    ∃ more, machine.step (Function.update store key (some value)) input = .ok more ∧
      machine.state more = Function.update (machine.state outcome) key (some value)

/-- A run that others interrupt to allocate values.  The inputs that were accepted are listed,
the latest first. -/
inductive AllocatingRun (machine : Machine (Key → Option Value) Input Error Outcome)
    (Allowed : Key → Value → Prop) (start : Key → Option Value) :
    List Input → (Key → Option Value) → Prop where
  | start : AllocatingRun machine Allowed start [] start
  | step {inputs : List Input} {store : Key → Option Value} {input : Input} {outcome : Outcome}
      (earlier : AllocatingRun machine Allowed start inputs store)
      (accepted : machine.step store input = .ok outcome) :
      AllocatingRun machine Allowed start (input :: inputs) (machine.state outcome)
  | allocate {inputs : List Input} {store : Key → Option Value} {key : Key} {value : Value}
      (earlier : AllocatingRun machine Allowed start inputs store) (free : store key = none)
      (allowed : Allowed key value) :
      AllocatingRun machine Allowed start inputs (Function.update store key (some value))

section Runs

variable {machine : Machine (Key → Option Value) Input Error Outcome}
variable {Good : (Key → Option Value) → Prop} {Allowed : Key → Value → Prop}
variable {start middle store : Key → Option Value}
variable {history : List (Entry (Key → Option Value) Input Error Outcome)}
variable {earlierInputs laterInputs inputs : List Input} {key : Key} {value : Value}

/-- What is free at the end of a run was free all along, and the run could have been made with
a value there. -/
theorem Growable.run (growable : Growable machine Good Allowed) (good : Good start)
    (run : Run machine start history store) (allowed : Allowed key value)
    (free : store key = none) :
    start key = none ∧ ∃ grown,
      Run machine (Function.update start key (some value)) grown
        (Function.update store key (some value)) ∧
      (commits grown).map Commit.input = (commits history).map Commit.input := by
  induction run with
  | start => exact ⟨free, [], .start, rfl⟩
  | @attempt history store earlier input inductionHypothesis =>
      have goodBefore : Good store :=
        earlier.state_invariant Good good fun holds accepted => growable.step holds accepted
      cases answer : machine.step store input with
      | ok outcome =>
          have after : (machine.attempt store input).after machine = machine.state outcome :=
            Entry.after_of_ok answer
          rw [after] at free ⊢
          have freeBefore := growable.kept goodBefore allowed answer free
          obtain ⟨freeStart, grown, reached, same⟩ := inductionHypothesis freeBefore
          obtain ⟨more, accepted, isAfter⟩ := growable.grown allowed freeBefore answer
          refine ⟨freeStart, _, isAfter ▸ reached.commit accepted, ?_⟩
          rw [commits_of_ok accepted, commits_of_ok answer, List.map_cons, List.map_cons, same]
      | error failure =>
          have after : (machine.attempt store input).after machine = store :=
            Entry.after_of_error answer
          rw [after] at free ⊢
          obtain ⟨freeStart, grown, reached, same⟩ := inductionHypothesis free
          refine ⟨freeStart, grown, reached, ?_⟩
          rw [commits_of_error answer, same]

theorem AllocatingRun.trans (first : AllocatingRun machine Allowed start earlierInputs middle)
    (second : AllocatingRun machine Allowed middle laterInputs store) :
    AllocatingRun machine Allowed start (laterInputs ++ earlierInputs) store := by
  induction second with
  | start => exact first
  | step earlier accepted inductionHypothesis => exact inductionHypothesis.step accepted
  | allocate earlier free allowed inductionHypothesis =>
      exact inductionHypothesis.allocate free allowed

/-- The values could have been allocated before the run, which then accepts the same inputs
and ends in the same store. -/
theorem AllocatingRun.allocated_first (growable : Growable machine Good Allowed)
    (good : Good start) (run : AllocatingRun machine Allowed start inputs store) :
    ∃ prepared history, Good prepared ∧ Run machine prepared history store ∧
      (commits history).map Commit.input = inputs ∧
      ∀ key, prepared key = start key ∨
        start key = none ∧ ∃ value, prepared key = some value ∧ Allowed key value := by
  induction run with
  | start => exact ⟨start, [], good, .start, rfl, fun _ => .inl rfl⟩
  | step earlier accepted inductionHypothesis =>
      obtain ⟨prepared, history, isGood, reached, same, extended⟩ := inductionHypothesis
      refine ⟨prepared, _, isGood, reached.commit accepted, ?_, extended⟩
      rw [commits_of_ok accepted, List.map_cons, same]
  | @allocate inputs store key value earlier free allowed inductionHypothesis =>
      obtain ⟨prepared, history, isGood, reached, same, extended⟩ := inductionHypothesis
      obtain ⟨freeStart, grown, regrown, sameInputs⟩ := growable.run isGood reached allowed free
      refine ⟨_, grown, growable.allocate isGood allowed, regrown, sameInputs.trans same, ?_⟩
      intro place
      by_cases here : place = key
      · subst here
        right
        refine ⟨?_, value, Function.update_self _ _ _, allowed⟩
        rcases extended place with kept | ⟨absent, _⟩
        · rw [← kept, freeStart]
        · exact absent
      · rw [Function.update_of_ne here]
        exact extended place

end Runs

end Allocation
