/-
Module: Airdrop.Library.Transition
Purpose: Runs of a deterministic machine that may refuse an input, with the
  complete record of attempts, and the induction rules every safety proof of
  this development uses.
Trusted boundary: none
Main exports: Machine, Entry, Machine.play, Run, Run.invariant, Run.trans,
  Run.split, Run.attempt_of_mem, Commit, commits, Run.commit_invariant,
  Run.commit_of_mem, Run.split_commits
-/
import Mathlib.Data.List.Induction

namespace Transition

/-- A machine answers an input with an outcome or refuses it with an error.
An outcome carries the state it leaves besides whatever it reports. -/
structure Machine (State Input Error Outcome : Type*) where
  step : State → Input → Except Error Outcome
  state : Outcome → State

/-- One attempt: the state it met, the input, and the machine's answer. -/
structure Entry (State Input Error Outcome : Type*) where
  before : State
  input : Input
  result : Except Error Outcome

variable {State Input Error Outcome : Type*}

/-- The attempt of `input` at `state`. -/
def Machine.attempt (machine : Machine State Input Error Outcome)
    (state : State) (input : Input) : Entry State Input Error Outcome :=
  { before := state, input := input, result := machine.step state input }

/-- The state after an attempt.  A refused attempt changes nothing. -/
def Entry.after (machine : Machine State Input Error Outcome)
    (entry : Entry State Input Error Outcome) : State :=
  match entry.result with
  | .ok outcome => machine.state outcome
  | .error _ => entry.before

theorem Entry.after_of_ok {machine : Machine State Input Error Outcome}
    {entry : Entry State Input Error Outcome} {outcome : Outcome}
    (committed : entry.result = .ok outcome) :
    entry.after machine = machine.state outcome := by
  simp [Entry.after, committed]

theorem Entry.after_of_error {machine : Machine State Input Error Outcome}
    {entry : Entry State Input Error Outcome} {failure : Error}
    (aborted : entry.result = .error failure) :
    entry.after machine = entry.before := by
  simp [Entry.after, aborted]

/-- An attempt that the machine accepted. -/
structure Commit (State Input Outcome : Type*) where
  before : State
  input : Input
  outcome : Outcome

/-- The accepted attempts of a history, the latest first. -/
def commits (history : List (Entry State Input Error Outcome)) :
    List (Commit State Input Outcome) :=
  history.filterMap fun entry =>
    match entry.result with
    | .ok outcome => some ⟨entry.before, entry.input, outcome⟩
    | .error _ => none

section Commits

variable {machine : Machine State Input Error Outcome} {state : State}
variable {input : Input} {history : List (Entry State Input Error Outcome)}

@[simp] theorem commits_nil :
    commits ([] : List (Entry State Input Error Outcome)) = [] := rfl

@[simp] theorem commits_append
    (later earlier : List (Entry State Input Error Outcome)) :
    commits (later ++ earlier) = commits later ++ commits earlier :=
  List.filterMap_append

theorem commits_of_ok {outcome : Outcome}
    (accepted : machine.step state input = .ok outcome) :
    commits (machine.attempt state input :: history) =
      ⟨state, input, outcome⟩ :: commits history := by
  simp [commits, Machine.attempt, accepted]

theorem commits_of_error {failure : Error}
    (refused : machine.step state input = .error failure) :
    commits (machine.attempt state input :: history) = commits history := by
  simp [commits, Machine.attempt, refused]

theorem mem_commits {commit : Commit State Input Outcome} :
    commit ∈ commits history ↔ ∃ entry ∈ history,
      entry.before = commit.before ∧ entry.input = commit.input ∧
        entry.result = .ok commit.outcome := by
  unfold commits
  rw [List.mem_filterMap]
  constructor
  · rintro ⟨entry, member, found⟩
    cases answer : entry.result with
    | ok outcome =>
        simp only [answer, Option.some.injEq] at found
        subst found
        exact ⟨entry, member, rfl, rfl, answer⟩
    | error failure => simp [answer] at found
  · rintro ⟨entry, member, before, input, answer⟩
    exact ⟨entry, member, by simp [answer, before, input]⟩

end Commits

/-- Finite runs with their history, the latest attempt first. -/
inductive Run (machine : Machine State Input Error Outcome) (start : State) :
    List (Entry State Input Error Outcome) → State → Prop where
  | start : Run machine start [] start
  | attempt {history : List (Entry State Input Error Outcome)} {state : State}
      (earlier : Run machine start history state) (input : Input) :
      Run machine start (machine.attempt state input :: history)
        ((machine.attempt state input).after machine)

/-- Feed a list of inputs to the machine, the first one first. -/
def Machine.play (machine : Machine State Input Error Outcome) (start : State)
    (inputs : List Input) : List (Entry State Input Error Outcome) × State :=
  inputs.foldl
    (fun sofar input =>
      let entry := machine.attempt sofar.2 input
      (entry :: sofar.1, entry.after machine))
    ([], start)

/-- The last input is attempted at the state that the others leave. -/
theorem Machine.play_append_singleton (machine : Machine State Input Error Outcome)
    (start : State) (inputs : List Input) (last : Input) :
    machine.play start (inputs ++ [last]) =
      (machine.attempt (machine.play start inputs).2 last :: (machine.play start inputs).1,
        (machine.attempt (machine.play start inputs).2 last).after machine) := by
  rw [Machine.play, List.foldl_append]
  rfl

/-- The rest is played from the state that the first input leaves. -/
theorem Machine.play_cons (machine : Machine State Input Error Outcome) (start : State)
    (input : Input) (inputs : List Input) :
    machine.play start (input :: inputs) =
      ((machine.play ((machine.attempt start input).after machine) inputs).1 ++
          [machine.attempt start input],
        (machine.play ((machine.attempt start input).after machine) inputs).2) := by
  induction inputs using List.reverseRecOn with
  | nil => rfl
  | append_singleton inputs last inductionHypothesis =>
      rw [← List.cons_append, play_append_singleton, inductionHypothesis,
        play_append_singleton, List.cons_append]

namespace Run

variable {machine : Machine State Input Error Outcome}
variable {start state : State}
variable {history : List (Entry State Input Error Outcome)}

/-- Extend a run by an input the machine accepts. -/
theorem commit (earlier : Run machine start history state) {input : Input}
    {outcome : Outcome} (accepted : machine.step state input = .ok outcome) :
    Run machine start (machine.attempt state input :: history)
      (machine.state outcome) := by
  have extended := earlier.attempt input
  have after : (machine.attempt state input).after machine =
      machine.state outcome := Entry.after_of_ok accepted
  rwa [after] at extended

/-- Playing a list of inputs is a run. -/
theorem play (machine : Machine State Input Error Outcome) (start : State)
    (inputs : List Input) :
    Run machine start (machine.play start inputs).1
      (machine.play start inputs).2 := by
  induction inputs using List.reverseRecOn with
  | nil => exact .start
  | append_singleton inputs input inductionHypothesis =>
      rw [Machine.play, List.foldl_append]
      exact inductionHypothesis.attempt input

/-- Playing attempts nothing but the given inputs. -/
theorem input_of_play {inputs : List Input} {entry : Entry State Input Error Outcome}
    (member : entry ∈ (machine.play start inputs).1) : entry.input ∈ inputs := by
  induction inputs using List.reverseRecOn with
  | nil => exact absurd member (by simp [Machine.play])
  | append_singleton inputs input inductionHypothesis =>
      rw [Machine.play, List.foldl_append] at member
      rcases List.mem_cons.mp member with rfl | isEarlier
      · exact List.mem_append_right _ (List.mem_singleton_self input)
      · exact List.mem_append_left _ (inductionHypothesis isEarlier)

/-- The induction rule for statements about a run and its history.  A refused
attempt leaves the state alone but is still recorded. -/
theorem invariant
    (Inv : List (Entry State Input Error Outcome) → State → Prop)
    (initial : Inv [] start)
    (committed : ∀ {history state input outcome},
      Run machine start history state → Inv history state →
      machine.step state input = .ok outcome →
      Inv (machine.attempt state input :: history) (machine.state outcome))
    (aborted : ∀ {history state input failure},
      Run machine start history state → Inv history state →
      machine.step state input = .error failure →
      Inv (machine.attempt state input :: history) state)
    (run : Run machine start history state) : Inv history state := by
  induction run with
  | start => exact initial
  | @attempt history state earlier input inductionHypothesis =>
      cases answer : machine.step state input with
      | ok outcome =>
          have after : (machine.attempt state input).after machine =
              machine.state outcome := Entry.after_of_ok answer
          rw [after]
          exact committed earlier inductionHypothesis answer
      | error failure =>
          have after : (machine.attempt state input).after machine = state :=
            Entry.after_of_error answer
          rw [after]
          exact aborted earlier inductionHypothesis answer

/-- The induction rule for statements about reachable states alone. -/
theorem state_invariant (Inv : State → Prop) (initial : Inv start)
    (committed : ∀ {state input outcome}, Inv state →
      machine.step state input = .ok outcome → Inv (machine.state outcome))
    (run : Run machine start history state) : Inv state := by
  apply invariant (fun _ state => Inv state) _ _ _ run
  · exact initial
  · intro _ _ _ _ _ holds accepted
    exact committed holds accepted
  · intro _ _ _ _ _ holds _
    exact holds

/-- The induction rule for statements about the accepted attempts of a run.  A
refused attempt is no case of it. -/
theorem commit_invariant
    (Inv : List (Commit State Input Outcome) → State → Prop)
    (initial : Inv [] start)
    (committed : ∀ {history state input outcome},
      Run machine start history state → Inv (commits history) state →
      machine.step state input = .ok outcome →
      Inv (⟨state, input, outcome⟩ :: commits history) (machine.state outcome))
    (run : Run machine start history state) : Inv (commits history) state := by
  apply invariant (fun history state => Inv (commits history) state) _ _ _ run
  · exact initial
  · intro history state input outcome earlier holds accepted
    rw [commits_of_ok accepted]
    exact committed earlier holds accepted
  · intro history state input failure earlier holds refused
    rw [commits_of_error refused]
    exact holds

/-- What every accepted attempt of a run keeps, a whole run keeps. -/
theorem related (Related : State → State → Prop) (refl : ∀ state, Related state state)
    (trans : ∀ {one two three}, Related one two → Related two three → Related one three)
    (step : ∀ entry ∈ history, ∀ outcome, machine.step entry.before entry.input = .ok outcome →
      Related entry.before (machine.state outcome))
    (run : Run machine start history state) : Related start state := by
  induction run with
  | start => exact refl start
  | @attempt history state earlier input inductionHypothesis =>
      have before := inductionHypothesis fun entry member =>
        step entry (List.mem_cons_of_mem _ member)
      cases answer : machine.step state input with
      | ok outcome =>
          have after : (machine.attempt state input).after machine = machine.state outcome :=
            Entry.after_of_ok answer
          rw [after]
          exact trans before (step _ List.mem_cons_self outcome answer)
      | error failure =>
          have after : (machine.attempt state input).after machine = state :=
            Entry.after_of_error answer
          rwa [after]

/-- Runs compose, the later history in front. -/
theorem trans {middle : State}
    {later : List (Entry State Input Error Outcome)}
    (first : Run machine start history middle)
    (second : Run machine middle later state) :
    Run machine start (later ++ history) state := by
  induction second with
  | start => exact first
  | attempt _ input inductionHypothesis => exact inductionHypothesis.attempt input

/-- A run can be cut anywhere. -/
theorem split {later : List (Entry State Input Error Outcome)}
    (run : Run machine start (later ++ history) state) :
    ∃ middle, Run machine start history middle ∧
      Run machine middle later state := by
  induction later generalizing state with
  | nil => exact ⟨state, run, .start⟩
  | cons entry later inductionHypothesis =>
      cases run with
      | attempt earlier input =>
          obtain ⟨middle, first, second⟩ := inductionHypothesis earlier
          exact ⟨middle, first, second.attempt input⟩

/-- The latest entry of a run is an attempt at the state the rest reached. -/
theorem head {entry : Entry State Input Error Outcome}
    (run : Run machine start (entry :: history) state) :
    Run machine start history entry.before ∧
      entry = machine.attempt entry.before entry.input ∧
      state = entry.after machine := by
  cases run with
  | attempt earlier input => exact ⟨earlier, rfl, rfl⟩

/-- Every recorded entry was an attempt at a state that the run had reached. -/
theorem attempt_of_mem {entry : Entry State Input Error Outcome}
    (run : Run machine start history state) (member : entry ∈ history) :
    ∃ later earlier, history = later ++ entry :: earlier ∧
      Run machine start earlier entry.before ∧
      entry = machine.attempt entry.before entry.input ∧
      Run machine (entry.after machine) later state := by
  obtain ⟨later, earlier, rfl⟩ := List.append_of_mem member
  obtain ⟨middle, first, second⟩ := run.split
  obtain ⟨before, same, rfl⟩ := first.head
  exact ⟨later, earlier, rfl, before, same, second⟩

/-- Every accepted attempt was accepted at a state that the run had reached, and
the run went on from its outcome. -/
theorem commit_of_mem {commit : Commit State Input Outcome}
    (run : Run machine start history state) (member : commit ∈ commits history) :
    ∃ later earlier, commits history = commits later ++ commit :: commits earlier ∧
      Run machine start earlier commit.before ∧
      machine.step commit.before commit.input = .ok commit.outcome ∧
      Run machine (machine.state commit.outcome) later state := by
  obtain ⟨entry, entryMember, before, input, answer⟩ := mem_commits.mp member
  obtain ⟨later, earlier, rfl, reached, same, rest⟩ := run.attempt_of_mem entryMember
  have accepted : machine.step commit.before commit.input = .ok commit.outcome := by
    rw [← answer, same, ← before, ← input]
    rfl
  refine ⟨later, earlier, ?_, before ▸ reached, accepted, ?_⟩
  · rw [commits_append, same, before, input, commits_of_ok accepted]
  · rwa [Entry.after_of_ok answer] at rest

/-- A run can be cut at each accepted attempt. -/
theorem split_commits {later earlier : List (Commit State Input Outcome)}
    {commit : Commit State Input Outcome} (run : Run machine start history state)
    (parts : commits history = later ++ commit :: earlier) :
    ∃ laterHistory earlierHistory, commits laterHistory = later ∧
      commits earlierHistory = earlier ∧ Run machine start earlierHistory commit.before ∧
      machine.step commit.before commit.input = .ok commit.outcome ∧
      Run machine (machine.state commit.outcome) laterHistory state := by
  obtain ⟨front, back, rfl, isLater, isBack⟩ := List.filterMap_eq_append_iff.mp parts
  obtain ⟨refused, entry, rest, rfl, noCommit, isCommit, isEarlier⟩ :=
    List.filterMap_eq_cons_iff.mp isBack
  obtain ⟨middle, first, second⟩ := run.split
  obtain ⟨reached, third, fourth⟩ := first.split
  obtain ⟨before, same, rfl⟩ := third.head
  have isRefused : commits refused = [] := List.filterMap_eq_nil_iff.mpr noCommit
  cases answer : entry.result with
  | error failure => simp [answer] at isCommit
  | ok outcome =>
      simp only [answer, Option.some.injEq] at isCommit
      subst isCommit
      have accepted : machine.step entry.before entry.input = .ok outcome := by
        rw [← answer, same]
        rfl
      rw [Entry.after_of_ok answer] at fourth
      refine ⟨front ++ refused, rest, ?_, isEarlier, before, accepted, fourth.trans second⟩
      rw [commits_append, isRefused, List.append_nil]
      exact isLater

end Run

end Transition
