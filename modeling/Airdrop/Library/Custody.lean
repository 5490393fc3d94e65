/-
Module: Airdrop.Library.Custody
Purpose: Programs that hold a key while they wait for some of their calls, and the rule by
  which what the holder of a key relies on stays true until it gives the key up, as long as
  a key is taken only while no other program holds it.
Trusted boundary: none
Main exports: Program.held, Program.held_bind, Conducts, Conducts.bind, Conducts.after,
  Custody, HandedOver, Safekeeping, Safekeeping.run
-/
import Airdrop.Library.Interference

namespace Interference

open Transition

variable {World Call : Type} {Answer : Call → Type}
variable {Choice Event Job Result Next Key : Type}

/-! ## Programs that hold keys -/

/-- The key that a program holds while it waits for its next call. -/
def Program.held (holds : Call → Option Key) (program : Program Call Answer Result) :
    Option Key :=
  program.request?.bind holds

/-- A sequence of two programs that start with empty hands starts so too. -/
theorem Program.held_bind {holds : Call → Option Key} {first : Program Call Answer Result}
    {next : Result → Program Call Answer Next} (idle : first.held holds = none)
    (idleNext : ∀ result, (next result).held holds = none) :
    (first >>= next).held holds = none := by
  cases first with
  | done result => exact idleNext result
  | call request rest => exact idle

section Conducts

variable (holds : Call → Option Key)
variable (answers : World → (request : Call) → Choice → Option (Answer request × World))
variable (Rely : World → World → Prop)
variable (Step : World → Call → Choice → Option Key → World → Prop)

/-- From this world on, each call of the program is a step to the key that the program holds
after it, as long as the world changes within `Rely` between two calls. -/
def Conducts : Program Call Answer Result → World → Prop
  | .done _, _ => True
  | .call request rest, world =>
      ∀ found, Rely world found → ∀ choice answer left,
        answers found request choice = some (answer, left) →
        Step found request choice ((rest answer).held holds) left ∧
          Conducts (rest answer) left

variable {holds answers Rely Step}
variable {program : Program Call Answer Result} {world later : World}

/-- A sequence conducts itself as its parts do, if the second one starts with empty hands. -/
theorem Conducts.bind {next : Result → Program Call Answer Next}
    (first : Conducts holds answers Rely Step program world)
    (idle : ∀ result, (next result).held holds = none)
    (second : ∀ result left, Conducts holds answers Rely Step (next result) left) :
    Conducts holds answers Rely Step (program >>= next) world := by
  induction program generalizing world with
  | done result => exact second result world
  | call request rest inductionHypothesis =>
      intro found change choice answer left answered
      rcases first found change choice answer left answered with ⟨within, after⟩
      refine ⟨?_, inductionHypothesis answer after⟩
      have same : (rest answer >>= next).held holds = (rest answer).held holds := by
        cases rest answer with
        | done result => exact idle result
        | call request rest => rfl
      change Step found request choice ((rest answer >>= next).held holds) left
      rw [same]
      exact within

/-- A program conducts itself in the same way after a change that it relies on. -/
theorem Conducts.after
    (trans : ∀ {one two three}, Rely one two → Rely two three → Rely one three)
    (conducts : Conducts holds answers Rely Step program world)
    (change : Rely world later) : Conducts holds answers Rely Step program later := by
  cases program with
  | done result => trivial
  | call request rest =>
      intro found further
      exact conducts found (trans change further)

end Conducts

/-! ## Runs -/

section Runs

variable (system : System World Call Answer Choice Event Job Result)
variable (holds : Call → Option Key)
variable (Allowed : Configuration World Call Answer Result → Input Choice Event Job → Prop)
variable (Rely : World → World → Prop)
variable (Step : World → Call → Choice → Option Key → World → Prop)
variable (Secure : World → Key → Prop) (Good : World → Prop)

/-- What holds of every configuration of a run: a key is held once, and what its holder
relies on is true. -/
structure Custody (configuration : Configuration World Call Answer Result) : Prop where
  good : Good configuration.world
  conducts : ∀ program ∈ configuration.programs,
    Conducts holds system.answer Rely Step program configuration.world
  sole : ∀ {one other : Nat} {key : Key},
    configuration.programs[one]?.bind (Program.held holds) = some key →
      configuration.programs[other]?.bind (Program.held holds) = some key → one = other
  secure : ∀ program ∈ configuration.programs, ∀ key ∈ program.held holds,
    Secure configuration.world key

/-- What the step of one program does to the keys: the others keep what they rely on, and a
key that the program holds next it held before, or nobody did. -/
structure HandedOver (before : Configuration World Call Answer Result) (request : Call)
    (next : Option Key) (left : World) : Prop where
  relied : Rely before.world left
  good : Good left
  others : ∀ key, holds request ≠ some key → Secure before.world key → Secure left key
  taken : ∀ key ∈ next, Secure left key ∧
    (holds request = some key ∨ ∀ program ∈ before.programs, program.held holds ≠ some key)

/-- The rule's premises. -/
structure Safekeeping : Prop where
  refl : ∀ world, Rely world world
  trans : ∀ {one two three}, Rely one two → Rely two three → Rely one three
  started : ∀ job world, Conducts holds system.answer Rely Step (system.program job) world
  idle : ∀ job, (system.program job).held holds = none
  called : ∀ {before position choice request next left}, Good before.world →
    Allowed before (.call position choice) →
    before.programs[position]?.bind Program.request? = some request →
    (∀ key ∈ holds request, Secure before.world key) →
    Step before.world request choice next left →
    HandedOver holds Rely Secure Good before request next left
  changed : ∀ {before event left}, Good before.world → Allowed before (.event event) →
    system.change before.world event = some left →
    Rely before.world left ∧ Good left ∧ ∀ program ∈ before.programs,
      ∀ key ∈ program.held holds, Secure before.world key → Secure left key

variable {system holds Allowed Rely Step Secure Good}

/-- Before any program is started. -/
theorem Custody.start {world : World} (good : Good world) :
    Custody system holds Rely Step Secure Good { world, programs := [] } := by
  refine ⟨good, by simp, ?_, by simp⟩
  intro one other key held
  simp at held

namespace Safekeeping

variable {before after start configuration : Configuration World Call Answer Result}
variable {input : Input Choice Event Job}

/-- The call of one program leaves every key with one holder, which may rely on it. -/
theorem moved (safe : Safekeeping system holds Allowed Rely Step Secure Good)
    (custody : Custody system holds Rely Step Secure Good before) {position : Nat}
    {choice : Choice} {request : Call} {answer : Answer request}
    {rest : Answer request → Program Call Answer Result} {world : World}
    (allowed : Allowed before (.call position choice))
    (current : before.programs[position]? = some (.call request rest))
    (answered : system.answer before.world request choice = some (answer, world)) :
    Custody system holds Rely Step Secure Good
      { world, programs := before.programs.set position (rest answer) } := by
  have isProgram := List.mem_of_getElem? current
  have here := (List.getElem?_eq_some_iff.mp current).1
  have asked : before.programs[position]?.bind Program.request? = some request := by
    rw [current]
    rfl
  have holding : before.programs[position]?.bind (Program.held holds) = holds request := by
    rw [current]
    rfl
  obtain ⟨within, after⟩ := custody.conducts _ isProgram before.world (safe.refl _) choice
    answer world answered
  have handed := safe.called custody.good allowed asked
    (fun key held => custody.secure _ isProgram key held) within
  -- a program at another place held its key before, so this one did not
  have elsewhere {place : Nat} {program : Program Call Answer Result} {key : Key}
      (apart : position ≠ place)
      (found : (before.programs.set position (rest answer))[place]? = some program)
      (held : program.held holds = some key) :
      before.programs[place]? = some program ∧ holds request ≠ some key := by
    rw [List.getElem?_set_ne apart] at found
    refine ⟨found, fun same => apart ?_⟩
    apply custody.sole (holding.trans same)
    rw [found]
    exact held
  -- nor does it take that key now
  have untaken {place : Nat} {program : Program Call Answer Result} {key : Key}
      (apart : position ≠ place)
      (found : (before.programs.set position (rest answer))[place]? = some program)
      (held : program.held holds = some key) : (rest answer).held holds ≠ some key := by
    intro takes
    obtain ⟨earlier, notOwn⟩ := elsewhere apart found held
    rcases (handed.taken key takes).2 with own | nobody
    · exact notOwn own
    · exact nobody program (List.mem_of_getElem? earlier) held
  constructor
  · exact handed.good
  · intro program member
    rcases List.mem_or_eq_of_mem_set member with earlier | rfl
    · exact (custody.conducts program earlier).after safe.trans handed.relied
    · exact after
  · intro one other key first second
    obtain ⟨program, isFirst, firstHolds⟩ := Option.bind_eq_some_iff.mp first
    obtain ⟨holder, isSecond, secondHolds⟩ := Option.bind_eq_some_iff.mp second
    by_cases isOne : position = one
    · by_cases isOther : position = other
      · exact isOne.symm.trans isOther
      · rw [← isOne, List.getElem?_set_self here, Option.some.injEq] at isFirst
        rw [← isFirst] at firstHolds
        exact absurd firstHolds (untaken isOther isSecond secondHolds)
    · by_cases isOther : position = other
      · rw [← isOther, List.getElem?_set_self here, Option.some.injEq] at isSecond
        rw [← isSecond] at secondHolds
        exact absurd secondHolds (untaken isOne isFirst firstHolds)
      · rw [List.getElem?_set_ne isOne] at isFirst
        rw [List.getElem?_set_ne isOther] at isSecond
        apply custody.sole
        · rw [isFirst]
          exact firstHolds
        · rw [isSecond]
          exact secondHolds
  · intro program member key held
    obtain ⟨place, found⟩ := List.mem_iff_getElem?.mp member
    by_cases apart : position = place
    · rw [← apart, List.getElem?_set_self here, Option.some.injEq] at found
      rw [← found] at held
      exact (handed.taken key held).1
    · obtain ⟨earlier, notOwn⟩ := elsewhere apart found held
      exact handed.others key notOwn
        (custody.secure program (List.mem_of_getElem? earlier) key held)

/-- One allowed step keeps every key with one holder, which may rely on it. -/
theorem step (safe : Safekeeping system holds Allowed Rely Step Secure Good)
    (custody : Custody system holds Rely Step Secure Good before)
    (allowed : Allowed before input) (accepted : system.step before input = .ok after) :
    Custody system holds Rely Step Secure Good after := by
  cases system.step_cases accepted with
  | @started job admitted =>
      -- the new program holds nothing
      have earlier {place : Nat} {key : Key}
          (held : (before.programs ++ [system.program job])[place]?.bind
            (Program.held holds) = some key) :
          before.programs[place]?.bind (Program.held holds) = some key := by
        obtain ⟨program, found, holding⟩ := Option.bind_eq_some_iff.mp held
        by_cases isEarlier : place < before.programs.length
        · rw [List.getElem?_append_left isEarlier] at found
          rw [found]
          exact holding
        · rw [List.getElem?_append_right (Nat.le_of_not_lt isEarlier)] at found
          rw [List.mem_singleton.mp (List.mem_of_getElem? found), safe.idle] at holding
          cases holding
      constructor
      · exact custody.good
      · intro program member
        rcases List.mem_append.mp member with earlier | new
        · exact custody.conducts program earlier
        · rw [List.mem_singleton.mp new]
          exact safe.started job before.world
      · intro one other key first second
        exact custody.sole (earlier first) (earlier second)
      · intro program member key held
        rcases List.mem_append.mp member with earlier | new
        · exact custody.secure program earlier key held
        · rw [List.mem_singleton.mp new, safe.idle] at held
          cases held
  | called current answered => exact safe.moved custody allowed current answered
  | changed changed =>
      obtain ⟨relied, good, kept⟩ := safe.changed custody.good allowed changed
      constructor
      · exact good
      · intro program member
        exact (custody.conducts program member).after safe.trans relied
      · exact custody.sole
      · intro program member key held
        exact kept program member key held (custody.secure program member key held)

/-- Every run whose steps are allowed keeps every key with one holder, which may rely on
it. -/
theorem run (safe : Safekeeping system holds Allowed Rely Step Secure Good)
    (custody : Custody system holds Rely Step Secure Good start)
    {history : List (Entry (Configuration World Call Answer Result)
      (Input Choice Event Job) Unit (Configuration World Call Answer Result))}
    (run : Run system.machine start history configuration)
    (allowed : ∀ entry ∈ history, Allowed entry.before entry.input) :
    Custody system holds Rely Step Secure Good configuration := by
  have kept := run.invariant
    (fun history configuration => (∀ entry ∈ history, Allowed entry.before entry.input) →
      Custody system holds Rely Step Secure Good configuration)
  apply kept
  · intro _
    exact custody
  · intro history state input outcome _ inductionHypothesis accepted allowed
    rw [List.forall_mem_cons] at allowed
    exact safe.step (inductionHypothesis allowed.2) allowed.1 accepted
  · intro history state input failure _ inductionHypothesis _ allowed
    rw [List.forall_mem_cons] at allowed
    exact inductionHypothesis allowed.2
  · exact allowed

end Safekeeping

end Runs

end Interference
