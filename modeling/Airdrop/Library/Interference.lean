/-
Module: Airdrop.Library.Interference
Purpose: Programs that call out to a world which others change between two calls, the
  machine that runs several of them at once, and the rule by which a property that each
  program keeps, whatever the others do, holds in every run.
Trusted boundary: none
Main exports: Program, Program.ask, Program.serve, System, System.machine, Keeps, Keeps.bind,
  Keeps.after, Keeps.since, Invariant, Invariant.single, Sound, Sound.run, Sound.related
-/
import Airdrop.Library.Transition

namespace Interference

open Transition

/-! ## Programs -/

/-- A program that makes calls, and computes on its own between them. -/
inductive Program (Call : Type) (Answer : Call → Type) (Result : Type) where
  | done (result : Result)
  | call (request : Call) (rest : Answer request → Program Call Answer Result)

namespace Program

variable {Call : Type} {Answer : Call → Type} {Result Next : Type}

/-- Run one program after the other. -/
def bind (first : Program Call Answer Result)
    (next : Result → Program Call Answer Next) : Program Call Answer Next :=
  match first with
  | .done result => next result
  | .call request rest => .call request fun answer => (rest answer).bind next

instance : Monad (Program Call Answer) where
  pure := done
  bind := bind

/-- The program of a single call. -/
def ask (request : Call) : Program Call Answer (Answer request) :=
  .call request .done

/-- The call that the program waits for. -/
def request? : Program Call Answer Result → Option Call
  | .done _ => none
  | .call request _ => some request

/-- What the program returned, once it is done. -/
def result? : Program Call Answer Result → Option Result
  | .done result => some result
  | .call _ _ => none

theorem result?_eq_some {program : Program Call Answer Result} {result : Result} :
    program.result? = some result ↔ program = .done result := by
  cases program <;> simp [result?]

@[simp] theorem pure_eq (result : Result) :
    (pure result : Program Call Answer Result) = .done result := rfl

@[simp] theorem done_bind (result : Result) (next : Result → Program Call Answer Next) :
    (Program.done result >>= next) = next result := rfl

@[simp] theorem call_bind (request : Call)
    (rest : Answer request → Program Call Answer Result)
    (next : Result → Program Call Answer Next) :
    (Program.call request rest >>= next) =
      .call request fun answer => rest answer >>= next := rfl

@[simp] theorem ask_bind (request : Call)
    (next : Answer request → Program Call Answer Next) :
    ((ask request : Program Call Answer _) >>= next) = .call request next := rfl

/-- Run a program on its own, in a world that answers every call. -/
def serve {World : Type} (answer : World → (request : Call) → Answer request × World) :
    Program Call Answer Result → World → Result × World
  | .done result, world => (result, world)
  | .call request rest, world =>
      (rest (answer world request).1).serve answer (answer world request).2

section Serve

variable {World : Type} {answer : World → (request : Call) → Answer request × World}
variable {world : World}

@[simp] theorem serve_done (result : Result) :
    (Program.done result : Program Call Answer Result).serve answer world = (result, world) :=
  rfl

@[simp] theorem serve_call (request : Call)
    (rest : Answer request → Program Call Answer Result) :
    (Program.call request rest).serve answer world =
      (rest (answer world request).1).serve answer (answer world request).2 := rfl

/-- The second program runs in the world that the first one leaves. -/
@[simp] theorem serve_bind (first : Program Call Answer Result)
    (next : Result → Program Call Answer Next) :
    (first >>= next).serve answer world =
      (next (first.serve answer world).1).serve answer (first.serve answer world).2 := by
  induction first generalizing world with
  | done result => rfl
  | call request rest inductionHypothesis =>
      rw [call_bind, serve_call, serve_call, inductionHypothesis]

end Serve

end Program

/-! ## Running programs side by side -/

/-- What programs are run against.  How a call is answered is chosen from outside, and so
is which event changes the world.  A job starts a program where it is admitted. -/
structure System (World Call : Type) (Answer : Call → Type)
    (Choice Event Job Result : Type) where
  admits : List (Program Call Answer Result) → Job → Bool
  program : Job → Program Call Answer Result
  answer : World → (request : Call) → Choice → Option (Answer request × World)
  change : World → Event → Option World

/-- The world and the programs that were started, the first one first. -/
structure Configuration (World Call : Type) (Answer : Call → Type) (Result : Type) where
  world : World
  programs : List (Program Call Answer Result)

/-- What happens next: a job is started, the call of one program is answered, or an event
changes the world. -/
inductive Input (Choice Event Job : Type) where
  | start (job : Job)
  | call (position : Nat) (choice : Choice)
  | event (event : Event)

namespace System

variable {World Call : Type} {Answer : Call → Type}
variable {Choice Event Job Result Next : Type}

section Machine

variable (system : System World Call Answer Choice Event Job Result)

/-- One step of the system. -/
def step (configuration : Configuration World Call Answer Result) :
    Input Choice Event Job → Except Unit (Configuration World Call Answer Result)
  | .start job =>
      if system.admits configuration.programs job then
        .ok { configuration with
          programs := configuration.programs ++ [system.program job] }
      else .error ()
  | .call position choice =>
      match configuration.programs[position]? with
      | some (.call request rest) =>
          match system.answer configuration.world request choice with
          | some (answer, world) =>
              .ok
                { world
                  programs := configuration.programs.set position (rest answer) }
          | none => .error ()
      | _ => .error ()
  | .event event =>
      match system.change configuration.world event with
      | some world => .ok { configuration with world }
      | none => .error ()

/-- What a step can be. -/
inductive Stepped (before : Configuration World Call Answer Result) :
    Input Choice Event Job → Configuration World Call Answer Result → Prop where
  | started {job : Job} (admitted : system.admits before.programs job = true) :
      Stepped before (.start job)
        { before with programs := before.programs ++ [system.program job] }
  | called {position : Nat} {choice : Choice} {request : Call} {answer : Answer request}
      {rest : Answer request → Program Call Answer Result} {world : World}
      (current : before.programs[position]? = some (.call request rest))
      (answered : system.answer before.world request choice = some (answer, world)) :
      Stepped before (.call position choice)
        { world, programs := before.programs.set position (rest answer) }
  | changed {event : Event} {world : World}
      (changed : system.change before.world event = some world) :
      Stepped before (.event event) { before with world }

theorem step_cases {before after : Configuration World Call Answer Result}
    {input : Input Choice Event Job} (accepted : system.step before input = .ok after) :
    system.Stepped before input after := by
  cases input with
  | start job =>
      rw [step] at accepted
      split at accepted
      case isFalse => cases accepted
      case isTrue admitted =>
        cases accepted
        exact .started admitted
  | call position choice =>
      rw [step] at accepted
      split at accepted
      case h_2 => cases accepted
      case h_1 request rest current =>
        split at accepted
        case h_2 => cases accepted
        case h_1 answer world answered =>
          cases accepted
          exact .called current answered
  | event event =>
      rw [step] at accepted
      split at accepted
      case h_2 => cases accepted
      case h_1 world changed =>
        cases accepted
        exact .changed changed

/-- The system as a machine. -/
def machine : Machine (Configuration World Call Answer Result) (Input Choice Event Job)
    Unit (Configuration World Call Answer Result) :=
  { step := system.step, state := id }

end Machine

end System

/-! ## What a program keeps, whatever the others do -/

section Keeps

variable {World Call : Type} {Answer : Call → Type}
variable {Choice Event Job Result Next : Type}

variable (answers : World → (request : Call) → Choice → Option (Answer request × World))
variable (Allowed : World → Call → Choice → Prop)
variable (Rely Guarantee : World → World → Prop)

/-- From this world on, each call of the program that is answered in an allowed way stays
within `Guarantee`, as long as the world changes within `Rely` between two calls; and what
the program returns satisfies `Ensures`. -/
def Keeps (Ensures : Result → World → Prop) : Program Call Answer Result → World → Prop
  | .done result, world => Ensures result world
  | .call request rest, world =>
      ∀ found, Rely world found → ∀ choice answer left, Allowed found request choice →
        answers found request choice = some (answer, left) →
        Guarantee found left ∧ Keeps Ensures (rest answer) left

variable {answers Allowed Rely Guarantee}
variable {program : Program Call Answer Result} {world later : World}
variable {Ensures Weaker : Result → World → Prop}

theorem Keeps.weaken (weaker : ∀ result world, Ensures result world → Weaker result world)
    (keeps : Keeps answers Allowed Rely Guarantee Ensures program world) :
    Keeps answers Allowed Rely Guarantee Weaker program world := by
  induction program generalizing world with
  | done result => exact weaker result world keeps
  | call request rest inductionHypothesis =>
      intro found change choice answer left allowed answered
      rcases keeps found change choice answer left allowed answered with ⟨within, after⟩
      exact ⟨within, inductionHypothesis answer after⟩

/-- Two things that are ensured are ensured together. -/
theorem Keeps.and {Also : Result → World → Prop}
    (first : Keeps answers Allowed Rely Guarantee Ensures program world)
    (second : Keeps answers Allowed Rely Guarantee Also program world) :
    Keeps answers Allowed Rely Guarantee
      (fun result left => Ensures result left ∧ Also result left) program world := by
  induction program generalizing world with
  | done result => exact ⟨first, second⟩
  | call request rest inductionHypothesis =>
      intro found change choice answer left allowed answered
      rcases first found change choice answer left allowed answered with ⟨within, one⟩
      rcases second found change choice answer left allowed answered with ⟨_, two⟩
      exact ⟨within, inductionHypothesis answer one two⟩

/-- A sequence keeps what its parts keep. -/
theorem Keeps.bind {next : Result → Program Call Answer Next}
    {Finally : Next → World → Prop}
    (first : Keeps answers Allowed Rely Guarantee
      (fun result => Keeps answers Allowed Rely Guarantee Finally (next result))
      program world) :
    Keeps answers Allowed Rely Guarantee Finally (program >>= next) world := by
  induction program generalizing world with
  | done result => exact first
  | call request rest inductionHypothesis =>
      intro found change choice answer left allowed answered
      rcases first found change choice answer left allowed answered with ⟨within, after⟩
      exact ⟨within, inductionHypothesis answer after⟩

/-- What a program keeps it still keeps after a change that it relies on. -/
theorem Keeps.after
    (trans : ∀ {one two three}, Rely one two → Rely two three → Rely one three)
    (stable : ∀ {result one two}, Ensures result one → Rely one two → Ensures result two)
    (keeps : Keeps answers Allowed Rely Guarantee Ensures program world)
    (change : Rely world later) :
    Keeps answers Allowed Rely Guarantee Ensures program later := by
  cases program with
  | done result => exact stable keeps change
  | call request rest =>
      intro found further
      exact keeps found (trans change further)

/-- What a program returns, together with what happened to the world since it was
started. -/
theorem Keeps.since (Related : World → World → Prop) (refl : ∀ world, Related world world)
    (trans : ∀ {one two three}, Related one two → Related two three → Related one three)
    (relied : ∀ {one two}, Rely one two → Related one two)
    (guaranteed : ∀ {one two}, Guarantee one two → Related one two)
    (keeps : Keeps answers Allowed Rely Guarantee Ensures program world) :
    Keeps answers Allowed Rely Guarantee
      (fun result left => Related world left ∧ Ensures result left) program world := by
  induction program generalizing world with
  | done result => exact ⟨refl world, keeps⟩
  | call request rest inductionHypothesis =>
      intro found change choice answer left allowed answered
      rcases keeps found change choice answer left allowed answered with ⟨within, after⟩
      refine ⟨within, Keeps.weaken ?_ (inductionHypothesis answer after)⟩
      intro result final ensured
      exact ⟨trans (trans (relied change) (guaranteed within)) ensured.1, ensured.2⟩

end Keeps

/-! ## Runs -/

section Runs

variable {World Call : Type} {Answer : Call → Type}
variable {Choice Event Job Result : Type}

/-- The step is one that the calls and the events are allowed to make. -/
def Input.Allowed (Allowed : World → Call → Choice → Prop)
    (Permitted : World → Event → Prop)
    (configuration : Configuration World Call Answer Result) :
    Input Choice Event Job → Prop
  | .start _ => True
  | .call position choice =>
      ∀ request ∈ configuration.programs[position]?.bind Program.request?,
        Allowed configuration.world request choice
  | .event change => Permitted configuration.world change

instance {Allowed : World → Call → Choice → Prop} {Permitted : World → Event → Prop}
    [∀ world request choice, Decidable (Allowed world request choice)]
    [∀ world change, Decidable (Permitted world change)]
    {configuration : Configuration World Call Answer Result} :
    (input : Input Choice Event Job) →
      Decidable (input.Allowed Allowed Permitted configuration)
  | .start _ => inferInstanceAs (Decidable True)
  | .call position choice => inferInstanceAs (Decidable
      (∀ request ∈ configuration.programs[position]?.bind Program.request?,
        Allowed configuration.world request choice))
  | .event change => inferInstanceAs (Decidable (Permitted configuration.world change))

theorem Input.Allowed.weaken {Allowed Weaker : World → Call → Choice → Prop}
    {Permitted : World → Event → Prop}
    {configuration : Configuration World Call Answer Result}
    {input : Input Choice Event Job}
    (allowed : input.Allowed Allowed Permitted configuration)
    (weaker : ∀ {world request choice}, Allowed world request choice →
      Weaker world request choice) :
    input.Allowed Weaker Permitted configuration := by
  cases input with
  | start job => exact trivial
  | call position choice => exact fun request asked => weaker (allowed request asked)
  | event change => exact allowed

theorem Input.Allowed.of_all {Allowed : World → Call → Choice → Prop}
    {Permitted : World → Event → Prop}
    {configuration : Configuration World Call Answer Result}
    {input : Input Choice Event Job}
    (calls : ∀ {world request} choice, Allowed world request choice)
    (events : ∀ {world} change, Permitted world change) :
    input.Allowed Allowed Permitted configuration := by
  cases input with
  | start job => exact trivial
  | call position choice => exact fun request _ => calls choice
  | event change => exact events change

variable (system : System World Call Answer Choice Event Job Result)
variable (Allowed : World → Call → Choice → Prop) (Permitted : World → Event → Prop)
variable (Rely Guarantee : World → World → Prop) (Ensures : Result → World → Prop)
variable (Good : World → Prop)

/-- The rule's premises: every program keeps its side, every permitted event is a change
that the programs rely on, and both keep the world good.  Either each program tolerates
what the others guarantee, or only one is ever started. -/
structure Sound : Prop where
  refl : ∀ world, Rely world world
  trans : ∀ {one two three}, Rely one two → Rely two three → Rely one three
  stable : ∀ {result one two}, Ensures result one → Rely one two → Ensures result two
  tolerant : (∀ {one two}, Guarantee one two → Rely one two) ∨
    ∀ {programs job}, system.admits programs job = true → programs = []
  started : ∀ {world programs job}, system.admits programs job = true → Good world →
    Keeps system.answer (fun found request choice => Good found ∧ Allowed found request
      choice) Rely Guarantee Ensures (system.program job) world
  changed : ∀ {world event left}, Good world → Permitted world event →
    system.change world event = some left → Rely world left
  called : ∀ {world left}, Good world → Guarantee world left → Good left
  permitted : ∀ {world event left}, Good world → Permitted world event →
    system.change world event = some left → Good left

variable {system Allowed Permitted Rely Guarantee Ensures Good}

/-- What holds of every configuration of a run. -/
structure Invariant (system : System World Call Answer Choice Event Job Result)
    (Allowed : World → Call → Choice → Prop) (Rely Guarantee : World → World → Prop)
    (Ensures : Result → World → Prop) (Good : World → Prop)
    (configuration : Configuration World Call Answer Result) : Prop where
  good : Good configuration.world
  keeps : ∀ program ∈ configuration.programs,
    Keeps system.answer (fun found request choice => Good found ∧ Allowed found request
      choice) Rely Guarantee Ensures program configuration.world
  tolerant : (∀ {one two}, Guarantee one two → Rely one two) ∨
    configuration.programs.length ≤ 1

/-- Before any program is started. -/
theorem Invariant.start {world : World} (good : Good world) :
    Invariant system Allowed Rely Guarantee Ensures Good { world, programs := [] } :=
  ⟨good, by simp, .inr (by simp)⟩

/-- A single program is running, and it keeps its side. -/
theorem Invariant.single {configuration : Configuration World Call Answer Result}
    {program : Program Call Answer Result} (only : configuration.programs = [program])
    (good : Good configuration.world)
    (keeps : Keeps system.answer (fun found request choice => Good found ∧ Allowed found
      request choice) Rely Guarantee Ensures program configuration.world) :
    Invariant system Allowed Rely Guarantee Ensures Good configuration := by
  refine ⟨good, ?_, .inr ?_⟩
  · intro other member
    rw [only, List.mem_singleton] at member
    rw [member]
    exact keeps
  · rw [only]
    exact Nat.le_refl 1

namespace Sound

variable {before after configuration : Configuration World Call Answer Result}
variable {input : Input Choice Event Job}

/-- A call that is answered in an allowed way stays within what its program guarantees. -/
theorem moved (sound : Sound system Allowed Permitted Rely Guarantee Ensures Good)
    (invariant : Invariant system Allowed Rely Guarantee Ensures Good before)
    {position : Nat} {choice : Choice} {request : Call} {answer : Answer request}
    {rest : Answer request → Program Call Answer Result} {world : World}
    (allowed : (.call position choice : Input Choice Event Job).Allowed Allowed Permitted
      before)
    (current : before.programs[position]? = some (.call request rest))
    (answered : system.answer before.world request choice = some (answer, world)) :
    Guarantee before.world world ∧
      Keeps system.answer (fun found request choice => Good found ∧ Allowed found request
        choice) Rely Guarantee Ensures (rest answer) world := by
  have asked : request ∈ before.programs[position]?.bind Program.request? := by
    rw [current]
    rfl
  exact invariant.keeps _ (List.mem_of_getElem? current) before.world (sound.refl _) choice
    answer world ⟨invariant.good, allowed request asked⟩ answered

/-- One allowed step keeps the invariant.  In the case of a call one program moves, and
the others must tolerate it. -/
theorem step (sound : Sound system Allowed Permitted Rely Guarantee Ensures Good)
    (invariant : Invariant system Allowed Rely Guarantee Ensures Good before)
    (allowed : input.Allowed Allowed Permitted before)
    (accepted : system.step before input = .ok after) :
    Invariant system Allowed Rely Guarantee Ensures Good after := by
  cases system.step_cases accepted with
  | started admitted =>
      constructor
      · exact invariant.good
      · intro program member
        rcases List.mem_append.mp member with earlier | new
        · exact invariant.keeps program earlier
        · rw [List.mem_singleton.mp new]
          exact sound.started admitted invariant.good
      · rcases sound.tolerant with tolerant | alone
        · exact .inl tolerant
        · right
          rw [alone admitted]
          exact Nat.le_refl 1
  | @called position _ _ _ _ _ current answered =>
      have moved := sound.moved invariant allowed current answered
      constructor
      · exact sound.called invariant.good moved.1
      · intro program member
        rcases List.mem_iff_getElem?.mp member with ⟨place, found⟩
        have here := (List.getElem?_eq_some_iff.mp current).1
        by_cases same : position = place
        · rw [← same, List.getElem?_set_self here] at found
          cases found
          exact moved.2
        · rw [List.getElem?_set_ne same] at found
          rcases invariant.tolerant with tolerant | alone
          · exact (invariant.keeps program (List.mem_of_getElem? found)).after
              sound.trans sound.stable (tolerant moved.1)
          · have there := (List.getElem?_eq_some_iff.mp found).1
            omega
      · rw [List.length_set]
        exact invariant.tolerant
  | changed changed =>
      have relied := sound.changed invariant.good allowed changed
      constructor
      · exact sound.permitted invariant.good allowed changed
      · intro program member
        exact (invariant.keeps program member).after sound.trans sound.stable relied
      · exact invariant.tolerant

variable {start : Configuration World Call Answer Result}
variable {history : List (Entry (Configuration World Call Answer Result)
  (Input Choice Event Job) Unit (Configuration World Call Answer Result))}

/-- Every run whose steps are allowed keeps the invariant. -/
theorem run (sound : Sound system Allowed Permitted Rely Guarantee Ensures Good)
    (invariant : Invariant system Allowed Rely Guarantee Ensures Good start)
    (run : Run system.machine start history configuration)
    (allowed : ∀ entry ∈ history, entry.input.Allowed Allowed Permitted entry.before) :
    Invariant system Allowed Rely Guarantee Ensures Good configuration := by
  have kept := run.invariant
    (fun history configuration =>
      (∀ entry ∈ history, entry.input.Allowed Allowed Permitted entry.before) →
        Invariant system Allowed Rely Guarantee Ensures Good configuration)
  apply kept
  · intro _
    exact invariant
  · intro history state input outcome _ inductionHypothesis accepted allowed
    rw [List.forall_mem_cons] at allowed
    exact sound.step (inductionHypothesis allowed.2) allowed.1 accepted
  · intro history state input failure _ inductionHypothesis _ allowed
    rw [List.forall_mem_cons] at allowed
    exact inductionHypothesis allowed.2
  · exact allowed

/-- What the programs guarantee of each call, and each event brings about, holds between
any two worlds of a run. -/
theorem related {Related : World → World → Prop}
    (sound : Sound system Allowed Permitted Rely Guarantee Ensures Good)
    (refl : ∀ world, Related world world)
    (trans : ∀ {one two three}, Related one two → Related two three → Related one three)
    (guaranteed : ∀ {one two}, Guarantee one two → Related one two)
    (changes : ∀ {world event left}, system.change world event = some left →
      Related world left)
    (invariant : Invariant system Allowed Rely Guarantee Ensures Good start)
    (run : Run system.machine start history configuration)
    (allowed : ∀ entry ∈ history, entry.input.Allowed Allowed Permitted entry.before) :
    Related start.world configuration.world := by
  have kept := run.invariant
    (fun history configuration =>
      (∀ entry ∈ history, entry.input.Allowed Allowed Permitted entry.before) →
        Related start.world configuration.world)
  apply kept
  · intro _
    exact refl start.world
  · intro history state input outcome earlier inductionHypothesis accepted allowed
    rw [List.forall_mem_cons] at allowed
    apply trans (inductionHypothesis allowed.2)
    cases system.step_cases accepted with
    | started admitted => exact refl state.world
    | called current answered =>
        have reached := sound.run invariant earlier allowed.2
        exact guaranteed (sound.moved reached allowed.1 current answered).1
    | changed changed => exact changes changed
  · intro history state input failure _ inductionHypothesis _ allowed
    rw [List.forall_mem_cons] at allowed
    exact inductionHypothesis allowed.2
  · exact allowed

end Sound

end Runs

end Interference
