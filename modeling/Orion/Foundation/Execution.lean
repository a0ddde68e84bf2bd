import Mathlib

/-! # Event-driven machines

A machine reacts to one event at a time. Its runs record the events taken and
the outputs produced, so that a property may speak about a whole history. The
file names no particular machine.
-/

namespace Orion.Foundation

open List Option

/-- A deterministic reaction to events. `none` says that the event cannot be
taken in the given state. -/
structure Machine (State : Type u) (Event : Type v) (Output : Type w) where
  step : State → Event → Option (State × List Output)

namespace Machine

variable {State : Type u} {Event : Type v} {Output : Type w}

/-- The runs from `initial` all of whose steps satisfy `Allowed`. Steps are
added at the end, since invariants over histories grow there. -/
inductive Run (machine : Machine State Event Output)
    (Allowed : State → Event → Prop) (initial : State) :
    List Event → List Output → State → Prop
  | start : Run machine Allowed initial [] [] initial
  | extend {events outputs state event next emitted} :
      Run machine Allowed initial events outputs state →
      Allowed state event →
      machine.step state event = some (next, emitted) →
      Run machine Allowed initial (events ++ [event]) (outputs ++ emitted) next

def anyStep : State → Event → Prop := fun _ _ => True

variable {machine : Machine State Event Output} {Allowed : State → Event → Prop} {initial : State}
  {events : List Event} {outputs : List Output} {state : State}

/-- A history property that holds at the start and survives every allowed step
holds after every run. -/
theorem Run.invariant (Holds : List Event → List Output → State → Prop)
    (atStart : Holds [] [] initial) (preserved : ∀ {events outputs state event next emitted},
      Holds events outputs state → Allowed state event →
      machine.step state event = some (next, emitted) →
      Holds (events ++ [event]) (outputs ++ emitted) next)
    (run : machine.Run Allowed initial events outputs state) : Holds events outputs state := by
  induction run with
  | start => exact atStart
  | extend _ allowed taken induction => exact preserved induction allowed taken

/-- The common case of `Run.invariant`: a property of the state alone. -/
theorem Run.stateInvariant (Holds : State → Prop) (atStart : Holds initial)
    (preserved : ∀ {state event next emitted}, Holds state →
      Allowed state event → machine.step state event = some (next, emitted) →
      Holds next) (run : machine.Run Allowed initial events outputs state) : Holds state := by
  induction run with
  | start => exact atStart
  | extend _ allowed taken induction => exact preserved induction allowed taken

/-- The machine that reacts to every event that is enabled. -/
def guarded (enabled : State → Event → Bool) (react : State → Event → State × List Output) :
    Machine State Event Output where
  step state event := if enabled state event then some (react state event) else none

section

variable {enabled : State → Event → Bool} {react : State → Event → State × List Output}

theorem guarded_step_eq_some (taken : (guarded enabled react).step state event = some result) :
    enabled state event ∧ result = react state event := by
  change (if _ then _ else _) = _ at taken
  split at taken
  case isTrue possible => exact ⟨possible, (some.inj taken).symm⟩
  case isFalse => exact absurd taken nofun

theorem Run.guardedInvariant
    (Holds : List Event → List Output → State → Prop) (atStart : Holds [] [] initial)
    (preserved : ∀ {events outputs state event}, Holds events outputs state →
      enabled state event →
      Holds (events ++ [event]) (outputs ++ (react state event).2) (react state event).1)
    (run : (guarded enabled react).Run Allowed initial events outputs state) :
    Holds events outputs state := by
  refine run.invariant Holds atStart ?_
  intro events outputs state event next emitted holds _ taken
  rcases guarded_step_eq_some taken with ⟨possible, same⟩
  have after := preserved holds possible
  rw [← same] at after
  exact after

end

/-- Execute a list of events, stopping at the first that is not enabled. -/
def execute (machine : Machine State Event Output) :
    State → List Event → Option (State × List Output)
  | state, [] => some (state, [])
  | state, event :: events =>
    match machine.step state event with
    | none => none
    | some (next, emitted) =>
      (machine.execute next events).map fun (final, outputs) =>
        (final, emitted ++ outputs)

def AllAllowed (machine : Machine State Event Output)
    (Allowed : State → Event → Prop) : State → List Event → Prop
  | _, [] => True
  | state, event :: events =>
    Allowed state event ∧
      match machine.step state event with
      | none => True
      | some (next, _) => machine.AllAllowed Allowed next events

theorem allAllowed_of_forall (allowed : ∀ event ∈ events, ∀ state, Allowed state event) :
    machine.AllAllowed Allowed state events := by
  induction events generalizing state with
  | nil => trivial
  | cons event events induction =>
    refine ⟨allowed event mem_cons_self state, ?_⟩
    split
    · trivial
    · exact induction fun later member => allowed later (mem_cons_of_mem _ member)

theorem allAllowed_anyStep (state : State) (events : List Event) :
    machine.AllAllowed anyStep state events :=
  allAllowed_of_forall fun _ _ _ => trivial

def Throughout (machine : Machine State Event Output) (Holds : State → Prop) :
    State → List Event → Prop
  | state, [] => Holds state
  | state, event :: events =>
    Holds state ∧
      match machine.step state event with
      | none => True
      | some (next, _) => machine.Throughout Holds next events

theorem Throughout.start (throughout : machine.Throughout Holds state events) : Holds state := by
  cases events with
  | nil => exact throughout
  | cons event events => exact throughout.1

/-- When every step keeps an invariant or at once breaks the property, the property holds
throughout exactly when no step is of the second kind. -/
theorem throughout_iff_allAllowed {Invariant : State → Prop}
    (implies : ∀ {state}, Invariant state → Holds state)
    (kept : ∀ {state event next emitted}, Invariant state →
      machine.step state event = some (next, emitted) → Allowed state event → Invariant next)
    (broken : ∀ {state event next emitted}, Invariant state →
      machine.step state event = some (next, emitted) → ¬ Allowed state event → ¬ Holds next)
    (invariant : Invariant state)
    (executed : machine.execute state events = some (final, outputs)) :
    machine.Throughout Holds state events ↔ machine.AllAllowed Allowed state events := by
  induction events generalizing state outputs with
  | nil => exact iff_of_true (implies invariant) trivial
  | cons event events induction =>
    cases taken : machine.step state event with
    | none => simp [execute, taken] at executed
    | some result =>
      simp only [execute, taken] at executed
      rcases map_eq_some_iff.mp executed with ⟨⟨last, rest⟩, executedRest, ⟨⟩⟩
      simp only [Throughout, AllAllowed, taken, implies invariant, true_and]
      by_cases allowed : Allowed state event
      · rw [induction (kept invariant taken allowed) executedRest, and_iff_right allowed]
      · exact iff_of_false (fun throughout => broken invariant taken allowed throughout.start)
          fun allAllowed => allowed allAllowed.1

theorem Run.executeFrom (run : machine.Run Allowed initial before earlier state)
    (executed : machine.execute state events = some (final, outputs))
    (allowed : machine.AllAllowed Allowed state events) :
    machine.Run Allowed initial (before ++ events) (earlier ++ outputs) final := by
  induction events generalizing before earlier state outputs with
  | nil =>
    cases executed
    simpa using run
  | cons event events induction =>
    rcases allowed with ⟨eventAllowed, restAllowed⟩
    cases taken : machine.step state event with
    | none => simp [execute, taken] at executed
    | some result =>
      simp only [taken] at restAllowed
      simp only [execute, taken] at executed
      rcases map_eq_some_iff.mp executed with ⟨⟨final', rest⟩, executedRest, ⟨⟩⟩
      have extended := induction (run.extend eventAllowed taken) executedRest restAllowed
      simpa [append_assoc] using extended

theorem Run.of_execute (executed : machine.execute initial events = some (final, outputs))
    (allowed : machine.AllAllowed Allowed initial events) :
    machine.Run Allowed initial events outputs final := by
  simpa using Run.start.executeFrom executed allowed

theorem Run.any_of_execute (executed : machine.execute initial events = some (final, outputs)) :
    machine.Run anyStep initial events outputs final :=
  .of_execute executed (allAllowed_anyStep _ _)

theorem Run.exists_of_execute (holds : State → Bool)
    (executed : ((machine.execute initial events).any fun result => holds result.1)) :
    ∃ outputs state,
      machine.Run anyStep initial events outputs state ∧ holds state := by
  rcases (any_eq_true _ _).mp executed with ⟨⟨state, outputs⟩, found, property⟩
  exact ⟨outputs, state, .any_of_execute found, property⟩

end Machine

end Orion.Foundation
