import Mathlib

/-! # Bodies that are counted

A body is wrapped so that the data polled through the wrapper is counted. A closure is given
the count, when the body ends, fails, or a guard of the wrapper is dropped, whichever is
first. The wrapper of a request may be taken apart on the way to the upstream. -/

namespace Orion.AccessLogs

open List Nat

/-! ## The counter -/

/-- What all wrappers of a body share: the counter, and whether the closure is still there. -/
structure MetricsState where
  bytesCounter : Nat
  onComplete : Bool
  deriving DecidableEq

namespace MetricsState

def new : MetricsState := ⟨0, true⟩

def count (metrics : MetricsState) (size : Nat) : MetricsState :=
  { metrics with bytesCounter := metrics.bytesCounter + size }

/-- The closure is taken and called with what has been counted by then. -/
def triggerOnComplete (metrics : MetricsState) : MetricsState × List Nat :=
  if metrics.onComplete then ({ metrics with onComplete := false }, [metrics.bytesCounter])
  else (metrics, [])

end MetricsState

/-! ## What was counted in a history -/

def total {Event : Type u} (amount : Event → Nat) (events : List Event) : Nat :=
  (events.map amount).sum

def beforeCompletion {Event : Type u} (completes : Event → Bool) (events : List Event) :
    List Event :=
  events.takeWhile fun event => !completes event

/-- The events of a body, the calls of its closure and its counter. What is `passed` reaches
the counter only as long as the closure is there. -/
structure Ledger {Event : Type u} (completes : Event → Bool) (counted passed : Event → Nat)
    (events : List Event) (calls : List Nat) (metrics : MetricsState) : Prop where
  pending : metrics.onComplete = true → calls = [] ∧
    (∀ event ∈ events, completes event = false) ∧ metrics.bytesCounter = total counted events
  completed : metrics.onComplete = false →
    calls = [total counted (beforeCompletion completes events)] ∧
      ∃ event ∈ events, completes event = true
  early : total passed (beforeCompletion completes events) = total passed events

section

variable {Event : Type u} {completes : Event → Bool} {events : List Event} {event : Event}

theorem total_append (amount : Event → Nat) (first second : List Event) :
    total amount (first ++ second) = total amount first + total amount second := by
  simp [total]

@[simp]
theorem total_singleton (amount : Event → Nat) (event : Event) :
    total amount [event] = amount event := by
  simp [total]

theorem total_add (first second : Event → Nat) (events : List Event) :
    total (fun event => first event + second event) events =
      total first events + total second events := by
  induction events with
  | nil => rfl
  | cons event events induction =>
    simp only [total, map_cons, sum_cons] at induction ⊢
    omega

theorem beforeCompletion_append_pending (pending : ∀ event ∈ events, completes event = false)
    (later : List Event) :
    beforeCompletion completes (events ++ later) = events ++ beforeCompletion completes later :=
  takeWhile_append_of_pos fun event member => by rw [pending event member]; rfl

theorem beforeCompletion_append_completed (completed : ∃ event ∈ events, completes event)
    (later : List Event) :
    beforeCompletion completes (events ++ later) = beforeCompletion completes events := by
  induction events with
  | nil => simp at completed
  | cons head events induction =>
    simp only [beforeCompletion, cons_append, takeWhile_cons] at induction ⊢
    cases found : completes head with
    | true => rfl
    | false =>
      rcases completed with ⟨event, member, completing⟩
      rcases mem_cons.mp member with rfl | member
      · rw [found] at completing
        exact absurd completing nofun
      · simp [induction ⟨event, member, completing⟩]

end

namespace Ledger

variable {Event : Type u} {completes : Event → Bool} {counted passed : Event → Nat}
  {events : List Event} {event : Event} {calls : List Nat} {metrics : MetricsState}

theorem start : Ledger completes counted passed [] [] .new :=
  ⟨fun _ => ⟨rfl, nofun, rfl⟩, nofun, rfl⟩

section

variable (ledger : Ledger completes counted passed events calls metrics)

include ledger

theorem count (quiet : completes event = false) (inTime : metrics.onComplete ∨ passed event = 0) :
    Ledger completes counted passed (events ++ [event]) calls (metrics.count (counted event)) := by
  cases present : metrics.onComplete with
  | true =>
    rcases ledger.pending present with ⟨none, pending, counter⟩
    have stillPending : ∀ other ∈ events ++ [event], completes other = false := by
      intro other member
      rcases mem_append.mp member with earlier | last
      · exact pending other earlier
      · rw [mem_singleton.mp last, quiet]
    have whole : beforeCompletion completes (events ++ [event]) = events ++ [event] := by
      rw [beforeCompletion_append_pending pending]
      simp [beforeCompletion, quiet]
    refine ⟨fun _ => ⟨none, stillPending, ?_⟩, fun taken => ?_, by rw [whole]⟩
    · rw [total_append, total_singleton, ← counter]
      rfl
    · exact absurd (present.symm.trans taken) nofun
  | false =>
    rcases ledger.completed present with ⟨called, completed⟩
    have same := beforeCompletion_append_completed completed [event]
    have nothing : passed event = 0 :=
      inTime.resolve_left fun present' => absurd (present.symm.trans present') nofun
    refine ⟨fun present' => absurd (present.symm.trans present') nofun, fun _ => ?_, ?_⟩
    · rw [same]
      rcases completed with ⟨earlier, member, completing⟩
      exact ⟨called, earlier, mem_append_left _ member, completing⟩
    · rw [same, total_append, total_singleton, nothing, ledger.early, Nat.add_zero]

theorem trigger (completing : completes event) (nothing : passed event = 0) :
    Ledger completes counted passed (events ++ [event]) (calls ++ metrics.triggerOnComplete.2)
      metrics.triggerOnComplete.1 := by
  have member : event ∈ events ++ [event] := mem_append_right _ (mem_singleton_self _)
  cases present : metrics.onComplete with
  | true =>
    rcases ledger.pending present with ⟨none, pending, counter⟩
    have all : beforeCompletion completes (events ++ [event]) = events := by
      rw [beforeCompletion_append_pending pending]
      simp [beforeCompletion, completing]
    simp only [MetricsState.triggerOnComplete, present, if_true]
    refine ⟨nofun, fun _ => ⟨?_, event, member, completing⟩, ?_⟩
    · rw [all, none, counter]
      rfl
    · rw [all, total_append, total_singleton, nothing, Nat.add_zero]
  | false =>
    rcases ledger.completed present with ⟨called, completed⟩
    have same := beforeCompletion_append_completed completed [event]
    simp only [MetricsState.triggerOnComplete, present, Bool.false_eq_true, if_false, append_nil]
    refine ⟨fun present' => absurd (present.symm.trans present') nofun, fun _ => ?_, ?_⟩
    · rw [same]
      exact ⟨called, event, member, completing⟩
    · rw [same, total_append, total_singleton, nothing, ledger.early, Nat.add_zero]

theorem calls_length : calls.length ≤ 1 := by
  cases present : metrics.onComplete with
  | true =>
    rw [(ledger.pending present).1]
    exact zero_le 1
  | false =>
    rw [(ledger.completed present).1]
    exact Nat.le_refl 1

end

end Ledger

@[simp]
theorem MetricsState.triggerOnComplete_onComplete (metrics : MetricsState) :
    metrics.triggerOnComplete.1.onComplete = false := by
  rw [triggerOnComplete]
  split
  case isTrue => rfl
  case isFalse absent => exact Bool.eq_false_iff.mpr absent

/-! ## The body of a request -/

inductive Origin where
  | client
  | filter
  deriving DecidableEq

/-- A retry policy or a failover takes the wrapper apart, collects what is in it, and sends
each attempt with a wrapper around the collected bytes. -/
inductive BodyUse where
  | whole
  | collecting
  | replaying
  deriving DecidableEq

structure RequestBody where
  metrics : MetricsState
  origin : Origin
  usage : BodyUse
  /-- The first guard has not been dropped. -/
  held : Bool
  /-- The first wrapper has yielded its end or an error. -/
  ended : Bool
  collected : Nat
  /-- The attempts with a guard of their own, before and after their data was polled. -/
  unread : Nat
  read : Nat
  deriving DecidableEq

namespace RequestBody

inductive Event where
  /-- The wrapper is polled for data. -/
  | frame (origin : Origin) (size : Nat)
  /-- The external processor takes the body out and puts its own in. -/
  | process
  /-- The external processor reads from the body it has taken out. -/
  | take (size : Nat)
  /-- The wrapper is taken apart. -/
  | collect
  /-- What was in the wrapper is read. -/
  | gather (origin : Origin) (size : Nat)
  /-- The collected bytes are sent, or sent again. -/
  | attempt
  | replay (size : Nat)
  | attemptEnded
  | attemptDropped (read : Bool)
  /-- The wrapper yields its end or an error. -/
  | ended
  /-- The wrapper or, once it is taken apart, its guard is dropped. -/
  | dropped
  deriving DecidableEq

def new : RequestBody := ⟨.new, .client, .whole, true, false, 0, 0, 0⟩

def pollable (body : RequestBody) : Bool := body.usage = .whole ∧ body.held ∧ !body.ended

def enabled (body : RequestBody) : Event → Bool
  | .frame origin _ => body.pollable ∧ origin = body.origin
  | .process => body.pollable
  | .take _ => body.origin = .filter
  | .collect => body.pollable
  | .gather origin _ => body.usage = .collecting ∧ body.held ∧ origin = body.origin
  | .attempt => body.usage ≠ .whole ∧ body.held
  | .replay size => 0 < body.unread ∧ size = body.collected
  | .attemptEnded => 0 < body.read ∨ 0 < body.unread ∧ body.collected = 0
  | .attemptDropped true => 0 < body.read
  | .attemptDropped false => 0 < body.unread
  | .ended => body.pollable
  | .dropped => body.held

def trigger (body : RequestBody) : RequestBody × List Nat :=
  let (metrics, calls) := body.metrics.triggerOnComplete
  ({ body with metrics }, calls)

def react (body : RequestBody) : Event → RequestBody × List Nat
  | .frame _ size => ({ body with metrics := body.metrics.count size }, [])
  | .process => ({ body with origin := .filter }, [])
  | .take _ => (body, [])
  | .collect => ({ body with usage := .collecting }, [])
  | .gather _ size => ({ body with collected := body.collected + size }, [])
  | .attempt => ({ body with usage := .replaying, unread := body.unread + 1 }, [])
  | .replay size =>
    ({ body with
        metrics := body.metrics.count size
        unread := body.unread - 1
        read := body.read + 1 }, [])
  | .attemptEnded => body.trigger
  | .attemptDropped true => { body with read := body.read - 1 }.trigger
  | .attemptDropped false => { body with unread := body.unread - 1 }.trigger
  | .ended => { body with ended := true }.trigger
  | .dropped => { body with held := false }.trigger

def released (body : RequestBody) : Bool := !body.held ∧ body.unread = 0 ∧ body.read = 0

namespace Event

def passed : Event → Nat
  | .frame .client size => size
  | _ => 0

/-- Data that is polled through a wrapper and is not the client's, or not for the first time. -/
def substituted : Event → Nat
  | .frame .filter size => size
  | .replay size => size
  | _ => 0

/-- The data of the client that is read after it was taken out of the wrapper. -/
def unwrapped : Event → Nat
  | .take size => size
  | .gather .client size => size
  | _ => 0

def counted (event : Event) : Nat := event.passed + event.substituted

def received (event : Event) : Nat := event.passed + event.unwrapped

def completes : Event → Bool
  | .attemptEnded => true
  | .attemptDropped _ => true
  | .ended => true
  | .dropped => true
  | _ => false

end Event

structure Counted (events : List Event) (calls : List Nat) (body : RequestBody) : Prop where
  ledger : Ledger Event.completes Event.counted Event.passed events calls body.metrics
  whole : body.usage = .whole → body.unread = 0 ∧ body.read = 0
  pollable : body.pollable = true → body.metrics.onComplete = true
  dropped : body.held = false → body.metrics.onComplete = false

theorem Event.passed_of_completes {event : Event} (completing : event.completes) :
    event.passed = 0 := by
  cases event with
  | frame => exact absurd completing nofun
  | _ => rfl

theorem counted_new : Counted [] [] new :=
  ⟨.start, fun _ => ⟨rfl, rfl⟩, fun _ => rfl, nofun⟩

section

variable {events : List Event} {calls : List Nat} {body : RequestBody} {event : Event}

theorem Counted.not_pollable (counted : Counted events calls body)
    (attempted : 0 < body.unread ∨ 0 < body.read) : body.pollable = false := by
  refine decide_eq_false fun pollable => ?_
  have none := counted.whole pollable.1
  omega

theorem Counted.trigger (ledger : Ledger Event.completes Event.counted Event.passed events calls
      body.metrics) (completing : event.completes)
    (whole : body.usage = .whole → body.unread = 0 ∧ body.read = 0)
    (closed : body.pollable = false) :
    Counted (events ++ [event]) (calls ++ body.trigger.2) body.trigger.1 := by
  refine ⟨ledger.trigger completing (Event.passed_of_completes completing), whole, ?_, ?_⟩
  · intro pollable
    exact absurd (closed.symm.trans pollable) nofun
  · intro _
    exact body.metrics.triggerOnComplete_onComplete

theorem Counted.quiet (counted : Counted events calls body) {next : RequestBody}
    (quiet : event.completes = false) (inTime : body.metrics.onComplete ∨ event.passed = 0)
    (metrics : next.metrics = body.metrics.count event.counted)
    (whole : next.usage = .whole → next.unread = 0 ∧ next.read = 0)
    (pollable : next.pollable → body.pollable) (held : next.held = body.held) :
    Counted (events ++ [event]) (calls ++ []) next := by
  have same : next.metrics.onComplete = body.metrics.onComplete := by
    rw [metrics]
    rfl
  refine ⟨?_, whole, ?_, ?_⟩
  · rw [append_nil, metrics]
    exact counted.ledger.count quiet inTime
  · intro polled
    rw [same]
    exact counted.pollable (pollable polled)
  · intro absent
    rw [same]
    exact counted.dropped (held.symm.trans absent)

theorem Event.counted_frame (origin : Origin) (size : Nat) :
    (Event.frame origin size).counted = size := by
  cases origin with
  | client => rfl
  | filter => exact Nat.zero_add size

theorem Event.counted_replay (size : Nat) : (Event.replay size).counted = size := Nat.zero_add size

theorem Counted.react (counted : Counted events calls body) (possible : body.enabled event) :
    Counted (events ++ [event]) (calls ++ (body.react event).2) (body.react event).1 := by
  cases event with
  | frame origin size =>
    have polled : body.pollable := (of_decide_eq_true possible).1
    refine counted.quiet rfl (.inl (counted.pollable polled)) ?_ counted.whole id rfl
    rw [Event.counted_frame]
    rfl
  | process | take => exact counted.quiet rfl (.inr rfl) rfl counted.whole id rfl
  | collect => exact counted.quiet rfl (.inr rfl) rfl nofun nofun rfl
  | gather origin size => exact counted.quiet rfl (.inr rfl) rfl counted.whole id rfl
  | attempt => exact counted.quiet rfl (.inr rfl) rfl nofun nofun rfl
  | replay size =>
    rcases of_decide_eq_true possible with ⟨attempted, _⟩
    refine counted.quiet rfl (.inr rfl) ?_ ?_ id rfl
    · rw [Event.counted_replay]
      rfl
    · intro whole
      have none := counted.whole whole
      omega
  | attemptEnded =>
    have attempted : 0 < body.unread ∨ 0 < body.read := by
      rcases of_decide_eq_true possible with read | ⟨unread, _⟩
      · exact .inr read
      · exact .inl unread
    exact .trigger counted.ledger rfl counted.whole (counted.not_pollable attempted)
  | attemptDropped read =>
    cases read with
    | true =>
      have attempted : 0 < body.read := of_decide_eq_true possible
      refine .trigger counted.ledger rfl ?_ (counted.not_pollable (.inr attempted))
      intro whole
      have none := counted.whole whole
      omega
    | false =>
      have attempted : 0 < body.unread := of_decide_eq_true possible
      refine .trigger counted.ledger rfl ?_ (counted.not_pollable (.inl attempted))
      intro whole
      have none := counted.whole whole
      omega
  | ended | dropped =>
    refine .trigger counted.ledger rfl counted.whole ?_
    simp [RequestBody.pollable]

/-- Once the first guard is dropped, the closure was called with all of the client's data that
was polled, and with what was polled in its place until then. -/
theorem Counted.calls_of_dropped (counted : Counted events calls body)
    (dropped : body.held = false) :
    calls = [total Event.passed events +
      total Event.substituted (beforeCompletion Event.completes events)] := by
  rw [(counted.ledger.completed (counted.dropped dropped)).1, ← counted.ledger.early]
  exact congrArg (fun bytes => [bytes]) (total_add _ _ _)

end

end RequestBody

/-! ## The body of a response -/

structure ResponseBody where
  metrics : MetricsState
  held : Bool
  ended : Bool
  deriving DecidableEq

namespace ResponseBody

inductive Event where
  | frame (size : Nat)
  | ended
  | dropped
  deriving DecidableEq

def new : ResponseBody := ⟨.new, true, false⟩

def pollable (body : ResponseBody) : Bool := body.held ∧ !body.ended

def enabled (body : ResponseBody) : Event → Bool
  | .frame _ => body.pollable
  | .ended => body.pollable
  | .dropped => body.held

def trigger (body : ResponseBody) : ResponseBody × List Nat :=
  let (metrics, calls) := body.metrics.triggerOnComplete
  ({ body with metrics }, calls)

def react (body : ResponseBody) : Event → ResponseBody × List Nat
  | .frame size => ({ body with metrics := body.metrics.count size }, [])
  | .ended => { body with ended := true }.trigger
  | .dropped => { body with held := false }.trigger

namespace Event

def sent : Event → Nat
  | .frame size => size
  | _ => 0

def completes : Event → Bool
  | .frame _ => false
  | _ => true

end Event

structure Counted (events : List Event) (calls : List Nat) (body : ResponseBody) : Prop where
  ledger : Ledger Event.completes Event.sent Event.sent events calls body.metrics
  pollable : body.pollable = true → body.metrics.onComplete = true
  dropped : body.held = false → body.metrics.onComplete = false

theorem counted_new : Counted [] [] new := ⟨.start, fun _ => rfl, nofun⟩

section

variable {events : List Event} {calls : List Nat} {body : ResponseBody} {event : Event}

theorem Counted.trigger
    (ledger : Ledger Event.completes Event.sent Event.sent events calls body.metrics)
    (completing : event.completes) (nothing : event.sent = 0) (closed : body.pollable = false) :
    Counted (events ++ [event]) (calls ++ body.trigger.2) body.trigger.1 := by
  refine ⟨ledger.trigger completing nothing, ?_, ?_⟩
  · intro pollable
    exact absurd (closed.symm.trans pollable) nofun
  · intro _
    exact body.metrics.triggerOnComplete_onComplete

theorem Counted.react (counted : Counted events calls body) (possible : body.enabled event) :
    Counted (events ++ [event]) (calls ++ (body.react event).2) (body.react event).1 := by
  cases event with
  | frame size =>
    refine ⟨?_, counted.pollable, counted.dropped⟩
    change Ledger _ _ _ _ (calls ++ []) (body.metrics.count size)
    rw [append_nil]
    exact counted.ledger.count rfl (.inl (counted.pollable possible))
  | ended | dropped =>
    refine .trigger counted.ledger rfl rfl ?_
    simp [ResponseBody.pollable]

/-- Once the body is dropped, the closure was called with all that was polled. -/
theorem Counted.calls_of_dropped (counted : Counted events calls body)
    (dropped : body.held = false) : calls = [total Event.sent events] := by
  rw [(counted.ledger.completed (counted.dropped dropped)).1, counted.ledger.early]

end

end ResponseBody

end Orion.AccessLogs
