import Orion.Foundation.Execution

/-! # Machines that fill bounded channels

A machine puts items into channels of limited capacity. The reader of a channel
starts only after a call for it has been answered by the same machine. If the
machine has to put more into a channel than there is room for before it answers,
both wait for each other. The file names no particular machine.
-/

namespace Orion.Foundation

open List Option Nat

/-! ## Broadcast channels

A receiver gets every message that is sent while it is subscribed. It keeps a bounded
number of them; a receiver that is too slow loses the oldest, and is told so when it
receives next.
-/

structure Receiver (Message : Type) where
  /-- The messages that are kept, the oldest first. -/
  pending : List Message
  /-- Messages were lost since the last one was received. -/
  lagged : Bool
  deriving DecidableEq

inductive Received (Message : Type) where
  | message (message : Message)
  | lagged
  deriving DecidableEq

namespace Receiver

variable {Message : Type}

def subscribe : Receiver Message := ⟨[], false⟩

def send (capacity : Nat) (receiver : Receiver Message) (message : Message) : Receiver Message :=
  if receiver.pending.length < capacity then
    { receiver with pending := receiver.pending ++ [message] }
  else
    ⟨receiver.pending.tail ++ [message], true⟩

/-- `none` while there is nothing to receive. -/
def recv (receiver : Receiver Message) : Option (Received Message × Receiver Message) :=
  if receiver.lagged then
    some (.lagged, { receiver with lagged := false })
  else
    match receiver.pending with
    | [] => none
    | message :: rest => some (.message message, { receiver with pending := rest })

theorem send_of_room {receiver : Receiver Message} (room : receiver.pending.length < capacity)
    (message : Message) :
    receiver.send capacity message = { receiver with pending := receiver.pending ++ [message] } :=
  if_pos room

theorem recv_eq_message {receiver next : Receiver Message}
    (received : receiver.recv = some (.message message, next)) :
    receiver.pending = message :: next.pending ∧ next.lagged = receiver.lagged := by
  unfold recv at received
  split_ifs at received with lagged
  · cases received
  · split at received
    · cases received
    · rename_i pending
      cases received
      exact ⟨pending, rfl⟩

/-! ## What was received -/

/-- A receiver that has lost nothing keeps what was sent and not received. -/
structure Tracks (sent received : List Message) (receiver : Receiver Message) : Prop where
  onTime : receiver.lagged = false → sent = received ++ receiver.pending
  late : receiver.lagged = true → receiver.pending ≠ []

theorem tracks_subscribe : Tracks [] [] (subscribe : Receiver Message) :=
  ⟨fun _ => rfl, nofun⟩

variable {receiver : Receiver Message}

theorem Tracks.send (tracks : receiver.Tracks sent received) (capacity : Nat)
    (message : Message) : (receiver.send capacity message).Tracks (sent ++ [message]) received := by
  unfold Receiver.send
  split
  · refine ⟨fun onTime => ?_, fun _ => by simp⟩
    rw [tracks.onTime onTime, append_assoc]
  · exact ⟨nofun, fun _ => by simp⟩

theorem Tracks.recv {next : Receiver Message} (tracks : receiver.Tracks sent received)
    (onTime : receiver.lagged = false) (taken : receiver.recv = some (.message message, next)) :
    next.Tracks sent (received ++ [message]) := by
  rcases recv_eq_message taken with ⟨pending, same⟩
  refine ⟨fun _ => ?_, fun late => ?_⟩
  · rw [tracks.onTime onTime, pending, append_assoc, singleton_append]
  · rw [same, onTime] at late
    cases late

theorem Tracks.drained (tracks : receiver.Tracks sent received)
    (drained : receiver.pending = []) : sent = received := by
  cases lagged : receiver.lagged with
  | true => exact absurd drained (tracks.late lagged)
  | false => rw [tracks.onTime lagged, drained, append_nil]

end Receiver

/-! ## The last message about something -/

section

variable {Message Key : Type} [DecidableEq Key] (about : Message → Key) (key : Key)

def lastFor (messages : List Message) : Option Message :=
  (messages.filter fun message => about message = key).getLast?

theorem lastFor_append (messages : List Message) (message : Message) :
    lastFor about key (messages ++ [message]) =
      if about message = key then some message else lastFor about key messages := by
  unfold lastFor
  by_cases same : about message = key <;> simp [same]

variable {about key}

theorem lastFor_about (found : lastFor about key messages = some message) :
    about message = key := by
  rcases mem_filter.mp (mem_of_getLast? found) with ⟨_, same⟩
  exact of_decide_eq_true same

end

inductive ChannelEffect (Channel : Type c) where
  | push (channel : Channel)
  | answer (channel : Channel)
  | other

/-- A machine, and how its caller and its channels see it. -/
structure Served (State : Type u) (Event : Type v) (Output : Type w) (Channel : Type c)
    where
  machine : Machine State Event Output
  effect : Output → ChannelEffect Channel
  /-- The call that an event serves. -/
  serves : Event → Option Channel
  /-- The machine has ended, and drops the calls it has not answered. -/
  ended : State → Bool
  /-- The caller may call for a channel after these calls. -/
  mayCall : List Channel → Channel → Bool
  capacity : Nat

namespace Served

variable {State : Type u} {Event : Type v} {Output : Type w} {Channel : Type c}
  [DecidableEq Channel]

structure System (State : Type u) (Output : Type w) (Channel : Type c) where
  state : State
  /-- The outputs of the last event that have not been performed yet. -/
  pending : List Output := []
  occupancy : Channel → Nat := fun _ => 0
  called : List Channel := []
  /-- The call that has not been answered yet. -/
  waiting : Option Channel := none

inductive Action (Event : Type v) (Channel : Type c) where
  | call (channel : Channel)
  /-- The machine takes an event once all earlier outputs are performed. -/
  | take (event : Event)
  /-- The machine performs its next output. -/
  | perform
  /-- The reader of a channel takes an item. -/
  | consume (channel : Channel)
  /-- The machine has ended, and the call is dropped. -/
  | drop

def fill (occupancy : Channel → Nat) (channel : Channel) : Channel → Nat :=
  fun other => if other = channel then occupancy other + 1 else occupancy other

def drain (occupancy : Channel → Nat) (channel : Channel) : Channel → Nat :=
  fun other => if other = channel then occupancy other - 1 else occupancy other

/-- Perform an output; one into a full channel has to wait. -/
def performed (served : Served State Event Output Channel)
    (system : System State Output Channel) (output : Output) (rest : List Output) :
    Option (System State Output Channel) :=
  match served.effect output with
  | .push channel =>
    if system.occupancy channel < served.capacity then
      some { system with pending := rest, occupancy := fill system.occupancy channel }
    else
      none
  | .answer channel =>
    some { system with
      pending := rest
      waiting := if system.waiting = some channel then none else system.waiting }
  | .other => some { system with pending := rest }

def step (served : Served State Event Output Channel) (system : System State Output Channel) :
    Action Event Channel → Option (System State Output Channel × List Output)
  | .call channel =>
    if system.waiting = none ∧ served.mayCall system.called channel = true then
      some ({ system with
        called := system.called ++ [channel]
        waiting := some channel }, [])
    else
      none
  | .take event =>
    if system.pending = [] ∧
        (served.serves event = none ∨ served.serves event = system.waiting) then
      (served.machine.step system.state event).map fun (next, emitted) =>
        ({ system with state := next, pending := emitted }, [])
    else
      none
  | .perform =>
    match system.pending with
    | [] => none
    | output :: rest =>
      (served.performed system output rest).map fun next => (next, [output])
  | .consume channel =>
    -- The reader is let go by the answer to the call for its channel.
    if channel ∈ system.called ∧ system.waiting ≠ some channel ∧
        0 < system.occupancy channel then
      some ({ system with occupancy := drain system.occupancy channel }, [])
    else
      none
  | .drop =>
    if system.pending = [] ∧ served.ended system.state = true then
      some ({ system with waiting := none }, [])
    else
      none

def system (served : Served State Event Output Channel) :
    Machine (System State Output Channel) (Action Event Channel) Output where
  step := served.step

/-- The machine waits for room in a channel while the caller waits for its answer. -/
def Deadlocked (served : Served State Event Output Channel)
    (system : System State Output Channel) : Prop :=
  ∃ output rest channel, system.pending = output :: rest ∧
    served.effect output = .push channel ∧
    served.capacity ≤ system.occupancy channel ∧ system.waiting.isSome = true

/-! ## Enough room -/

def pushesBefore (served : Served State Event Output Channel) (waiting channel : Channel) :
    List Output → Nat
  | [] => 0
  | output :: rest =>
    match served.effect output with
    | .push other =>
      (if other = channel then 1 else 0) + served.pushesBefore waiting channel rest
    | .answer other =>
      if other = waiting then 0 else served.pushesBefore waiting channel rest
    | .other => served.pushesBefore waiting channel rest

/-- While a call waits there is room for what goes into the channels before its
answer. The room that an event needs is given in advance. -/
def Roomy (served : Served State Event Output Channel)
    (needed : State → Event → Channel → Channel → Nat)
    (system : System State Output Channel) : Action Event Channel → Prop
  | .call waiting => ∀ channel,
      system.occupancy channel + served.pushesBefore waiting channel system.pending ≤
        served.capacity
  | .take event => ∀ waiting, system.waiting = some waiting → ∀ channel,
      system.occupancy channel + needed system.state event waiting channel ≤ served.capacity
  | _ => True

def Fits (served : Served State Event Output Channel) (system : System State Output Channel) :
    Prop :=
  ∀ waiting, system.waiting = some waiting → ∀ channel,
    system.occupancy channel + served.pushesBefore waiting channel system.pending ≤
      served.capacity

variable {served : Served State Event Output Channel} {system next : System State Output Channel}

theorem Fits.not_deadlocked (fits : served.Fits system) : ¬ served.Deadlocked system := by
  rintro ⟨output, rest, channel, pending, pushes, full, waits⟩
  rcases isSome_iff_exists.mp waits with ⟨waiting, waits⟩
  have room := fits waiting waits channel
  rw [pending] at room
  simp only [pushesBefore, pushes, if_true] at room
  omega

theorem Fits.performed (fits : served.Fits system) (pending : system.pending = output :: rest)
    (done : served.performed system output rest = some next) : served.Fits next := by
  rw [Served.performed] at done
  intro waiting waits channel
  cases effect : served.effect output with
  | push other =>
    rw [effect] at done
    rcases ite_none_right_eq_some.mp done with ⟨_, ⟨⟩⟩
    have room := fits waiting waits channel
    rw [pending] at room
    simp only [pushesBefore, effect] at room
    by_cases same : other = channel
    · simp only [fill, same, if_true] at room ⊢
      omega
    · have different : ¬ channel = other := Ne.symm same
      simp only [fill, same, different, if_false] at room ⊢
      omega
  | answer other =>
    rw [effect] at done
    cases done
    by_cases answered : system.waiting = some other
    · simp [answered] at waits
    · rw [if_neg answered] at waits
      have room := fits waiting waits channel
      have different : ¬ other = waiting := by
        intro same
        exact answered (same ▸ waits)
      rw [pending] at room
      simpa only [pushesBefore, effect, different, if_false] using room
  | other =>
    rw [effect] at done
    cases done
    have room := fits waiting waits channel
    rw [pending] at room
    simpa only [pushesBefore, effect] using room

section

variable {needed : State → Event → Channel → Channel → Nat}
  (bounds : ∀ {state event next emitted}, served.machine.step state event = some (next, emitted) →
    ∀ waiting channel,
      served.pushesBefore waiting channel emitted ≤ needed state event waiting channel)

include bounds

theorem Fits.step (fits : served.Fits system) (roomy : served.Roomy needed system action)
    (taken : served.step system action = some (next, outputs)) : served.Fits next := by
  cases action with
  | call called =>
    rcases ite_none_right_eq_some.mp taken with ⟨_, ⟨⟩⟩
    intro waiting waits channel
    cases waits
    exact roomy channel
  | take event =>
    rcases ite_none_right_eq_some.mp taken with ⟨_, same⟩
    rcases map_eq_some_iff.mp same with ⟨⟨state, emitted⟩, reacted, ⟨⟩⟩
    intro waiting waits channel
    have room := roomy waiting waits channel
    have bound := bounds reacted waiting channel
    exact Nat.le_trans (Nat.add_le_add_left bound _) room
  | perform =>
    cases pending : system.pending with
    | nil => simp [Served.step, pending] at taken
    | cons output rest =>
      simp only [Served.step, pending] at taken
      rcases map_eq_some_iff.mp taken with ⟨done, performed, ⟨⟩⟩
      exact fits.performed pending performed
  | consume consumed =>
    rcases ite_none_right_eq_some.mp taken with ⟨_, ⟨⟩⟩
    intro waiting waits channel
    have room := fits waiting waits channel
    have less : drain system.occupancy consumed channel ≤ system.occupancy channel := by
      rw [drain]
      split
      · exact sub_le _ _
      · exact Nat.le_refl _
    exact Nat.le_trans (Nat.add_le_add_right less _) room
  | drop =>
    rcases ite_none_right_eq_some.mp taken with ⟨_, ⟨⟩⟩
    intro waiting waits
    cases waits

/-- If the room that events need is known and there, nobody waits in vain. -/
theorem run_not_deadlocked
    (run : served.system.Run (served.Roomy needed) { state := initial } actions outputs
      system) : ¬ served.Deadlocked system := by
  have fits : served.Fits system := by
    refine run.stateInvariant served.Fits ?_ ?_
    · intro waiting waits
      cases waits
    · intro before action next emitted fits roomy taken
      exact fits.step bounds roomy taken
  exact fits.not_deadlocked

end

/-! ## Counting outputs -/

theorem pushesBefore_le (waiting channel : Channel) (outputs : List Output) :
    served.pushesBefore waiting channel outputs ≤
      (outputs.filter fun output =>
        match served.effect output with
        | .push other => other = channel
        | _ => false).length := by
  induction outputs with
  | nil => exact Nat.le_refl 0
  | cons output outputs induction =>
    rw [pushesBefore, filter_cons]
    cases served.effect output with
    | push other =>
      by_cases same : other = channel
      · simp only [same, if_true, decide_true, length_cons]
        omega
      · simpa [same] using induction
    | answer other =>
      by_cases answered : other = waiting
      · simp [answered]
      · simpa [answered] using induction
    | other => simpa using induction

end Served

end Orion.Foundation
