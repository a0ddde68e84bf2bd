import Orion.Listeners.Listener
import Orion.Tls.FailClosed

/-! # What ends the listeners manager

The listeners of a runtime are tasks that the manager owns; they are stopped when its loop
returns. The loop returns when it is cancelled, and when the one who asked for the
configuration does not wait for it any more.
-/

namespace Orion.Listeners.ListenersManager

open Foundation Tls Option OrderedMap

variable {Limiter : Type}

namespace Event

def isCancelled : Event Limiter → Bool
  | .cancelled => true
  | _ => false

def isAwaited : Event Limiter → Bool
  | .listenerConfiguration (.getConfiguration awaited) _ => awaited
  | _ => true

/-- The configuration that an event gives to a listener; `some none` if it removes it. -/
def configures? (name : Text) : Event Limiter → Option (Option ListenerConfig)
  | .listenerConfiguration (.added factory config) _ =>
    if factory.name = name then some (some config) else none
  | .listenerConfiguration (.removed other) _ => if other = name then some none else none
  | _ => none

def receiver? : Event Limiter → Option Text
  | .receiveRouteUpdate name | .receiveSecretUpdate name => some name
  | _ => none

end Event

/-- The configuration that a listener was given last, unless it was removed since. -/
def lastConfigured (name : Text) (events : List (Event Limiter)) : Option ListenerConfig :=
  (events.filterMap (Event.configures? name)).getLast?.join

theorem lastConfigured_append (name : Text) (events : List (Event Limiter))
    (event : Event Limiter) :
    lastConfigured name (events ++ [event]) =
      (event.configures? name).getD (lastConfigured name events) := by
  rw [lastConfigured, lastConfigured, List.filterMap_append]
  cases found : event.configures? name <;> simp [found]

def heldConfig (self : ListenersManager Limiter) (name : Text) : Option ListenerConfig :=
  (self.listenerHandles.get? name).map (·.listenerConf)

def HoldsConfigured (events : List (Event Limiter)) (self : ListenersManager Limiter) : Prop :=
  ∀ name, self.heldConfig name = lastConfigured name events

/-- The manager goes on after an event, it holds the listeners that were added and not
removed, and those that ran run on. A listener may exit by a step of its own. -/
structure Survives (events : List (Event Limiter)) (event : Event Limiter)
    (before after : ListenersManager Limiter) : Prop where
  goesOn : after.ended = false
  holds : after.HoldsConfigured (events ++ [event])
  running : ∀ name, event.configures? name = none → event.receiver? ≠ some name →
    (before.running? name).isSome → (after.running? name).isSome

/-- What one event does to the listeners, other than by ending the manager. -/
structure Keeps (event : Event Limiter) (before after : ListenersManager Limiter) : Prop where
  ended : after.ended = before.ended
  heldConfig : ∀ name, after.heldConfig name =
    (event.configures? name).getD (before.heldConfig name)
  running : ∀ name, event.configures? name = none → event.receiver? ≠ some name →
    (after.running? name).isSome = (before.running? name).isSome

section

variable {self next : ListenersManager Limiter} {event : Event Limiter}

theorem keeps_startListener (binds : Bool) (named : listener.name = factory.name) :
    Keeps (.listenerConfiguration (.added factory config) binds) self
      (self.startListener listener config binds) := by
  refine ⟨rfl, ?_, ?_⟩
  · intro name
    rw [heldConfig, startListener, get?_insert, named, Event.configures?]
    split_ifs <;> rfl
  · intro name other _
    rw [running?, startListener, get?_insert, named]
    rw [Event.configures?] at other
    split_ifs at other with same
    rw [if_neg same]
    rfl

theorem keeps_stopListener (name : Text) (binds : Bool) :
    Keeps (.listenerConfiguration (.removed name) binds) self (self.stopListener name) := by
  refine ⟨rfl, ?_, ?_⟩
  · intro other
    rw [heldConfig, stopListener, get?_erase, Event.configures?]
    split_ifs <;> rfl
  · intro other different _
    rw [running?, stopListener, get?_erase]
    rw [Event.configures?] at different
    split_ifs at different with same
    rw [if_neg same]
    rfl

theorem keeps_sendAll (send : Listener Limiter → Listener Limiter)
    (unconfigured : ∀ name, event.configures? name = none) :
    Keeps event self (self.sendAll send) := by
  refine ⟨rfl, ?_, ?_⟩
  · intro name
    rw [unconfigured, heldConfig, sendAll, get?_mapValues, map_map]
    rfl
  · intro name _ _
    rw [running?, running?, sendAll, get?_mapValues]
    cases self.listenerHandles.get? name with
    | none => rfl
    | some info => exact isSome_map

theorem keeps_runListener (unconfigured : ∀ name, event.configures? name = none)
    (receives : event.receiver? = some name) (taken : self.runListener name take = some next) :
    Keeps event self next := by
  rcases bind_eq_some_iff.mp taken with ⟨info, found, taken⟩
  rcases bind_eq_some_iff.mp taken with ⟨listener, runs, taken⟩
  rcases bind_eq_some_iff.mp taken with ⟨result, stepped, ⟨⟩⟩
  refine ⟨rfl, ?_, ?_⟩
  · intro other
    rw [unconfigured, heldConfig, get?_insert]
    split_ifs with same
    · rw [getD_none, heldConfig, ← same, found]
      rfl
    · rfl
  · intro other _ different
    rw [running?, get?_insert,
      if_neg fun same => different (receives.trans (congrArg some same))]
    rfl

variable [TlsPlatform]

theorem keeps_of_awaited (going : event.isCancelled = false) (awaited : event.isAwaited)
    (taken : self.step newLimiter event = some (next, dumps)) : Keeps event self next := by
  unfold step at taken
  split_ifs at taken
  cases event with
  | listenerConfiguration change binds =>
    cases change with
    | added factory config =>
      have started := factory.makeListener_eq .subscribe .subscribe
      simp only [changeListener, started] at taken
      cases taken
      exact keeps_startListener binds rfl
    | removed name =>
      cases taken
      exact keeps_stopListener name binds
    | tlsContextChanged secretId secret =>
      cases taken
      exact keeps_sendAll _ fun _ => rfl
    | getConfiguration requested =>
      cases awaited
      cases taken
      exact ⟨rfl, fun _ => rfl, fun _ _ _ => rfl⟩
  | routeConfiguration change =>
    cases taken
    exact keeps_sendAll _ fun _ => rfl
  | cancelled => cases going
  | receiveRouteUpdate name | receiveSecretUpdate name =>
    rcases map_eq_some_iff.mp taken with ⟨_, received, ⟨⟩⟩
    exact keeps_runListener (fun _ => rfl) rfl received

theorem ended_of_unawaited (unawaited : event.isAwaited = false)
    (taken : self.step newLimiter event = some (next, dumps)) : next.ended := by
  unfold step at taken
  split_ifs at taken
  cases event with
  | listenerConfiguration change binds =>
    cases change with
    | getConfiguration requested =>
      cases unawaited
      cases taken
      rfl
    | added | removed | tlsContextChanged => cases unawaited
  | routeConfiguration | cancelled | receiveRouteUpdate | receiveSecretUpdate => cases unawaited

def Going (_ : ListenersManager Limiter) (event : Event Limiter) : Prop :=
  event.isCancelled = false

/-- While the manager goes on, it holds the listeners that were added and not removed. -/
theorem holdsConfigured_of_run (run : (machine newLimiter).Run Going .new events dumps self) :
    self.ended = false → self.HoldsConfigured events := by
  refine run.invariant (fun events _ self => self.ended = false → self.HoldsConfigured events)
    (fun _ _ => rfl) ?_
  intro events outputs state event next emitted holds going taken goesOn name
  cases awaited : event.isAwaited with
  | false =>
    rw [ended_of_unawaited awaited taken] at goesOn
    cases goesOn
  | true =>
    have keeps := keeps_of_awaited going awaited taken
    rw [keeps.heldConfig, lastConfigured_append, holds (keeps.ended ▸ goesOn)]

/-- From every state that the manager can be in, it survives every event exactly if the
event is not a request for the configuration that nobody waits for. -/
theorem survives_iff_awaited {events : List (Event Limiter)} {emitted : List (List ListenerConfig)}
    (run : (machine newLimiter).Run Going .new events dumps self) (going : self.Going event)
    (taken : (machine newLimiter).step self event = some (next, emitted)) :
    Survives events event self next ↔ event.isAwaited = true := by
  constructor
  · intro survives
    by_contra unawaited
    have ended := ended_of_unawaited (Bool.eq_false_iff.mpr unawaited) taken
    rw [survives.goesOn] at ended
    cases ended
  · intro awaited
    have keeps := keeps_of_awaited going awaited taken
    have goesOn := goesOn_of_step taken
    refine ⟨keeps.ended.trans goesOn, ?_, ?_⟩
    · exact holdsConfigured_of_run (run.extend going taken) (keeps.ended.trans goesOn)
    · intro name unconfigured other runs
      rw [keeps.running name unconfigured other, runs]

end

/-! ## A request that nobody waits for -/

def tcpListener : ListenerConfig :=
  ⟨"listener".toList, .socket "127.0.0.1:80".toList, [({}, ⟨"chain".toList, none, .tcp⟩)],
    false⟩

def addTcpListener : Event Unit :=
  .listenerConfiguration (.added ⟨"listener".toList, .socket "127.0.0.1:80".toList,
    [({}, ⟨"chain".toList, none, .tcp, none⟩)]⟩ tcpListener) true

def withTcpListener : ListenersManager Unit :=
  ⟨.insert .empty "listener".toList ⟨some ⟨"listener".toList, .socket "127.0.0.1:80".toList,
    [({}, ⟨"chain".toList, none, .tcp⟩)], .subscribe, .subscribe⟩, tcpListener, 1⟩, false⟩

attribute [local instance] TlsPlatform.withoutFiles

theorem run_addTcpListener :
    (machine fun _ => ()).Run Going .new [addTcpListener] [] withTcpListener :=
  Machine.Run.of_execute rfl (And.intro rfl trivial)

theorem survives_awaited_request :
    Survives [addTcpListener] (.listenerConfiguration (.getConfiguration true) true)
      withTcpListener withTcpListener := by
  have going : withTcpListener.Going (.listenerConfiguration (.getConfiguration true) true) :=
    rfl
  exact (survives_iff_awaited run_addTcpListener going rfl).mpr rfl

/-- A request that nobody waits for stops the listener. -/
theorem unawaited_request_stops_listener : (machine fun _ => ()).Run Going .new
        [addTcpListener, .listenerConfiguration (.getConfiguration false) true] []
        ⟨.empty, true⟩ ∧
      (withTcpListener.running? "listener".toList).isSome ∧
      ¬ Survives [addTcpListener] (.listenerConfiguration (.getConfiguration false) true)
        withTcpListener ⟨.empty, true⟩ := by
  refine ⟨run_addTcpListener.extend rfl rfl, rfl, ?_⟩
  intro survives
  cases survives.goesOn

end Orion.Listeners.ListenersManager
