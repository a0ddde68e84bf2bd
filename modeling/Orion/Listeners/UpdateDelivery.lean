import Orion.Listeners.RouteDistribution
import Orion.Listeners.SecretDelivery

/-! # Whether updates reach the listeners

Updates of routes and secrets are sent to all listeners through channels that keep a bounded
number of them. A listener that falls behind is told so, and exits.
-/

namespace Orion.Listeners

open Foundation Orion.Configuration Tls List Option
open ListenerFactory hiding name

variable {Limiter : Type}

/-! ## What was sent -/

namespace ListenersManager.Event

/-- Where an event puts a listener: with a configuration, running or not, or away. -/
def places? (name : Text) : Event Limiter → Option (Option (ListenerConfig × Bool))
  | .listenerConfiguration (.added factory config) binds =>
    if factory.name = name then some (some (config, binds || factory.address = .internal))
    else none
  | .listenerConfiguration (.removed other) _ => if other = name then some none else none
  | _ => none

def sentSecret? : Event Limiter → Option TlsContextChange
  | .listenerConfiguration (.tlsContextChanged secretId secret) _ =>
    some (.updated secretId secret)
  | _ => none

theorem added?_of_places? {event : Event Limiter} (elsewhere : event.places? name = none) :
    event.added? name = none := by
  rcases event with ⟨⟨factory, config⟩ | _ | _ | _, binds⟩ | _ | _ | _ | _ <;> try rfl
  simp only [places?] at elsewhere
  split_ifs at elsewhere with other
  exact if_neg other

end ListenersManager.Event

namespace ListenersManager

section

variable (name : Text) (events : List (Event Limiter))

def lastPlaced : Option (ListenerConfig × Bool) :=
  (events.filterMap (Event.places? name)).getLast?.join

def routesSent : List RouteConfigurationChange :=
  (sinceAdded name events).filterMap Event.sentRoute?

def secretsSent : List TlsContextChange :=
  (sinceAdded name events).filterMap Event.sentSecret?

end

section

variable {name : Text} {event : Event Limiter} (events : List (Event Limiter))

theorem lastPlaced_append (name : Text) (event : Event Limiter) :
    lastPlaced name (events ++ [event]) = (event.places? name).getD (lastPlaced name events) := by
  rw [lastPlaced, lastPlaced, filterMap_append]
  cases found : event.places? name <;> simp [found]

theorem sinceAdded_append_of_added (adds : event.added? name = some added) :
    sinceAdded name (events ++ [event]) = [] := by
  rw [sinceAdded, reverse_append, reverse_singleton, singleton_append, takeWhile_cons, adds]
  rfl

theorem sinceAdded_append (adds : event.added? name = none) :
    sinceAdded name (events ++ [event]) = sinceAdded name events ++ [event] := by
  rw [sinceAdded, sinceAdded, reverse_append, reverse_singleton,
    singleton_append, takeWhile_cons, adds]
  exact reverse_cons

theorem routesSent_append (adds : event.added? name = none) :
    routesSent name (events ++ [event]) = routesSent name events ++ event.sentRoute?.toList := by
  rw [routesSent, routesSent, sinceAdded_append events adds, filterMap_append]
  cases sent : event.sentRoute? <;> simp [sent]

theorem secretsSent_append (adds : event.added? name = none) :
    secretsSent name (events ++ [event]) = secretsSent name events ++ event.sentSecret?.toList := by
  rw [secretsSent, secretsSent, sinceAdded_append events adds, filterMap_append]
  cases sent : event.sentSecret? <;> simp [sent]

end

end ListenersManager

/-! ## A listener that keeps up -/

def HttpConnectionManager.HasApplied (newLimiter : Configuration.LocalRateLimit → Limiter)
    (manager : HttpConnectionManager Limiter) : RouteConfigurationChange → Prop
  | .added _ route => manager.router = some route ∧
      manager.httpFiltersPerRoute = perRouteHttpFilters newLimiter route manager.httpFiltersHcm
  | .removed _ => manager.router = none

section

variable {newLimiter : Configuration.LocalRateLimit → Limiter}
  {manager : HttpConnectionManager Limiter} {change : RouteConfigurationChange}

theorem HttpConnectionManager.hasApplied_processRouteUpdate
    (discovers : manager.dynamicRouteName = some change.id) :
    (manager.processRouteUpdate newLimiter change).HasApplied newLimiter change := by
  cases change with
  | added id route =>
    have applied : manager.processRouteUpdate newLimiter (.added id route) =
        manager.updateRoute newLimiter route := if_pos discovers
    rw [applied]
    exact ⟨rfl, rfl⟩
  | removed id =>
    have applied : manager.processRouteUpdate newLimiter (.removed id) =
        manager.removeRoute := if_pos discovers
    rw [applied]
    rfl

theorem HttpConnectionManager.processRouteUpdate_of_ne
    (other : manager.dynamicRouteName ≠ some change.id) :
    manager.processRouteUpdate newLimiter change = manager := by
  cases change with
  | added | removed => exact if_neg other

end

namespace Listener

variable [TlsPlatform]

/-- The connection managers of a listener route by the last updates received. -/
def RoutesBy (newLimiter : Configuration.LocalRateLimit → Limiter)
    (received : List RouteConfigurationChange) (listener : Listener Limiter) : Prop :=
  ∀ manager ∈ listener.managers, ∀ id, manager.dynamicRouteName = some id →
    ∀ change, lastFor RouteConfigurationChange.id id received = some change →
      manager.HasApplied newLimiter change

def Serves (config : ListenerConfig) (received : List TlsContextChange)
    (listener : Listener Limiter) : Prop :=
  List.Forall₂ (fun chainConfig chain => chain.2.Serves chainConfig.2 received)
    config.filterChains listener.filterChains

/-- A listener has done what it received, and keeps what it has not, of what was sent. -/
structure KeepsUp (newLimiter : Configuration.LocalRateLimit → Limiter) (config : ListenerConfig)
    (routes : List RouteConfigurationChange) (secrets : List TlsContextChange)
    (listener : Listener Limiter) : Prop where
  routed : ∃ received, listener.routeUpdatesReceiver.Tracks routes received ∧
    listener.RoutesBy newLimiter received
  served : ∃ received, listener.secretUpdatesReceiver.Tracks secrets received ∧
    listener.Serves config received

/-- The filter chains of a listener that use a secret can take it. Internal listeners take
none. -/
def CanTake (config : ListenerConfig) (listener : Listener Limiter) (change : TlsContextChange) :
    Prop :=
  ∀ chainConfig chain, (chainConfig, chain) ∈ config.filterChains.zip listener.filterChains →
    change.use ∈ chainConfig.2.uses → listener.address ≠ .internal ∧ chain.2.CanTake change

variable {newLimiter : Configuration.LocalRateLimit → Limiter} {config : ListenerConfig}
  {listener : Listener Limiter} {result : Option (Listener Limiter)}

omit [TlsPlatform] in
theorem RoutesBy.processRouteUpdate (routed : listener.RoutesBy newLimiter received)
    (update : RouteConfigurationChange) (receiver : Receiver RouteConfigurationChange) :
    RoutesBy newLimiter (received ++ [update])
      { listener with
        filterChains := listener.filterChains.map fun chain =>
          (chain.1, chain.2.processRouteUpdate newLimiter update)
        routeUpdatesReceiver := receiver } := by
  intro changed member id discovers change last
  rw [managers_processRouteUpdate] at member
  rcases mem_map.mp member with ⟨manager, known, rfl⟩
  rw [HttpConnectionManager.processRouteUpdate_name] at discovers
  rw [lastFor_append] at last
  split at last
  · rename_i same
    cases last
    exact HttpConnectionManager.hasApplied_processRouteUpdate (same ▸ discovers)
  · rename_i different
    have other : manager.dynamicRouteName ≠ some update.id := by
      rw [discovers]
      exact fun same => different (some_inj.mp same).symm
    rw [HttpConnectionManager.processRouteUpdate_of_ne other]
    exact routed manager known id discovers change last

theorem Serves.processRouteUpdate (served : listener.Serves config received)
    (update : RouteConfigurationChange) (receiver : Receiver RouteConfigurationChange) :
    Serves config received
      { listener with
        filterChains := listener.filterChains.map fun chain =>
          (chain.1, chain.2.processRouteUpdate newLimiter update)
        routeUpdatesReceiver := receiver } := by
  unfold Serves at served ⊢
  rw [forall₂_map_right_iff]
  refine served.imp fun chainConfig chain serves => ?_
  have same : (chain.2.processRouteUpdate newLimiter update).tlsConfigurator =
      chain.2.tlsConfigurator := by
    unfold FilterchainType.processRouteUpdate
    split <;> rfl
  unfold FilterchainType.Serves
  rw [same]
  exact serves

theorem KeepsUp.receiveRouteUpdate (keepsUp : listener.KeepsUp newLimiter config routes secrets)
    (onTime : listener.routeUpdatesReceiver.lagged = false)
    (received : listener.receiveRouteUpdate newLimiter = some result) :
    ∃ next, result = some next ∧ next.KeepsUp newLimiter config routes secrets := by
  rcases keepsUp with ⟨⟨earlier, tracks, routed⟩, ⟨known, secretsTrack, served⟩⟩
  unfold Listener.receiveRouteUpdate at received
  split at received
  · cases received
  · rename_i lagging
    simp [Receiver.recv, onTime] at lagging
    split at lagging <;> cases lagging
  · rename_i update receiver message
    cases received
    exact ⟨_, rfl, ⟨_, tracks.recv onTime message, routed.processRouteUpdate update receiver⟩,
      ⟨known, secretsTrack, served.processRouteUpdate update receiver⟩⟩

theorem Serves.processSecretUpdate (served : listener.Serves config received)
    (possible : listener.CanTake config update) (receiver : Receiver TlsContextChange) :
    Serves config (received ++ [update])
      { listener with
        filterChains := match listener.address with
          | .socket _ => listener.filterChains.map fun chain =>
            (chain.1, chain.2.processSecretUpdate update)
          | .internal => listener.filterChains
        secretUpdatesReceiver := receiver } := by
  unfold Serves at served ⊢
  rcases forall₂_iff_zip.mp served with ⟨length, each⟩
  cases address : listener.address with
  | socket _ =>
    rw [forall₂_map_right_iff, forall₂_iff_zip]
    refine ⟨length, fun {chainConfig chain} member => ?_⟩
    exact (each member).processSecretUpdate fun used =>
      (possible chainConfig chain member used).2
  | internal =>
    rw [forall₂_iff_zip]
    refine ⟨length, fun {chainConfig chain} member => (each member).ignore fun used => ?_⟩
    exact (possible chainConfig chain member used).1 address

theorem RoutesBy.processSecretUpdate (routed : listener.RoutesBy newLimiter received)
    (update : TlsContextChange) (receiver : Receiver TlsContextChange) :
    RoutesBy newLimiter received
      { listener with
        filterChains := match listener.address with
          | .socket _ => listener.filterChains.map fun chain =>
            (chain.1, chain.2.processSecretUpdate update)
          | .internal => listener.filterChains
        secretUpdatesReceiver := receiver } := by
  cases address : listener.address with
  | internal => exact routed
  | socket _ =>
    intro manager member
    simp only [managers, handlers, List.map_map] at member
    exact routed manager (managers_processSecretUpdate listener update ▸ member)

theorem KeepsUp.receiveSecretUpdate (keepsUp : listener.KeepsUp newLimiter config routes secrets)
    (onTime : listener.secretUpdatesReceiver.lagged = false)
    (possible : ∀ change rest, listener.secretUpdatesReceiver.pending = change :: rest →
      listener.CanTake config change) (received : listener.receiveSecretUpdate = some result) :
    ∃ next, result = some next ∧ next.KeepsUp newLimiter config routes secrets := by
  rcases keepsUp with ⟨⟨earlier, tracks, routed⟩, ⟨known, secretsTrack, served⟩⟩
  unfold Listener.receiveSecretUpdate at received
  split at received
  · cases received
  · rename_i lagging
    simp [Receiver.recv, onTime] at lagging
    split at lagging <;> cases lagging
  · rename_i update receiver message
    cases received
    have taken := possible update _ (Receiver.recv_eq_message message).1
    exact ⟨_, rfl, ⟨earlier, tracks, routed.processSecretUpdate update receiver⟩,
      ⟨_, secretsTrack.recv onTime message, served.processSecretUpdate taken receiver⟩⟩

theorem keepsUp_of_made (accepted : tryFrom newLimiter config manager = .ok factory)
    (made : factory.makeListener .subscribe .subscribe = .ok listener) :
    listener.KeepsUp newLimiter config [] [] := by
  rw [makeListener_eq] at made
  cases made
  refine ⟨⟨[], Receiver.tracks_subscribe, fun _ _ _ _ _ last => by cases last⟩,
    ⟨[], Receiver.tracks_subscribe, ?_⟩⟩
  rcases bind_eq_ok_iff.mp accepted with ⟨filterChains, mapped, checked⟩
  split_ifs at checked
  cases checked
  unfold Serves
  rw [forall₂_map_right_iff]
  refine (mapM_eq_ok_iff.mp mapped).imp fun chainConfig built pair => ?_
  rcases map_eq_ok_iff.mp pair with ⟨builder, accepted, rfl⟩
  exact FilterchainBuilder.ofConfig_serves accepted

end Listener

/-! ## The manager and its listeners -/

namespace ListenersManager

section

variable [TlsPlatform] {newLimiter : Configuration.LocalRateLimit → Limiter} {name : Text}
  {events : List (Event Limiter)} {self next : ListenersManager Limiter} {event : Event Limiter}

/-- Listeners are made from their configuration. A listener that receives an update has not
fallen behind, and can take a secret that it uses. -/
def InTime (newLimiter : Configuration.LocalRateLimit → Limiter)
    (self : ListenersManager Limiter) : Event Limiter → Prop
  | .listenerConfiguration (.added factory config) _ =>
    ∃ secrets, tryFrom newLimiter config secrets = .ok factory
  | .receiveRouteUpdate name => ∀ listener, self.running? name = some listener →
      listener.routeUpdatesReceiver.lagged = false
  | .receiveSecretUpdate name => ∀ info, self.listenerHandles.get? name = some info →
      ∀ listener, info.listener = some listener →
        listener.secretUpdatesReceiver.lagged = false ∧
          ∀ change rest, listener.secretUpdatesReceiver.pending = change :: rest →
            listener.CanTake info.listenerConf change
  | _ => True

/-- While the manager goes on, the listeners that were started run, and those that have
received all that was sent since then have done as the last updates said. -/
structure Delivered (newLimiter : Configuration.LocalRateLimit → Limiter)
    (events : List (Event Limiter)) (state : ListenersManager Limiter) : Prop where
  running : ∀ name config, lastPlaced name events = some (config, true) →
    (state.running? name).isSome = true
  routes : ∀ name listener, state.running? name = some listener →
    listener.routeUpdatesReceiver.pending = [] → ∀ manager ∈ listener.managers, ∀ id,
      manager.dynamicRouteName = some id → ∀ change,
        lastFor RouteConfigurationChange.id id (routesSent name events) = some change →
          manager.HasApplied newLimiter change
  secrets : ∀ name info, state.listenerHandles.get? name = some info → ∀ listener,
    info.listener = some listener → listener.secretUpdatesReceiver.pending = [] →
      ∀ chainConfig chain,
        (chainConfig, chain) ∈ info.listenerConf.filterChains.zip listener.filterChains →
          ∀ use ∈ chainConfig.2.uses, ∀ change,
            lastFor TlsContextChange.use use (secretsSent name events) = some change →
              chain.2.HasApplied change

inductive Stands (newLimiter : Configuration.LocalRateLimit → Limiter) (name : Text)
    (events : List (Event Limiter)) :
    Option (ListenerConfig × Bool) → Option (ListenerInfo Limiter) → Prop
  | absent : Stands newLimiter name events none none
  | failed {config info} (exited : info.listener = none) :
      Stands newLimiter name events (some (config, false)) (some info)
  | running {info listener} (runs : info.listener = some listener)
      (keepsUp : listener.KeepsUp newLimiter info.listenerConf (routesSent name events)
        (secretsSent name events)) :
      Stands newLimiter name events (some (info.listenerConf, true)) (some info)

def AllStand (newLimiter : Configuration.LocalRateLimit → Limiter)
    (events : List (Event Limiter)) (self : ListenersManager Limiter) : Prop :=
  ∀ name, Stands newLimiter name events (lastPlaced name events)
    (self.listenerHandles.get? name)

/-- An event that neither places the listener nor sends anything makes no difference. -/
theorem Stands.later (stands : Stands newLimiter name events (lastPlaced name events) info)
    (elsewhere : event.places? name = none) (noRoute : event.sentRoute? = none)
    (noSecret : event.sentSecret? = none) :
    Stands newLimiter name (events ++ [event]) (lastPlaced name (events ++ [event])) info := by
  have adds := Event.added?_of_places? elsewhere
  have sameRoutes := routesSent_append events adds
  have sameSecrets := secretsSent_append events adds
  rw [noRoute, toList_none, append_nil] at sameRoutes
  rw [noSecret, toList_none, append_nil] at sameSecrets
  rw [lastPlaced_append, elsewhere, getD_none]
  generalize lastPlaced name events = placed at stands ⊢
  cases stands with
  | absent => exact .absent
  | failed exited => exact .failed exited
  | running runs keepsUp =>
    rw [← sameRoutes, ← sameSecrets] at keepsUp
    exact .running runs keepsUp

theorem AllStand.sendAll (stand : AllStand newLimiter events self)
    (send : Listener Limiter → Listener Limiter) (elsewhere : ∀ name, event.places? name = none)
    (sent : ∀ name config listener, listener.KeepsUp newLimiter config (routesSent name events)
      (secretsSent name events) → (send listener).KeepsUp newLimiter config
        (routesSent name events ++ event.sentRoute?.toList)
        (secretsSent name events ++ event.sentSecret?.toList)) :
    AllStand newLimiter (events ++ [event]) (self.sendAll send) := by
  intro name
  have stands := stand name
  have adds := Event.added?_of_places? (elsewhere name)
  have receives := sent name
  rw [← routesSent_append events adds, ← secretsSent_append events adds] at receives
  rw [lastPlaced_append, elsewhere, getD_none, ListenersManager.sendAll, OrderedMap.get?_mapValues]
  generalize lastPlaced name events = placed at stands ⊢
  generalize self.listenerHandles.get? name = info at stands ⊢
  cases stands with
  | absent => exact .absent
  | failed exited => exact .failed (by simp [exited])
  | @running info listener runs keepsUp =>
    exact @Stands.running _ _ newLimiter name _ { info with listener := info.listener.map send }
      (send listener) (by simp [runs]) (receives _ listener keepsUp)

theorem AllStand.runListener {take : Listener Limiter → Option (Option (Listener Limiter))}
    (stand : AllStand newLimiter events self) (elsewhere : ∀ name, event.places? name = none)
    (noRoute : event.sentRoute? = none) (noSecret : event.sentSecret? = none)
    (takes : ∀ {info listener result routes secrets},
      self.listenerHandles.get? receiver = some info → info.listener = some listener →
      listener.KeepsUp newLimiter info.listenerConf routes secrets →
      take listener = some result →
        ∃ next, result = some next ∧ next.KeepsUp newLimiter info.listenerConf routes secrets)
    (taken : self.runListener receiver take = some next) :
    AllStand newLimiter (events ++ [event]) next := by
  intro name
  refine Stands.later ?_ (elsewhere name) noRoute noSecret
  have stands := stand name
  rcases bind_eq_some_iff.mp taken with ⟨info, found, taken⟩
  rcases bind_eq_some_iff.mp taken with ⟨listener, runs, taken⟩
  rcases bind_eq_some_iff.mp taken with ⟨result, stepped, ⟨⟩⟩
  by_cases same : receiver = name
  · subst same
    rw [OrderedMap.get?_insert_self]
    rw [found] at stands
    generalize lastPlaced receiver events = placed at stands ⊢
    cases stands with
    | failed exited =>
      rw [exited] at runs
      cases runs
    | running runs' keepsUp =>
      cases runs.symm.trans runs'
      rcases takes found runs keepsUp stepped with ⟨next, rfl, keepsUp⟩
      exact @Stands.running _ _ newLimiter receiver _ { info with listener := some next }
        next rfl keepsUp
  · rw [OrderedMap.get?_insert_of_ne _ _ same]
    exact stands

theorem AllStand.startListener (stand : AllStand newLimiter events self)
    (accepted : tryFrom newLimiter config secrets = .ok factory)
    (made : factory.makeListener .subscribe .subscribe = .ok listener) :
    AllStand newLimiter (events ++ [.listenerConfiguration (.added factory config) binds])
      (self.startListener listener config binds) := by
  intro name
  have keepsUp := Listener.keepsUp_of_made accepted made
  have same := makeListener_same made
  rw [ListenersManager.startListener, OrderedMap.get?_insert, same.1]
  by_cases added : factory.name = name
  · have adds : Event.added? name (.listenerConfiguration (.added factory config) binds) =
        some (config, binds || factory.address = .internal) := if_pos added
    have places : Event.places? name (.listenerConfiguration (.added factory config) binds) =
        some (some (config, binds || factory.address = .internal)) := if_pos added
    have fresh := sinceAdded_append_of_added events adds
    rw [if_pos added, lastPlaced_append, places, getD_some, ← same.2]
    have runs : ∀ info : ListenerInfo Limiter, info.listenerConf = config →
        info.listener = some listener →
        Stands newLimiter name (events ++ [.listenerConfiguration (.added factory config) binds])
          (some (config, true)) (some info) := by
      rintro info rfl runs
      refine .running runs ?_
      rw [routesSent, secretsSent, fresh]
      exact keepsUp
    cases address : listener.address with
    | internal =>
      rw [decide_eq_true rfl, Bool.or_true]
      exact runs _ rfl (by simp [Listener.start, address])
    | socket socket =>
      cases binds with
      | true => exact runs _ rfl (by simp [Listener.start, address])
      | false => exact .failed (by simp [Listener.start, address])
  · rw [if_neg added]
    exact (stand name).later (if_neg added) rfl rfl

theorem AllStand.stopListener (stand : AllStand newLimiter events self) :
    AllStand newLimiter (events ++ [.listenerConfiguration (.removed removed) binds])
      (self.stopListener removed) := by
  intro name
  rw [ListenersManager.stopListener, OrderedMap.get?_erase]
  by_cases same : removed = name
  · have places : Event.places? name
        (.listenerConfiguration (.removed removed) binds : Event Limiter) = some none := if_pos same
    rw [if_pos same, lastPlaced_append, places]
    exact .absent
  · rw [if_neg same]
    exact (stand name).later (if_neg same) rfl rfl

theorem AllStand.step {dumps : List (List ListenerConfig)} (stand : AllStand newLimiter events self)
    (inTime : self.InTime newLimiter event)
    (taken : self.step newLimiter event = some (next, dumps)) :
    next.ended = false → AllStand newLimiter (events ++ [event]) next := by
  intro goesOn
  unfold ListenersManager.step at taken
  split_ifs at taken
  cases event with
  | listenerConfiguration change binds =>
    cases change with
    | added factory config =>
      rcases inTime with ⟨secrets, accepted⟩
      have made := factory.makeListener_eq .subscribe .subscribe
      simp only [changeListener, made] at taken
      cases taken
      exact stand.startListener accepted made
    | removed name =>
      cases taken
      exact stand.stopListener
    | tlsContextChanged secretId secret =>
      cases taken
      refine stand.sendAll _ (fun _ => rfl) fun name config listener keepsUp => ?_
      rcases keepsUp with ⟨⟨earlier, tracks, routed⟩, ⟨known, secretsTrack, served⟩⟩
      simp only [Event.sentRoute?, toList_none, append_nil]
      exact ⟨⟨earlier, tracks, routed⟩, ⟨known, secretsTrack.send _ _, served⟩⟩
    | getConfiguration awaited =>
      cases awaited with
      | false =>
        cases taken
        cases goesOn
      | true =>
        cases taken
        exact fun name => (stand name).later rfl rfl rfl
  | routeConfiguration change =>
    cases taken
    refine stand.sendAll _ (fun _ => rfl) fun name config listener keepsUp => ?_
    rcases keepsUp with ⟨⟨earlier, tracks, routed⟩, ⟨known, secretsTrack, served⟩⟩
    simp only [Event.sentSecret?, toList_none, append_nil]
    exact ⟨⟨earlier, tracks.send _ _, routed⟩, ⟨known, secretsTrack, served⟩⟩
  | cancelled =>
    cases taken
    cases goesOn
  | receiveRouteUpdate receiver =>
    rcases map_eq_some_iff.mp taken with ⟨_, received, ⟨⟩⟩
    refine stand.runListener (fun _ => rfl) rfl rfl ?_ received
    intro info listener result routes secrets found runs keepsUp stepped
    have onTime := inTime listener (bind_eq_some_iff.mpr ⟨info, found, runs⟩)
    exact keepsUp.receiveRouteUpdate onTime stepped
  | receiveSecretUpdate receiver =>
    rcases map_eq_some_iff.mp taken with ⟨_, received, same⟩
    cases same
    refine stand.runListener (fun _ => rfl) rfl rfl ?_ received
    intro info listener result routes secrets found runs keepsUp stepped
    rcases inTime info found listener runs with ⟨onTime, possible⟩
    exact keepsUp.receiveSecretUpdate onTime possible stepped

theorem Delivered.of_allStand (stand : AllStand newLimiter events self) :
    self.Delivered newLimiter events := by
  have keepsUp : ∀ {name info listener}, self.listenerHandles.get? name = some info →
      info.listener = some listener → listener.KeepsUp newLimiter info.listenerConf
        (routesSent name events) (secretsSent name events) := by
    intro name info listener found runs
    have stands := stand name
    rw [found] at stands
    generalize lastPlaced name events = placed at stands
    cases stands with
    | failed exited =>
      rw [exited] at runs
      cases runs
    | running runs' keepsUp =>
      cases runs.symm.trans runs'
      exact keepsUp
  refine ⟨?_, ?_, ?_⟩
  · intro name config placed
    have stands := stand name
    rw [placed] at stands
    rw [running?]
    generalize self.listenerHandles.get? name = info at stands ⊢
    cases stands with
    | running runs _ => simp [runs]
  · intro name listener runs drained manager member id discovers change last
    rcases bind_eq_some_iff.mp runs with ⟨info, found, runs⟩
    rcases (keepsUp found runs).routed with ⟨received, tracks, routed⟩
    rw [tracks.drained drained] at last
    exact routed manager member id discovers change last
  · intro name info found listener runs drained chainConfig chain member use used change last
    rcases (keepsUp found runs).served with ⟨received, tracks, served⟩
    rw [tracks.drained drained] at last
    rcases forall₂_iff_zip.mp served with ⟨_, each⟩
    exact (each member).hasApplied used last

/-- No update is lost in a run in which no listener falls behind, and every listener can
take the secrets that it uses. -/
theorem delivered_of_run {dumps : List (List ListenerConfig)}
    (run : (machine newLimiter).Run (InTime newLimiter) .new events dumps self)
    (goesOn : self.ended = false) : self.Delivered newLimiter events := by
  have stand : self.ended = false → AllStand newLimiter events self := by
    refine run.invariant (fun events _ self => self.ended = false → AllStand newLimiter events self)
      (fun _ _ => .absent) ?_
    intro events outputs state event next emitted stand inTime taken
    exact (stand (goesOn_of_step taken)).step inTime taken
  exact .of_allStand (stand goesOn)

end

/-! ## Updates that are lost -/

def discoveringListener (address : ListenerAddress) : ListenerConfig :=
  ⟨"listener".toList, address, [({}, ⟨"chain".toList,
    some ⟨false, ⟨{}, .sdsConfig ["cert".toList], none⟩⟩, .http ⟨.rds "routes".toList, []⟩⟩)],
    false⟩

def serverOf (certificates : List SecretHolder) : ServerConfigurator :=
  ⟨⟨[.tls12, .tls13], none, none, certificates, false⟩, ⟨[.tls12, .tls13], .noClientAuth,
    certificates.map fun holder => (none, holder.serverCert.certs)⟩⟩

def addDiscovering (address : ListenerAddress) (certificates : List SecretHolder) : Event Unit :=
  .listenerConfiguration (.added ⟨"listener".toList, address, [({}, ⟨"chain".toList, none,
    .http ⟨none, some "routes".toList, [], Table.empty⟩, some (serverOf certificates)⟩)]⟩
    (discoveringListener address)) true

/-- The listener with its routes and certificates, once it has received everything. -/
def runningDiscovering (address : ListenerAddress) (router : Option RouteConfiguration)
    (certificates : List SecretHolder) : ListenersManager Unit :=
  ⟨.insert .empty "listener".toList ⟨some ⟨"listener".toList, address, [({}, ⟨"chain".toList,
    some (serverOf certificates), .http ⟨router, some "routes".toList, [], Table.empty⟩⟩)],
      .subscribe, .subscribe⟩, discoveringListener address, 1⟩, false⟩

def certificateHolder (chain : Certificate) : SecretHolder :=
  ⟨"cert".toList, ⟨[], [0], [chain]⟩⟩

def sendCertificate (chain : Certificate) : Event Unit :=
  .listenerConfiguration (.tlsContextChanged "cert".toList
    (.certificate ⟨none, [0], [chain], ⟨.inlineBytes chain, .inlineBytes [0]⟩⟩)) true

def sendRoutes : Event Unit :=
  .routeConfiguration (.added "routes".toList ⟨"routes".toList, []⟩)

/-- A listener that has its first certificate gets another, and its routes. -/
def updatesSent : List (Event Unit) :=
  [addDiscovering (.socket "127.0.0.1:80".toList) [certificateHolder [2]], sendRoutes,
    sendCertificate [3], .receiveRouteUpdate "listener".toList,
    .receiveSecretUpdate "listener".toList]

attribute [local instance] TlsPlatform.inlineSecrets

theorem run_updatesSent : (machine fun _ => ()).Run (InTime fun _ => ()) .new updatesSent []
      (runningDiscovering (.socket "127.0.0.1:80".toList) (some ⟨"routes".toList, []⟩)
        [certificateHolder [3]]) := by
  refine Machine.Run.of_execute rfl ⟨⟨SecretManager.empty.receiveAll [certificateSecret [2]],
    rfl⟩, trivial, trivial, ?_, ?_, trivial⟩
  · intro listener runs
    cases runs
    rfl
  · intro info found listener runs
    cases found
    cases runs
    refine ⟨rfl, ?_⟩
    intro change rest pending
    cases pending
    intro chainConfig chain member _
    cases mem_singleton.mp member
    refine ⟨nofun, ?_⟩
    intro server configured
    cases configured
    exact ⟨rfl, rfl⟩

theorem updates_delivered : (machine fun _ => ()).Run (InTime fun _ => ()) .new updatesSent []
        (runningDiscovering (.socket "127.0.0.1:80".toList) (some ⟨"routes".toList, []⟩)
          [certificateHolder [3]]) ∧
      Delivered (fun _ => ()) updatesSent
        (runningDiscovering (.socket "127.0.0.1:80".toList) (some ⟨"routes".toList, []⟩)
          [certificateHolder [3]]) :=
  ⟨run_updatesSent, delivered_of_run run_updatesSent rfl⟩

def FromConfiguration [TlsPlatform] (_ : ListenersManager Unit) : Event Unit → Prop
  | .listenerConfiguration (.added factory config) _ =>
    ∃ secrets, tryFrom (fun _ => ()) config secrets = .ok factory
  | _ => True

def LosesUpdate [TlsPlatform] (events : List (Event Unit)) (self : ListenersManager Unit) : Prop :=
  (machine fun _ => ()).Run FromConfiguration .new events [] self ∧ self.ended = false ∧
    ¬ self.Delivered (fun _ => ()) events

def manyRoutes : List (Event Unit) :=
  addDiscovering (.socket "127.0.0.1:80".toList) [certificateHolder [2]] ::
    (replicate (updatesCapacity + 1) sendRoutes ++ [.receiveRouteUpdate "listener".toList])

theorem manyRoutes_loses :
    LosesUpdate manyRoutes ⟨.insert .empty "listener".toList
      ⟨none, discoveringListener (.socket "127.0.0.1:80".toList), 1⟩, false⟩ := by
  refine ⟨.of_execute rfl ⟨⟨SecretManager.empty.receiveAll [certificateSecret [2]], rfl⟩, ?_⟩,
    rfl, ?_⟩
  · apply Machine.allAllowed_of_forall
    intro event member state
    rcases mem_append.mp member with sent | received
    · rw [eq_of_mem_replicate sent]
      trivial
    · rw [mem_singleton.mp received]
      trivial
  · intro delivered
    have running := delivered.running "listener".toList
      (discoveringListener (.socket "127.0.0.1:80".toList)) rfl
    cases running

def certificateSent (address : ListenerAddress) (certificates : List SecretHolder) :
    List (Event Unit) :=
  [addDiscovering address certificates, sendCertificate [3],
    .receiveSecretUpdate "listener".toList]

/-- The listener has received the certificate, but does not use it. -/
theorem not_delivered_of_certificates [TlsPlatform] (address : ListenerAddress)
    (other : certificateOf certificates "cert".toList ≠ some ⟨[], [0], [[3]]⟩) :
    ¬ (runningDiscovering address none certificates).Delivered (fun _ => ())
      (certificateSent address certificates) := by
  intro delivered
  rcases delivered.secrets "listener".toList _ rfl _ rfl rfl _ _ mem_cons_self
    (.certificate "cert".toList) mem_cons_self _ rfl with ⟨server, ⟨⟩, _, applied⟩
  exact other applied

/-- A listener that falls behind exits. Internal listeners drop secrets, and so does a listener
that was made before its certificate was known. -/
theorem updates_lost :
    (∃ self, LosesUpdate manyRoutes self ∧ self.running? "listener".toList = none) ∧
    LosesUpdate (certificateSent .internal [certificateHolder [2]])
      (runningDiscovering .internal none [certificateHolder [2]]) ∧
    LosesUpdate (certificateSent (.socket "127.0.0.1:80".toList) [])
      (runningDiscovering (.socket "127.0.0.1:80".toList) none []) := by
  refine ⟨⟨_, manyRoutes_loses, rfl⟩, ⟨.of_execute rfl ?_, rfl, ?_⟩, ⟨.of_execute rfl ?_, rfl, ?_⟩⟩
  · exact ⟨⟨SecretManager.empty.receiveAll [certificateSecret [2]], rfl⟩, trivial, trivial, trivial⟩
  · exact not_delivered_of_certificates _ (by decide)
  · exact ⟨⟨.empty, rfl⟩, trivial, trivial, trivial⟩
  · exact not_delivered_of_certificates _ (by decide)

end ListenersManager

end Orion.Listeners
