import Orion.Listeners.Listener
import Orion.Tls.FailClosed

/-! # How routes reach the listeners

A route update is sent to the listeners that run at that moment, and is not kept. A
listener that is added later, or replaced, does not get it, and neither does a connection
whose listener was replaced.
-/

namespace Orion.Listeners

open Foundation Orion.Configuration Tls ListenersManager RouteConfigurationChange List Option

variable {Limiter : Type}

/-! ## What was received -/

def RouteConfigurationChange.id : RouteConfigurationChange → Text
  | .added id _ | .removed id => id

namespace ListenersManager.Event

/-- The configuration that an event adds for a listener, and whether it runs. -/
def added? (name : Text) : Event Limiter → Option (ListenerConfig × Bool)
  | .listenerConfiguration (.added factory config) binds =>
    if factory.name = name then some (config, binds || factory.address = .internal)
    else none
  | _ => none

def route? (id : Text) : Event Limiter → Option RouteConfiguration
  | .routeConfiguration (.added other route) => if other = id then some route else none
  | _ => none

def sentRoute? : Event Limiter → Option RouteConfigurationChange
  | .routeConfiguration change => some change
  | _ => none

end ListenersManager.Event

namespace ListenersManager

def routesReceived (id : Text) (events : List (Event Limiter)) : List RouteConfiguration :=
  events.filterMap (Event.route? id)

/-- The configuration with which a listener was added last, and whether it runs. -/
def lastAdded (name : Text) (events : List (Event Limiter)) : Option (ListenerConfig × Bool) :=
  (events.filterMap (Event.added? name)).getLast?

def sinceAdded (name : Text) (events : List (Event Limiter)) : List (Event Limiter) :=
  (events.reverse.takeWhile fun event => (event.added? name).isNone).reverse

def currentRoute (name id : Text) (events : List (Event Limiter)) : Option RouteConfiguration :=
  (routesReceived id (sinceAdded name events)).getLast?

theorem sinceAdded_suffix (name : Text) (events : List (Event Limiter)) :
    (sinceAdded name events).IsSuffix events := by
  rw [← reverse_prefix, sinceAdded, reverse_reverse]
  exact takeWhile_prefix _

theorem lastAdded_append (name : Text) (events : List (Event Limiter)) (event : Event Limiter) :
    lastAdded name (events ++ [event]) = (event.added? name).or (lastAdded name events) := by
  rw [lastAdded, lastAdded, filterMap_append]
  cases found : event.added? name <;> simp [found]

theorem lastRoute_append (id : Text) (events : List (Event Limiter)) (event : Event Limiter) :
    (routesReceived id (events ++ [event])).getLast? =
      (event.route? id).or (routesReceived id events).getLast? := by
  rw [routesReceived, routesReceived, filterMap_append]
  cases found : event.route? id <;> simp [found]

theorem currentRoute_append (name id : Text) (events : List (Event Limiter))
    (event : Event Limiter) :
    currentRoute name id (events ++ [event]) =
      if (event.added? name).isSome then none
      else (event.route? id).or (currentRoute name id events) := by
  rw [currentRoute, currentRoute, routesReceived, sinceAdded, sinceAdded, reverse_append,
    reverse_singleton, singleton_append, takeWhile_cons]
  cases adds : event.added? name with
  | some config => simp
  | none =>
    cases found : event.route? id <;> simp [routesReceived, found]

end ListenersManager

/-! ## The connection managers of a listener -/

def ConnectionHandler.manager? : ConnectionHandler Limiter →
    Option (HttpConnectionManager Limiter)
  | .http manager => some manager
  | .tcp => none

def Listener.handlers (self : Listener Limiter) : List (ConnectionHandler Limiter) :=
  self.filterChains.map fun chain => chain.2.handler

def Listener.managers (self : Listener Limiter) : List (HttpConnectionManager Limiter) :=
  self.handlers.filterMap ConnectionHandler.manager?

/-- The names under which the connection managers of a configuration discover routes. -/
theorem ListenerConfig.rdsNames_eq (newLimiter : Configuration.LocalRateLimit → Limiter)
    (config : ListenerConfig) : ((config.filterChains.map fun chain =>
        ConnectionHandler.ofConfig newLimiter chain.2.terminalFilter).filterMap
      ConnectionHandler.manager?).filterMap (·.dynamicRouteName) = config.rdsNames := by
  rw [filterMap_map, filterMap_filterMap]
  refine filterMap_congr fun chain _ => ?_
  rw [Function.comp_apply]
  rcases chain.2.terminalFilter with ⟨⟨_ | _, _⟩⟩ | _ <;> rfl

section

variable {newLimiter : Configuration.LocalRateLimit → Limiter} {secrets : SecretManager}

theorem FilterchainBuilder.ofConfig_mainFilter [TlsPlatform]
    (made : FilterchainBuilder.ofConfig newLimiter config secrets = .ok builder) :
    builder.mainFilter = .ofConfig newLimiter config.terminalFilter := by
  unfold FilterchainBuilder.ofConfig at made
  split at made
  · cases made
    rfl
  · split at made
    · cases made
    · cases made
      rfl

theorem ofConfig_handlers [TlsPlatform] {chains : List (FilterChainMatch × FilterChain)}
    (matched : List.Forall₂ (fun chain built =>
      (FilterchainBuilder.ofConfig newLimiter chain.2 secrets).map
        (fun builder => (chain.1, builder)) = .ok built) chains builders) :
    builders.map (fun chain => chain.2.mainFilter) =
      chains.map fun chain => .ofConfig newLimiter chain.2.terminalFilter := by
  induction matched with
  | nil => rfl
  | cons pair _ induction =>
    rcases map_eq_ok_iff.mp pair with ⟨builder, built, rfl⟩
    rw [map_cons, map_cons, induction, FilterchainBuilder.ofConfig_mainFilter built]

structure ListenerFactory.Made (newLimiter : Configuration.LocalRateLimit → Limiter)
    (factory : ListenerFactory Limiter) (config : ListenerConfig) : Prop where
  name : factory.name = config.name
  handlers : factory.filterChains.map (fun chain => chain.2.mainFilter) =
    config.filterChains.map fun chain => .ofConfig newLimiter chain.2.terminalFilter

theorem ListenerFactory.tryFrom_made [TlsPlatform] {factory : ListenerFactory Limiter}
    (made : tryFrom newLimiter config secrets = .ok factory) : factory.Made newLimiter config := by
  rcases bind_eq_ok_iff.mp made with ⟨filterChains, mapped, checked⟩
  split_ifs at checked
  cases checked
  exact ⟨rfl, ofConfig_handlers (mapM_eq_ok_iff.mp mapped)⟩

theorem Listener.handlers_of_made {factory : ListenerFactory Limiter}
    (made : factory.Made newLimiter config) {secrets : Receiver TlsContextChange}
    (started : factory.makeListener routes secrets = .ok listener) :
    listener.handlers =
      config.filterChains.map fun chain => .ofConfig newLimiter chain.2.terminalFilter := by
  rw [ListenerFactory.makeListener_eq] at started
  cases started
  rw [← made.handlers, handlers, List.map_map]
  rfl

end

/-! ## Routes on their way -/

/-- The routes of a manager that discovers them under a name, after a change. -/
def RouteConfigurationChange.apply (id : Text) (router : Option RouteConfiguration) :
    RouteConfigurationChange → Option RouteConfiguration
  | .added other route => if other = id then some route else router
  | .removed other => if other = id then none else router

def routeAfter (id : Text) (router : Option RouteConfiguration)
    (pending : List RouteConfigurationChange) : Option RouteConfiguration :=
  pending.foldl (fun router change => change.apply id router) router

theorem HttpConnectionManager.processRouteUpdate_router
    (newLimiter : Configuration.LocalRateLimit → Limiter)
    {manager : HttpConnectionManager Limiter} {id : Text}
    (discovers : manager.dynamicRouteName = some id) (change : RouteConfigurationChange) :
    (manager.processRouteUpdate newLimiter change).router = change.apply id manager.router := by
  cases change with
  | added other route =>
    by_cases same : id = other
    · simp [processRouteUpdate, apply, updateRoute, discovers, same]
    · simp [processRouteUpdate, apply, discovers, same, Ne.symm same]
  | removed other =>
    by_cases same : id = other
    · simp [processRouteUpdate, apply, removeRoute, discovers, same]
    · simp [processRouteUpdate, apply, discovers, same, Ne.symm same]

theorem HttpConnectionManager.processRouteUpdate_name
    (newLimiter : Configuration.LocalRateLimit → Limiter)
    (manager : HttpConnectionManager Limiter) (change : RouteConfigurationChange) :
    (manager.processRouteUpdate newLimiter change).dynamicRouteName = manager.dynamicRouteName := by
  cases change <;> simp only [processRouteUpdate] <;> split <;> rfl

namespace Listener

/-- How far a listener is: once it has received what is on its way, each of its connection
managers has the routes that came last since the listener was added. -/
structure Current (name : Text) (events : List (ListenersManager.Event Limiter))
    (config : ListenerConfig) (listener : Listener Limiter) : Prop where
  names : listener.managers.filterMap (·.dynamicRouteName) = config.rdsNames
  routesOnTime : listener.routeUpdatesReceiver.lagged = false
  secretsOnTime : listener.secretUpdatesReceiver.lagged = false
  routes : ∀ manager ∈ listener.managers, ∀ id, manager.dynamicRouteName = some id →
    routeAfter id manager.router listener.routeUpdatesReceiver.pending =
      currentRoute name id events

variable {newLimiter : Configuration.LocalRateLimit → Limiter} {name : Text}
  {config : ListenerConfig} {listener next : Listener Limiter}

theorem Current.of_same_routes (current : listener.Current name events config)
    (same : ∀ id, currentRoute name id later = currentRoute name id events) :
    listener.Current name later config := by
  refine ⟨current.names, current.routesOnTime, current.secretsOnTime, ?_⟩
  intro manager member id discovers
  rw [same, current.routes manager member id discovers]

theorem Current.sendRoute {id : Text} (current : listener.Current name events config)
    (room : listener.routeUpdatesReceiver.pending.length < updatesCapacity) :
    Current name (events ++ [.routeConfiguration (.added id route)]) config
      { listener with
        routeUpdatesReceiver := listener.routeUpdatesReceiver.send
          updatesCapacity (.added id route) } := by
  rw [Receiver.send_of_room room]
  refine ⟨current.names, current.routesOnTime, current.secretsOnTime, ?_⟩
  intro manager member other discovers
  rw [currentRoute_append, routeAfter, foldl_append,
    ← current.routes manager member other discovers]
  by_cases same : id = other <;>
    simp [ListenersManager.Event.added?, ListenersManager.Event.route?, apply, routeAfter, same]

theorem Current.sendSecret (current : listener.Current name events config)
    (room : listener.secretUpdatesReceiver.pending.length < updatesCapacity) :
    Current name events config
      { listener with
        secretUpdatesReceiver := listener.secretUpdatesReceiver.send updatesCapacity change } := by
  rw [Receiver.send_of_room room]
  exact ⟨current.names, current.routesOnTime, current.secretsOnTime, current.routes⟩

theorem managers_processRouteUpdate (listener : Listener Limiter)
    (update : RouteConfigurationChange) (receiver : Receiver RouteConfigurationChange) :
    Listener.managers { listener with
        filterChains := listener.filterChains.map fun chain =>
          (chain.1, chain.2.processRouteUpdate newLimiter update)
        routeUpdatesReceiver := receiver } =
      listener.managers.map fun manager => manager.processRouteUpdate newLimiter update := by
  have each : ∀ chain : FilterChainMatch × FilterchainType Limiter,
      (chain.2.processRouteUpdate newLimiter update).handler.manager? =
        (chain.2.handler.manager?).map fun manager =>
          manager.processRouteUpdate newLimiter update := by
    intro chain
    unfold FilterchainType.processRouteUpdate
    split <;> rename_i handler <;> rw [handler] <;> rfl
  simp only [managers, handlers, filterMap_map, map_filterMap]
  exact filterMap_congr fun chain _ => each chain

theorem Current.receiveRouteUpdate (current : listener.Current name events config)
    (received : listener.receiveRouteUpdate newLimiter = some result) :
    ∃ next, result = some next ∧ next.Current name events config := by
  unfold Listener.receiveRouteUpdate at received
  split at received
  · cases received
  · rename_i lagging
    simp [Receiver.recv, current.routesOnTime] at lagging
    split at lagging <;> cases lagging
  · rename_i update receiver message
    cases received
    rcases Receiver.recv_eq_message message with ⟨pending, onTime⟩
    refine ⟨_, rfl, ?_, onTime.trans current.routesOnTime, current.secretsOnTime, ?_⟩
    · rw [managers_processRouteUpdate, filterMap_map, ← current.names]
      exact filterMap_congr fun manager _ =>
        manager.processRouteUpdate_name newLimiter update
    · rw [managers_processRouteUpdate]
      intro changed member id discovers
      rcases mem_map.mp member with ⟨manager, known, rfl⟩
      rw [HttpConnectionManager.processRouteUpdate_name] at discovers
      rw [HttpConnectionManager.processRouteUpdate_router newLimiter discovers,
        ← current.routes manager known id discovers, pending]
      rfl

theorem managers_processSecretUpdate [TlsPlatform] (listener : Listener Limiter)
    (update : TlsContextChange) : (listener.filterChains.map fun chain =>
        (chain.2.processSecretUpdate update).handler).filterMap ConnectionHandler.manager? =
      listener.managers := by
  congr 1
  refine map_congr_left fun chain _ => ?_
  simp only [FilterchainType.processSecretUpdate]
  split
  · rfl
  · split <;> rfl

theorem Current.receiveSecretUpdate [TlsPlatform] (current : listener.Current name events config)
    (received : listener.receiveSecretUpdate = some result) :
    ∃ next, result = some next ∧ next.Current name events config := by
  unfold Listener.receiveSecretUpdate at received
  split at received
  · cases received
  · rename_i lagging
    simp [Receiver.recv, current.secretsOnTime] at lagging
    split at lagging <;> cases lagging
  · rename_i update receiver message
    cases received
    rcases Receiver.recv_eq_message message with ⟨_, onTime⟩
    cases address : listener.address with
    | internal =>
      exact ⟨_, rfl, current.names, current.routesOnTime,
        onTime.trans current.secretsOnTime, current.routes⟩
    | socket _ =>
      have same := managers_processSecretUpdate listener update
      refine ⟨_, rfl, ?_, current.routesOnTime, onTime.trans current.secretsOnTime, ?_⟩
      · simp only [managers, handlers, List.map_map]
        exact (congrArg _ same).trans current.names
      · simp only [managers, handlers, List.map_map]
        intro manager member
        exact current.routes manager (same ▸ member)

end Listener

/-! ## The manager and its listeners -/

namespace ListenersManager

variable {newLimiter : Configuration.LocalRateLimit → Limiter} {name : Text}

/-- Nothing is removed, every listener is made from its configuration, and no listener
is too slow for what is sent to it. -/
def Unhindered [TlsPlatform] (newLimiter : Configuration.LocalRateLimit → Limiter)
    (self : ListenersManager Limiter) : Event Limiter → Prop
  | .listenerConfiguration (.added factory config) _ =>
    ∃ secrets, ListenerFactory.tryFrom newLimiter config secrets = .ok factory
  | .listenerConfiguration (.removed _) _ => False
  | .listenerConfiguration (.tlsContextChanged _ _) _ =>
    ∀ name listener, self.running? name = some listener →
      listener.secretUpdatesReceiver.pending.length < updatesCapacity
  | .listenerConfiguration (.getConfiguration awaited) _ => awaited = true
  | .routeConfiguration (.added _ _) =>
    ∀ name listener, self.running? name = some listener →
      listener.routeUpdatesReceiver.pending.length < updatesCapacity
  | .routeConfiguration (.removed _) => False
  | .cancelled => False
  | .receiveRouteUpdate _ | .receiveSecretUpdate _ => True

inductive Placed (name : Text) (events : List (Event Limiter)) :
    Option (ListenerConfig × Bool) → Option (ListenerInfo Limiter) → Prop
  | absent : Placed name events none none
  | failed {config info} (exited : info.listener = none) :
      Placed name events (some (config, false)) (some info)
  | running {config info listener} (runs : info.listener = some listener)
      (current : listener.Current name events config) :
      Placed name events (some (config, true)) (some info)

def AllPlaced (events : List (Event Limiter)) (self : ListenersManager Limiter) : Prop :=
  ∀ name, Placed name events (lastAdded name events) (self.listenerHandles.get? name)

variable {event : Event Limiter}

/-- An event that neither adds the listener nor brings routes changes nothing. -/
theorem Placed.later (placed : Placed name events (lastAdded name events) info)
    (adds : event.added? name = none) (brings : ∀ id, event.route? id = none) :
    Placed name (events ++ [event]) (lastAdded name (events ++ [event])) info := by
  have same : ∀ id, currentRoute name id (events ++ [event]) = currentRoute name id events := by
    intro id
    rw [currentRoute_append, adds, brings]
    rfl
  rw [lastAdded_append, adds, none_or]
  generalize lastAdded name events = added at placed ⊢
  cases placed with
  | absent => exact .absent
  | failed exited => exact .failed exited
  | running runs current => exact .running runs (current.of_same_routes same)

variable {self : ListenersManager Limiter}

theorem AllPlaced.sendAll (placed : AllPlaced events self)
    (send : Listener Limiter → Listener Limiter) (adds : ∀ name, event.added? name = none)
    (sent : ∀ name config listener, self.running? name = some listener →
      listener.Current name events config →
        (send listener).Current name (events ++ [event]) config) :
    AllPlaced (events ++ [event]) (self.sendAll send) := by
  intro name
  have stands := placed name
  have receives := sent name
  rw [lastAdded_append, adds, none_or, ListenersManager.sendAll, OrderedMap.get?_mapValues]
  rw [running?] at receives
  generalize lastAdded name events = added at stands ⊢
  generalize self.listenerHandles.get? name = info at stands receives ⊢
  cases stands with
  | absent => exact .absent
  | failed exited => exact .failed (by simp [exited])
  | @running config info listener runs current =>
    exact .running (by simp [runs]) (receives config listener runs current)

theorem AllPlaced.runListener {next : ListenersManager Limiter}
    {take : Listener Limiter → Option (Option (Listener Limiter))} (placed : AllPlaced events self)
    (adds : ∀ name, event.added? name = none) (brings : ∀ id, event.route? id = none)
    (takes : ∀ {config listener result}, listener.Current receiver events config →
      take listener = some result →
        ∃ next, result = some next ∧ next.Current receiver events config)
    (taken : self.runListener receiver take = some next) : AllPlaced (events ++ [event]) next := by
  intro name
  refine Placed.later ?_ (adds name) brings
  have stands := placed name
  rcases bind_eq_some_iff.mp taken with ⟨info, found, taken⟩
  rcases bind_eq_some_iff.mp taken with ⟨listener, runs, taken⟩
  rcases bind_eq_some_iff.mp taken with ⟨result, stepped, ⟨⟩⟩
  by_cases same : receiver = name
  · subst same
    rw [OrderedMap.get?_insert_self]
    rw [found] at stands
    generalize lastAdded receiver events = added at stands ⊢
    cases stands with
    | failed exited =>
      rw [exited] at runs
      cases runs
    | running runs' current =>
      cases runs.symm.trans runs'
      rcases takes current stepped with ⟨next, rfl, current⟩
      exact .running rfl current
  · rw [OrderedMap.get?_insert_of_ne _ _ same]
    exact stands

variable {config : ListenerConfig} {listener : Listener Limiter}

theorem current_of_made {factory : ListenerFactory Limiter} (made : factory.Made newLimiter config)
    (started : factory.makeListener .subscribe .subscribe = .ok listener)
    (fresh : ∀ id, currentRoute name id events = none) : listener.Current name events config := by
  have handlers := Listener.handlers_of_made made started
  rw [ListenerFactory.makeListener_eq] at started
  cases started
  refine ⟨?_, rfl, rfl, ?_⟩
  · rw [Listener.managers, handlers]
    exact ListenerConfig.rdsNames_eq newLimiter config
  · rw [Listener.managers, handlers]
    intro manager member id discovers
    rcases mem_filterMap.mp member with ⟨handler, member, isManager⟩
    rcases mem_map.mp member with ⟨chain, _, rfl⟩
    rw [fresh]
    rcases filter : chain.2.terminalFilter with ⟨⟨_ | _, _⟩⟩ | _
    · rw [filter] at isManager
      cases isManager
      rfl
    · rw [filter] at isManager
      cases isManager
      cases discovers
    · rw [filter] at isManager
      cases isManager

theorem AllPlaced.startListener {factory : ListenerFactory Limiter}
    (placed : AllPlaced events self) (made : factory.Made newLimiter config)
    (started : factory.makeListener .subscribe .subscribe = .ok listener) :
    AllPlaced (events ++ [.listenerConfiguration (.added factory config) binds])
      (self.startListener listener config binds) := by
  intro name
  have same := ListenerFactory.makeListener_same started
  rw [ListenersManager.startListener, OrderedMap.get?_insert, same.1]
  by_cases added : factory.name = name
  · have adds : Event.added? name (.listenerConfiguration (.added factory config) binds) =
        some (config, binds || factory.address = .internal) := if_pos added
    have current : listener.Current name
        (events ++ [.listenerConfiguration (.added factory config) binds]) config := by
      refine current_of_made made started fun id => ?_
      rw [currentRoute_append, adds]
      rfl
    rw [if_pos added, lastAdded_append, adds, some_or, ← same.2]
    cases address : listener.address with
    | internal =>
      rw [decide_eq_true rfl, Bool.or_true]
      exact .running (by simp [Listener.start, address]) current
    | socket socket =>
      cases binds with
      | true => exact .running (by simp [Listener.start, address]) current
      | false => exact .failed (by simp [Listener.start, address])
  · rw [if_neg added]
    exact (placed name).later (if_neg added) fun _ => rfl

theorem AllPlaced.step [TlsPlatform] {next : ListenersManager Limiter}
    {dumps : List (List ListenerConfig)} (placed : AllPlaced events self)
    (unhindered : self.Unhindered newLimiter event)
    (taken : self.step newLimiter event = some (next, dumps)) :
    AllPlaced (events ++ [event]) next := by
  unfold ListenersManager.step at taken
  split_ifs at taken
  cases event with
  | listenerConfiguration change binds =>
    cases change with
    | added factory config =>
      rcases unhindered with ⟨secrets, accepted⟩
      have started := factory.makeListener_eq .subscribe .subscribe
      simp only [changeListener, started] at taken
      cases taken
      exact placed.startListener (ListenerFactory.tryFrom_made accepted) started
    | removed name => cases unhindered
    | tlsContextChanged secretId secret =>
      cases taken
      refine placed.sendAll _ (fun _ => rfl) fun name config listener runs current => ?_
      refine (current.sendSecret (unhindered name listener runs)).of_same_routes ?_
      intro id
      rw [currentRoute_append]
      rfl
    | getConfiguration awaited =>
      cases unhindered
      cases taken
      exact fun name => (placed name).later rfl fun _ => rfl
  | routeConfiguration change =>
    cases change with
    | removed id => cases unhindered
    | added id route =>
      cases taken
      exact placed.sendAll _ (fun _ => rfl) fun name config listener runs current =>
        current.sendRoute (unhindered name listener runs)
  | cancelled => cases unhindered
  | receiveRouteUpdate receiver =>
    rcases map_eq_some_iff.mp taken with ⟨_, received, ⟨⟩⟩
    exact placed.runListener (fun _ => rfl) (fun _ => rfl)
      Listener.Current.receiveRouteUpdate received
  | receiveSecretUpdate receiver =>
    rcases map_eq_some_iff.mp taken with ⟨_, received, same⟩
    cases same
    exact placed.runListener (fun _ => rfl) (fun _ => rfl)
      Listener.Current.receiveSecretUpdate received

theorem AllPlaced.added_of_running (placed : AllPlaced events self)
    (runs : self.running? name = some listener) :
    ∃ config, lastAdded name events = some (config, true) ∧
      listener.Current name events config := by
  have stands := placed name
  rcases bind_eq_some_iff.mp runs with ⟨info, found, runs⟩
  rw [found] at stands
  generalize lastAdded name events = added at stands ⊢
  cases stands with
  | failed exited =>
    rw [exited] at runs
    cases runs
  | running runs' current =>
    cases runs.symm.trans runs'
    exact ⟨_, rfl, current⟩

theorem AllPlaced.running_of_added (placed : AllPlaced events self)
    (added : lastAdded name events = some (config, true)) :
    ∃ listener, self.running? name = some listener ∧ listener.Current name events config := by
  have stands := placed name
  rw [running?]
  rw [added] at stands
  generalize self.listenerHandles.get? name = info at stands ⊢
  cases stands with
  | running runs current => exact ⟨_, runs, current⟩

def Settled (self : ListenersManager Limiter) : Prop :=
  ∀ name listener, self.running? name = some listener →
    listener.routeUpdatesReceiver.pending = []

end ListenersManager

/-! ## Connections

A connection has a task of its own, with the connection managers of the listener that
accepted it. It keeps them when the listener ends, but they get no route updates then.
-/

inductive Connection (Limiter : Type) where
  | attached (listener : Text)
  /-- The listener has ended, without receiving the route updates `missed`. -/
  | detached (managers : List (HttpConnectionManager Limiter))
      (missed : List RouteConfigurationChange)

namespace Connection

/-- A connection after an event of the listeners manager. -/
def follow (before after : ListenersManager Limiter) (event : ListenersManager.Event Limiter) :
    Connection Limiter → Connection Limiter
  | .attached name =>
    match before.running? name with
    | none => .attached name
    | some listener =>
      -- The listener is replaced by one of the same name, or it exits or is stopped.
      if (event.added? name).isSome || (after.running? name).isNone then
        .detached listener.managers listener.routeUpdatesReceiver.pending
      else
        .attached name
  | .detached managers missed => .detached managers (missed ++ event.sentRoute?.toList)

/-- The listener of a connection runs, or the connection managers have the routes that were
received last since the listener was added, but for those that were missed. -/
def Follows (self : ListenersManager Limiter) (events : List (ListenersManager.Event Limiter)) :
    Connection Limiter → Prop
  | .attached name => ∃ listener, self.running? name = some listener
  | .detached managers missed => ∀ manager ∈ managers, ∀ id,
      manager.dynamicRouteName = some id → ∃ since, since.IsSuffix events ∧
        routeAfter id manager.router missed = (routesReceived id since).getLast?

variable [TlsPlatform] {newLimiter : Configuration.LocalRateLimit → Limiter}
  {self next : ListenersManager Limiter} {event : ListenersManager.Event Limiter}

theorem routeAfter_sent {id : Text} (unhindered : self.Unhindered newLimiter event)
    (router : Option RouteConfiguration) :
    routeAfter id router event.sentRoute?.toList = (event.route? id).or router := by
  cases event with
  | routeConfiguration change =>
    cases change with
    | removed => cases unhindered
    | added other route =>
      by_cases same : other = id <;>
        simp [ListenersManager.Event.sentRoute?, ListenersManager.Event.route?, routeAfter,
          apply, same]
  | listenerConfiguration | cancelled | receiveRouteUpdate | receiveSecretUpdate => rfl

theorem Follows.step {dumps : List (List ListenerConfig)} {connection : Connection Limiter}
    (follows : connection.Follows self events) (placed : AllPlaced events self)
    (unhindered : self.Unhindered newLimiter event)
    (taken : self.step newLimiter event = some (next, dumps)) :
    (connection.follow self next event).Follows next (events ++ [event]) := by
  have suffixes : ∀ {since}, since.IsSuffix events →
      (since ++ [event]).IsSuffix (events ++ [event]) := by
    rintro since ⟨before, rfl⟩
    exact ⟨before, (append_assoc _ _ _).symm⟩
  cases connection with
  | attached name =>
    rcases follows with ⟨listener, runs⟩
    rcases placed.added_of_running runs with ⟨config, added, current⟩
    simp only [follow, runs]
    cases adds : event.added? name with
    | some fresh =>
      have brings : ∀ id, event.route? id = none := by
        intro id
        cases event with
        | routeConfiguration => cases adds
        | listenerConfiguration | cancelled | receiveRouteUpdate | receiveSecretUpdate => rfl
      intro manager member id discovers
      refine ⟨_, suffixes (sinceAdded_suffix name events), ?_⟩
      rw [lastRoute_append, brings, current.routes manager member id discovers]
      rfl
    | none =>
      have still : lastAdded name (events ++ [event]) = some (config, true) := by
        rw [lastAdded_append, adds, none_or, added]
      rcases (placed.step unhindered taken).running_of_added still with ⟨listener, running, _⟩
      simp only [running]
      exact ⟨listener, running⟩
  | detached managers missed =>
    intro manager member id discovers
    rcases follows manager member id discovers with ⟨since, suffix, routes⟩
    refine ⟨_, suffixes suffix, ?_⟩
    rw [lastRoute_append, ← routes, ← routeAfter_sent unhindered, routeAfter, foldl_append]
    rfl

end Connection

/-- The listeners manager and the connections that the listeners have accepted. -/
structure Serving (Limiter : Type) where
  manager : ListenersManager Limiter
  connections : List (Connection Limiter)

namespace Serving

inductive Event (Limiter : Type) where
  | manager (event : ListenersManager.Event Limiter)
  | accept (listener : Text)
  | close (connection : Nat)

def received (events : List (Event Limiter)) : List (ListenersManager.Event Limiter) :=
  events.filterMap fun
    | .manager event => some event
    | .accept _ | .close _ => none

def step [TlsPlatform] (newLimiter : Configuration.LocalRateLimit → Limiter)
    (self : Serving Limiter) : Event Limiter → Option (Serving Limiter × List (List ListenerConfig))
  | .manager event =>
    (self.manager.step newLimiter event).map fun (next, dumps) =>
      (⟨next, self.connections.map (Connection.follow self.manager next event)⟩, dumps)
  | .accept name =>
    match (self.manager.running? name).map Listener.address with
    | some (.socket _) =>
      some ({ self with connections := self.connections ++ [.attached name] }, [])
    -- Internal listeners do not accept connections.
    | some .internal | none => none
  | .close index => some ({ self with connections := self.connections.eraseIdx index }, [])

def machine [TlsPlatform] (newLimiter : Configuration.LocalRateLimit → Limiter) :
    Machine (Serving Limiter) (Event Limiter) (List ListenerConfig) where
  step := step newLimiter

def Unhindered [TlsPlatform] (newLimiter : Configuration.LocalRateLimit → Limiter)
    (self : Serving Limiter) : Event Limiter → Prop
  | .manager event => self.manager.Unhindered newLimiter event
  | .accept _ | .close _ => True

/-- Every listener and every connection is as far as it can be. -/
structure Placed (events : List (ListenersManager.Event Limiter)) (serving : Serving Limiter) :
    Prop where
  listeners : AllPlaced events serving.manager
  connections : ∀ connection ∈ serving.connections, connection.Follows serving.manager events

variable {newLimiter : Configuration.LocalRateLimit → Limiter} {self : Serving Limiter}

theorem Placed.step [TlsPlatform] {event : Event Limiter} {next : Serving Limiter}
    {dumps : List (List ListenerConfig)} (placed : self.Placed (received events))
    (unhindered : self.Unhindered newLimiter event)
    (taken : self.step newLimiter event = some (next, dumps)) :
    next.Placed (received (events ++ [event])) := by
  rw [received, filterMap_append]
  cases event with
  | manager event =>
    rcases map_eq_some_iff.mp taken with ⟨⟨manager, _⟩, stepped, ⟨⟩⟩
    refine ⟨placed.listeners.step unhindered stepped, fun connection member => ?_⟩
    rcases mem_map.mp member with ⟨before, known, rfl⟩
    exact (placed.connections before known).step placed.listeners unhindered stepped
  | accept name =>
    rw [filterMap_cons_none rfl, filterMap_nil, append_nil]
    simp only [Serving.step] at taken
    split at taken
    · rename_i address accepts
      cases taken
      rcases map_eq_some_iff.mp accepts with ⟨listener, runs, _⟩
      refine ⟨placed.listeners, fun connection member => ?_⟩
      rcases mem_append.mp member with before | now
      · exact placed.connections connection before
      · rw [mem_singleton.mp now]
        exact ⟨listener, runs⟩
    · cases taken
    · cases taken
  | close index =>
    rw [filterMap_cons_none rfl, filterMap_nil, append_nil]
    cases taken
    exact ⟨placed.listeners, fun connection member =>
      placed.connections connection (mem_of_mem_eraseIdx member)⟩

/-- The connection managers of the listeners that run, and of the connections that are left
of other listeners. -/
def Uses (self : Serving Limiter) (manager : HttpConnectionManager Limiter) : Prop :=
  (∃ name listener, self.manager.running? name = some listener ∧ manager ∈ listener.managers) ∨
    ∃ managers missed, .detached managers missed ∈ self.connections ∧ manager ∈ managers

end Serving

/-! ## A listener that is replaced -/

namespace Serving

attribute [local instance] TlsPlatform.withoutFiles

end Serving

end Orion.Listeners
