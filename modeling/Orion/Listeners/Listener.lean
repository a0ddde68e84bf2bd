import Orion.Foundation.BoundedChannel
import Orion.Foundation.Fallible
import Orion.Foundation.IpAddress
import Orion.Foundation.OrderedMap
import Orion.Listeners.PerRouteFilters
import Orion.Tls.Configurator

/-! # Listeners

A listener is made from its configuration and the secrets known then. While it runs,
it receives the updates of routes and secrets that are sent to all listeners.
-/

namespace Orion.Listeners

open Foundation Orion.Configuration Tls

/-! ## Configuration -/

inductive RouteSpecifier where
  | rds (routeConfigName : Text)
  | routeConfig (config : RouteConfiguration)
  deriving DecidableEq

structure HttpConnectionManagerConfig where
  routeSpecifier : RouteSpecifier
  httpFilters : List Configuration.HttpFilter
  deriving DecidableEq

inductive MainFilter where
  | http (config : HttpConnectionManagerConfig)
  | tcp
  deriving DecidableEq

structure FilterChain where
  name : Text
  tlsConfig : Option TlsServerConfig
  terminalFilter : MainFilter
  deriving DecidableEq

structure ServerNameMatch where
  name : Text
  matchSubdomains : Bool
  deriving DecidableEq

/-- What connections a filter chain is for. Whatever is empty makes no difference. -/
structure FilterChainMatch where
  destinationPort : Option (Fin 65536) := none
  destinationPrefixRanges : List IpNet := []
  serverNames : List ServerNameMatch := []
  sourcePrefixRanges : List IpNet := []
  sourcePorts : List (Fin 65536) := []
  transportProtocol : Text := []
  applicationProtocols : List Text := []
  deriving DecidableEq

inductive ListenerAddress where
  | socket (address : Text)
  | internal
  deriving DecidableEq

structure ListenerConfig where
  name : Text
  address : ListenerAddress
  filterChains : List (FilterChainMatch × FilterChain)
  withTlsInspector : Bool
  deriving DecidableEq

def ListenerConfig.rdsNames (config : ListenerConfig) : List Text :=
  config.filterChains.filterMap fun chain =>
    match chain.2.terminalFilter with
    | .http ⟨.rds routeConfigName, _⟩ => some routeConfigName
    | .http ⟨.routeConfig _, _⟩ | .tcp => none

/-! ## Updates -/

inductive RouteConfigurationChange where
  | added (id : Text) (route : RouteConfiguration)
  | removed (id : Text)
  deriving DecidableEq

inductive TlsContextChange where
  | updated (secretId : Text) (secret : TransportSecret)
  deriving DecidableEq

/-! ## Connection managers -/

structure HttpConnectionManager (Limiter : Type) where
  router : Option RouteConfiguration
  dynamicRouteName : Option Text
  httpFiltersHcm : List (HttpFilter Limiter)
  httpFiltersPerRoute : FilterTable Limiter

namespace HttpConnectionManager

variable {Limiter : Type} (newLimiter : Configuration.LocalRateLimit → Limiter)

/-- Routes that are discovered are not known at first. -/
def ofConfig (config : HttpConnectionManagerConfig) : HttpConnectionManager Limiter :=
  let httpFiltersHcm := config.httpFilters.map (HttpFilter.ofConfig newLimiter)
  match config.routeSpecifier with
  | .rds routeConfigName => ⟨none, some routeConfigName, httpFiltersHcm, Table.empty⟩
  | .routeConfig routes =>
    ⟨some routes, none, httpFiltersHcm,
      perRouteHttpFilters newLimiter routes httpFiltersHcm⟩

def updateRoute (self : HttpConnectionManager Limiter) (route : RouteConfiguration) :
    HttpConnectionManager Limiter :=
  { self with
    router := some route
    httpFiltersPerRoute := perRouteHttpFilters newLimiter route self.httpFiltersHcm }

/-- The filters of the routes stay. -/
def removeRoute (self : HttpConnectionManager Limiter) : HttpConnectionManager Limiter :=
  { self with router := none }

def processRouteUpdate (self : HttpConnectionManager Limiter) :
    RouteConfigurationChange → HttpConnectionManager Limiter
  | .added id route =>
    if self.dynamicRouteName = some id then self.updateRoute newLimiter route else self
  | .removed id => if self.dynamicRouteName = some id then self.removeRoute else self

end HttpConnectionManager

/-! ## Filter chains -/

inductive ConnectionHandler (Limiter : Type) where
  | http (manager : HttpConnectionManager Limiter)
  | tcp

def ConnectionHandler.ofConfig {Limiter : Type}
    (newLimiter : Configuration.LocalRateLimit → Limiter) : MainFilter → ConnectionHandler Limiter
  | .http config => .http (.ofConfig newLimiter config)
  | .tcp => .tcp

inductive ListenerError where
  | invalidTls
  | message (text : Text)
  deriving DecidableEq

structure FilterchainType (Limiter : Type) where
  name : Text
  tlsConfigurator : Option ServerConfigurator
  handler : ConnectionHandler Limiter

structure FilterchainBuilder (Limiter : Type) where
  name : Text
  listenerName : Option Text
  mainFilter : ConnectionHandler Limiter
  tlsConfigurator : Option ServerConfigurator

section

variable {Limiter : Type}

def FilterchainBuilder.withListenerName (self : FilterchainBuilder Limiter) (name : Text) :
    FilterchainBuilder Limiter :=
  { self with listenerName := some name }

def FilterchainBuilder.build (self : FilterchainBuilder Limiter) :
    Except Text (FilterchainType Limiter) :=
  match self.listenerName with
  | none => .error "listener name is not set".toList
  | some _ => .ok ⟨self.name, self.tlsConfigurator, self.mainFilter⟩

variable (newLimiter : Configuration.LocalRateLimit → Limiter)

def FilterchainType.processRouteUpdate (self : FilterchainType Limiter)
    (update : RouteConfigurationChange) : FilterchainType Limiter :=
  match self.handler with
  | .http manager =>
    { self with handler := .http (manager.processRouteUpdate newLimiter update) }
  | .tcp => self

variable [TlsPlatform]

/-- A filter chain that does not use the secret stays as it is. -/
def FilterchainType.processSecretUpdate (self : FilterchainType Limiter) :
    TlsContextChange → FilterchainType Limiter
  | .updated secretId secret =>
    match self.tlsConfigurator with
    | none => self
    | some configurator =>
      match configurator.update secretId secret with
      | some configurator => { self with tlsConfigurator := some configurator }
      | none => self

def FilterchainBuilder.ofConfig (config : FilterChain) (secrets : SecretManager) :
    Except ListenerError (FilterchainBuilder Limiter) :=
  let mainFilter := ConnectionHandler.ofConfig newLimiter config.terminalFilter
  match config.tlsConfig with
  | none => .ok ⟨config.name, none, mainFilter, none⟩
  | some tlsConfig =>
    match ServerConfigurator.ofConfig tlsConfig secrets with
    | none => .error .invalidTls
    | some configurator => .ok ⟨config.name, none, mainFilter, some configurator⟩

end

/-! ## Listeners -/

structure ListenerFactory (Limiter : Type) where
  name : Text
  address : ListenerAddress
  filterChains : List (FilterChainMatch × FilterchainBuilder Limiter)

structure Listener (Limiter : Type) where
  name : Text
  address : ListenerAddress
  filterChains : List (FilterChainMatch × FilterchainType Limiter)
  routeUpdatesReceiver : Receiver RouteConfigurationChange
  secretUpdatesReceiver : Receiver TlsContextChange

section

variable {Limiter : Type}

def serverNamesUnmatched (name : Text) : Text :=
  "Listener '".toList ++ name ++ ("' has server_names in filter_chain_match, " ++
    "but no TLS inspector so matches would always fail").toList

def ListenerFactory.tryFrom [TlsPlatform] (newLimiter : Configuration.LocalRateLimit → Limiter)
    (config : ListenerConfig) (secrets : SecretManager) :
    Except ListenerError (ListenerFactory Limiter) := do
  let filterChains ← config.filterChains.mapM fun chain =>
    (FilterchainBuilder.ofConfig newLimiter chain.2 secrets).map fun builder => (chain.1, builder)
  if config.withTlsInspector = false ∧
      filterChains.any fun chain => chain.1.serverNames ≠ [] then
    .error (.message (serverNamesUnmatched config.name))
  else
    return ⟨config.name, config.address, filterChains⟩

def ListenerFactory.makeListener (self : ListenerFactory Limiter)
    (routeUpdatesReceiver : Receiver RouteConfigurationChange)
    (secretUpdatesReceiver : Receiver TlsContextChange) : Except Text (Listener Limiter) := do
  let filterChains ← self.filterChains.mapM fun chain =>
    (chain.2.withListenerName self.name).build.map fun built => (chain.1, built)
  return ⟨self.name, self.address, filterChains, routeUpdatesReceiver,
    secretUpdatesReceiver⟩

theorem ListenerFactory.makeListener_eq (factory : ListenerFactory Limiter)
    (routes : Receiver RouteConfigurationChange) (secrets : Receiver TlsContextChange) :
    factory.makeListener routes secrets = .ok ⟨factory.name, factory.address,
      factory.filterChains.map fun chain =>
        (chain.1, ⟨chain.2.name, chain.2.tlsConfigurator, chain.2.mainFilter⟩),
      routes, secrets⟩ := by
  refine bind_eq_ok_iff.mpr ⟨_, mapM_eq_ok_iff.mpr ?_, rfl⟩
  rw [List.forall₂_map_right_iff, List.forall₂_same]
  exact fun chain _ => rfl

theorem ListenerFactory.makeListener_same {factory : ListenerFactory Limiter}
    (made : factory.makeListener routes secrets = .ok listener) :
    listener.name = factory.name ∧ listener.address = factory.address := by
  rw [makeListener_eq] at made
  cases made
  exact ⟨rfl, rfl⟩

namespace Listener

/-- A listener whose socket cannot be opened exits at once. -/
def start (binds : Bool) (self : Listener Limiter) : Option (Listener Limiter) :=
  match self.address with
  | .socket _ => if binds then some self else none
  | .internal => some self

/-- The listener receives a route update; it exits if it lost some. `none` while there is
nothing to receive. -/
def receiveRouteUpdate (newLimiter : Configuration.LocalRateLimit → Limiter)
    (self : Listener Limiter) : Option (Option (Listener Limiter)) :=
  match self.routeUpdatesReceiver.recv with
  | none => none
  | some (.lagged, _) => some none
  | some (.message update, receiver) =>
    some (some { self with
      filterChains := self.filterChains.map fun chain =>
        (chain.1, chain.2.processRouteUpdate newLimiter update)
      routeUpdatesReceiver := receiver })

/-- An internal listener updates a copy of its filter chains. -/
def receiveSecretUpdate [TlsPlatform] (self : Listener Limiter) :
    Option (Option (Listener Limiter)) :=
  match self.secretUpdatesReceiver.recv with
  | none => none
  | some (.lagged, _) => some none
  | some (.message update, receiver) =>
    some (some { self with
      filterChains := match self.address with
        | .socket _ => self.filterChains.map fun chain =>
          (chain.1, chain.2.processSecretUpdate update)
        | .internal => self.filterChains
      secretUpdatesReceiver := receiver })

end Listener

end

/-! ## The listeners manager

The manager of a runtime takes changes from two channels, in whatever order they become
ready. It starts and stops listeners, and sends the changes of routes and secrets to
those that run. Each listener receives them in its own time.
-/

/-- A request for the configuration has somebody waiting for it, or not any more. -/
inductive ListenerConfigurationChange (Limiter : Type) where
  | added (factory : ListenerFactory Limiter) (config : ListenerConfig)
  | removed (name : Text)
  | tlsContextChanged (secretId : Text) (secret : TransportSecret)
  | getConfiguration (awaited : Bool)

/-- A listener that was started; `listener` is missing once it has exited. -/
structure ListenerInfo (Limiter : Type) where
  listener : Option (Listener Limiter)
  listenerConf : ListenerConfig
  version : Nat

structure ListenersManager (Limiter : Type) where
  listenerHandles : OrderedMap Text (ListenerInfo Limiter)
  /-- The loop of the manager has returned, and its listeners were stopped. -/
  ended : Bool

namespace ListenersManager

variable {Limiter : Type}

def new : ListenersManager Limiter := ⟨.empty, false⟩

def updatesCapacity : Nat := 16

def running? (self : ListenersManager Limiter) (name : Text) : Option (Listener Limiter) :=
  (self.listenerHandles.get? name).bind (·.listener)

def finish (self : ListenersManager Limiter) : ListenersManager Limiter :=
  { self with listenerHandles := .empty, ended := true }

/-- A listener of the same name is stopped. -/
def startListener (self : ListenersManager Limiter) (listener : Listener Limiter)
    (config : ListenerConfig) (binds : Bool) : ListenersManager Limiter :=
  let version := match self.listenerHandles.get? listener.name with
    | some old => old.version + 1
    | none => 1
  { self with listenerHandles :=
      self.listenerHandles.insert listener.name ⟨listener.start binds, config, version⟩ }

def stopListener (self : ListenersManager Limiter) (name : Text) : ListenersManager Limiter :=
  { self with listenerHandles := self.listenerHandles.erase name }

def sendAll (self : ListenersManager Limiter) (send : Listener Limiter → Listener Limiter) :
    ListenersManager Limiter :=
  { self with listenerHandles := self.listenerHandles.mapValues fun info =>
      { info with listener := info.listener.map send } }

def sendRouteUpdate (self : ListenersManager Limiter) (change : RouteConfigurationChange) :
    ListenersManager Limiter :=
  self.sendAll fun listener =>
    { listener with routeUpdatesReceiver :=
        listener.routeUpdatesReceiver.send updatesCapacity change }

def sendSecretUpdate (self : ListenersManager Limiter) (change : TlsContextChange) :
    ListenersManager Limiter :=
  self.sendAll fun listener =>
    { listener with secretUpdatesReceiver :=
        listener.secretUpdatesReceiver.send updatesCapacity change }

/-- One round of the loop of the manager for a listener change; `binds` is whether the
socket of a listener can be opened. -/
def changeListener (self : ListenersManager Limiter) (binds : Bool) :
    ListenerConfigurationChange Limiter →
      ListenersManager Limiter × List (List ListenerConfig)
  | .added factory config =>
    match factory.makeListener .subscribe .subscribe with
    | .error _ => (self.finish, [])
    | .ok listener => (self.startListener listener config binds, [])
  | .removed name => (self.stopListener name, [])
  | .tlsContextChanged secretId secret =>
    (self.sendSecretUpdate (.updated secretId secret), [])
  | .getConfiguration true =>
    (self, [self.listenerHandles.entries.map fun entry => entry.2.listenerConf])
  | .getConfiguration false => (self.finish, [])

def runListener (self : ListenersManager Limiter) (name : Text)
    (step : Listener Limiter → Option (Option (Listener Limiter))) :
    Option (ListenersManager Limiter) := do
  let info ← self.listenerHandles.get? name
  let listener ← info.listener
  let next ← step listener
  return { self with
    listenerHandles := self.listenerHandles.insert name { info with listener := next } }

inductive Event (Limiter : Type) where
  | listenerConfiguration (change : ListenerConfigurationChange Limiter) (binds : Bool)
  | routeConfiguration (change : RouteConfigurationChange)
  | cancelled
  | receiveRouteUpdate (name : Text)
  | receiveSecretUpdate (name : Text)

def step [TlsPlatform] (newLimiter : Configuration.LocalRateLimit → Limiter)
    (self : ListenersManager Limiter) (event : Event Limiter) :
    Option (ListenersManager Limiter × List (List ListenerConfig)) :=
  if self.ended then
    none
  else
    match event with
    | .listenerConfiguration change binds => some (self.changeListener binds change)
    | .routeConfiguration change => some (self.sendRouteUpdate change, [])
    | .cancelled => some (self.finish, [])
    | .receiveRouteUpdate name =>
      (self.runListener name (Listener.receiveRouteUpdate newLimiter)).map (·, [])
    | .receiveSecretUpdate name =>
      (self.runListener name Listener.receiveSecretUpdate).map (·, [])

def machine [TlsPlatform] (newLimiter : Configuration.LocalRateLimit → Limiter) :
    Machine (ListenersManager Limiter) (Event Limiter) (List ListenerConfig) where
  step := step newLimiter

theorem goesOn_of_step [TlsPlatform] {self : ListenersManager Limiter}
    (taken : self.step newLimiter event = some result) : self.ended = false := by
  unfold step at taken
  split_ifs at taken with ended
  exact Bool.eq_false_iff.mpr ended

end ListenersManager

end Orion.Listeners
