import Orion.Foundation.Execution
import Orion.Listeners.PerRouteFilters
import Orion.Listeners.Upgrades

/-! # Requests during route updates

A connection manager keeps its route configuration and the filters made from it
in two cells. An update writes one after the other, and a request reads them at
different times. The steps of one request are interleaved here with those of
any number of updates, until it is handed to the action of its route.
-/

namespace Orion.Listeners

open Foundation Http Orion.Configuration Option

section

variable [HttpCrate] [RegexEngine]

/-- The decision of an access control filter; `none` when a matcher panics. -/
def applyAuthorizationRules (rbac : HttpRbac) (request : Request Body) :
    Option FilterDecision := do
  let (permitted, _) ← rbac.isPermitted request
  if permitted then
    return .continue
  else
    return .directResponse ((SyntheticHttpResponse.forbidden
      "RBAC: access denied".toList).intoResponse request.version)

/-- Run a filter on a request. What a limiter or a processor decides, and how a
processor changes the request, is up to `answer`. -/
def HttpFilterValue.applyRequest (value : HttpFilterValue Limiter)
    (answer : FilterDecision × Request Body) (request : Request Body) :
    Option (FilterDecision × Request Body) :=
  match value with
  | .rbac rules => (applyAuthorizationRules rules request).map fun decision =>
    (decision, request)
  | .rateLimit _ => some (answer.1, request)
  | .externalProcessor _ => some answer
  | .ignored | .peerMetadata | .setFilterState => some (.continue, request)

end

/-! ## Choosing a route -/

/-- Which virtual host has the domain that fits a request best, and which matches fit it. -/
class RequestMatching where
  selectVirtualHost : Request Body → List VirtualHost → Option VirtualHost
  selectVirtualHost_mem : selectVirtualHost request hosts = some host → host ∈ hosts
  matchRequest : RouteMatch → Request Body → Bool

structure CachedRoute (config : RouteConfiguration) where
  route : Route
  vh : VirtualHost
  hosted : vh ∈ config.virtualHosts
  contained : route ∈ vh.routes

def matchRequestRoute [RequestMatching] (request : Request Body) (config : RouteConfiguration) :
    Option (CachedRoute config) :=
  match selected : RequestMatching.selectVirtualHost request config.virtualHosts with
  | none => none
  | some vh =>
    match found : vh.routes.find? fun route =>
      RequestMatching.matchRequest route.routeMatch request with
    | none => none
    | some route => some ⟨route, vh, RequestMatching.selectVirtualHost_mem selected,
        List.mem_of_find?_eq_some found⟩

/-! ## The machine -/

/-- How far a request has come. `active` are the filters run so far and `index`
is the position of the next one. -/
inductive Phase (Limiter : Type) where
  | waiting
  | routing (config : RouteConfiguration) (request : Request Body)
      (chosen : Option (CachedRoute config)) (index : Nat)
      (active : List (HttpFilterValue Limiter))
  | filtering (config : RouteConfiguration) (request : Request Body)
      (chosen : CachedRoute config) (filters : List (HttpFilter Limiter)) (index : Nat)
      (active : List (HttpFilterValue Limiter))
  | forwarded (config : RouteConfiguration) (request : Request Body)
      (chosen : CachedRoute config) (active : List (HttpFilterValue Limiter))
  /-- The last filter has answered the request, or panicked. -/
  | stopped (config : RouteConfiguration) (chosen : CachedRoute config)
      (active : List (HttpFilterValue Limiter))
  | notFound

structure Manager (Limiter : Type) where
  httpFiltersPerRoute : FilterTable Limiter
  /-- The configuration of the update that was the last to write the filters. -/
  filtersFrom : Option RouteConfiguration
  router : Option RouteConfiguration
  /-- Updates that have written the filters but not yet the routes. -/
  unpublished : List RouteConfiguration
  phase : Phase Limiter

open Manager

inductive Event where
  | swapFilters (config : RouteConfiguration)
  | publishRoute (config : RouteConfiguration)
  | removeRoute
  | arrive (request : Request Body)
  | loadFilters
  | runFilter (answer : FilterDecision × Request Body)

section

variable [HttpCrate] [RegexEngine] [RequestMatching] {Limiter : Type}
  (newLimiter : Configuration.LocalRateLimit → Limiter) (hcmFilters : List (HttpFilter Limiter))

def Manager.goTo (manager : Manager Limiter) (phase : Phase Limiter)
    (responses : List (Response Body)) : Manager Limiter × List (Response Body) :=
  ({ manager with phase := phase }, responses)

def Manager.answerNotFound (manager : Manager Limiter) (request : Request Body) :
    Manager Limiter × List (Response Body) :=
  manager.goTo .notFound [SyntheticHttpResponse.notFound.intoResponse request.version]

/-- A route without an entry in the table has no filters to run. -/
def loadFilters (table : FilterTable Limiter) (config : RouteConfiguration)
    (request : Request Body) (chosen : CachedRoute config) (index : Nat)
    (active : List (HttpFilterValue Limiter)) : Phase Limiter :=
  match table chosen.route.routeMatch with
  | none => .forwarded config request chosen active
  | some filters => .filtering config request chosen filters index active

def runFilter (config : RouteConfiguration) (request : Request Body)
    (chosen : CachedRoute config) (filters : List (HttpFilter Limiter)) (index : Nat)
    (active : List (HttpFilterValue Limiter)) (answer : FilterDecision × Request Body) :
    Phase Limiter × List (Response Body) :=
  match filters[index]? with
  | none => (.forwarded config request chosen active, [])
  | some filter =>
    match filter.active with
    | none => (.filtering config request chosen filters (index + 1) active, [])
    | some value =>
      match value.applyRequest answer request with
      | none => (.stopped config chosen (active ++ [value]), [])
      | some (.continue, request) =>
        (.filtering config request chosen filters (index + 1) (active ++ [value]), [])
      | some (.reroute, request) =>
        -- The position in the list is kept for the list of the new route.
        (.routing config request (matchRequestRoute request config) (index + 1)
          (active ++ [value]), [])
      | some (.directResponse response, _) =>
        (.stopped config chosen (active ++ [value]), [response])

def Manager.step (manager : Manager Limiter) :
    Event → Option (Manager Limiter × List (Response Body))
  | .swapFilters config =>
    some ({ manager with
      httpFiltersPerRoute := perRouteHttpFilters newLimiter config hcmFilters
      filtersFrom := some config
      unpublished := manager.unpublished ++ [config] }, [])
  | .publishRoute config =>
    if config ∈ manager.unpublished then
      some ({ manager with
        router := some config
        unpublished := manager.unpublished.erase config }, [])
    else
      none
  | .removeRoute => some ({ manager with router := none }, [])
  | .arrive request =>
    match manager.phase, manager.router with
    | .waiting, none => some (manager.answerNotFound request)
    | .waiting, some config =>
      some (manager.goTo (.routing config request (matchRequestRoute request config) 0 []) [])
    | _, _ => none
  | .loadFilters =>
    match manager.phase with
    | .routing _ request none _ _ => some (manager.answerNotFound request)
    | .routing config request (some chosen) index active =>
      some (manager.goTo (loadFilters manager.httpFiltersPerRoute config request chosen index
        active) [])
    | _ => none
  | .runFilter answer =>
    match manager.phase with
    | .filtering config request chosen filters index active =>
      let (phase, responses) := runFilter config request chosen filters index active answer
      some (manager.goTo phase responses)
    | _ => none

def Manager.machine : Machine (Manager Limiter) Event (Response Body) where
  step := step newLimiter hcmFilters

/-- The table made from a configuration; it is empty as long as there is none. -/
def filterTable (config : Option RouteConfiguration) : FilterTable Limiter :=
  match config with
  | some config => perRouteHttpFilters newLimiter config hcmFilters
  | none => Table.empty

def Manager.initial (config : Option RouteConfiguration) : Manager Limiter where
  httpFiltersPerRoute := filterTable newLimiter hcmFilters config
  filtersFrom := config
  router := config
  unpublished := []
  phase := .waiting

/-! ## What a request should have passed -/

/-- The filters that a route has in its own configuration. -/
def ownFilters (config : RouteConfiguration) (chosen : CachedRoute config) :
    List (HttpFilter Limiter) :=
  (perRouteHttpFilters newLimiter config hcmFilters).filtersOf chosen.route

def requiredFilters (config : RouteConfiguration) (chosen : CachedRoute config) :
    List (HttpFilterValue Limiter) :=
  (ownFilters newLimiter hcmFilters config chosen).filterMap HttpFilter.active

/-- A forwarded request has passed the filters of its final route, as made from the
configuration by which it was routed. One that a filter has stopped was given to the
first of them. -/
def FilteredAsRouted (manager : Manager Limiter) : Prop :=
  match manager.phase with
  | .forwarded config _ chosen active =>
    active = requiredFilters newLimiter hcmFilters config chosen
  | .stopped config chosen active => active <+: requiredFilters newLimiter hcmFilters config chosen
  | .waiting | .routing .. | .filtering .. | .notFound => True

/-- When a request reads the filters, the update that was the last to write them is the one
that wrote the request's own configuration. When a filter reroutes it, the filters up to this
one are the same on both routes. -/
def UpdatedInStep (manager : Manager Limiter) (event : Event) : Prop :=
  match event, manager.phase with
  | .loadFilters, .routing config _ (some _) _ _ => manager.filtersFrom = some config
  | .runFilter answer, .filtering config request chosen filters index _ =>
    ∀ value changed other, filters[index]?.bind HttpFilter.active = some value →
      value.applyRequest answer request = some (.reroute, changed) →
      matchRequestRoute changed config = some other →
      ((ownFilters newLimiter hcmFilters config other).take (index + 1)).filterMap
          HttpFilter.active =
        ((ownFilters newLimiter hcmFilters config chosen).take (index + 1)).filterMap
          HttpFilter.active
  | _, _ => True

/-! ## Why updates in step suffice -/

/-- A request that is on its way has passed the first filters of its route, and goes through
the filters of its own configuration. -/
def Phase.FiltersOwn : Phase Limiter → Prop
  | .routing config _ chosen index active => ∀ route, chosen = some route →
    active = ((ownFilters newLimiter hcmFilters config route).take index).filterMap
      HttpFilter.active
  | .filtering config _ chosen filters index active =>
    filters = ownFilters newLimiter hcmFilters config chosen ∧
      active = (filters.take index).filterMap HttpFilter.active
  | .forwarded config _ chosen active =>
    active = requiredFilters newLimiter hcmFilters config chosen
  | .stopped config chosen active => active <+: requiredFilters newLimiter hcmFilters config chosen
  | .waiting | .notFound => True

omit [HttpCrate] [RegexEngine] [RequestMatching] in
theorem take_succ_filterMap {filters : List (HttpFilter Limiter)}
    (found : filters[index]? = some filter) :
    (filters.take (index + 1)).filterMap HttpFilter.active =
      (filters.take index).filterMap HttpFilter.active ++ filter.active.toList := by
  rw [List.take_add_one, found, List.filterMap_append]
  cases active : filter.active with
  | none | some => simp [active]

theorem runFilter_filtersOwn {config : RouteConfiguration} {chosen : CachedRoute config}
    {manager : Manager Limiter} {answer : FilterDecision × Request Body}
    (phase : manager.phase = .filtering config request chosen filters index active)
    (own : manager.phase.FiltersOwn newLimiter hcmFilters)
    (inStep : UpdatedInStep newLimiter hcmFilters manager (.runFilter answer)) :
    (runFilter config request chosen filters index active answer).1.FiltersOwn
      newLimiter hcmFilters := by
  rw [phase] at own
  simp only [UpdatedInStep, phase] at inStep
  rcases own with ⟨filtersEqual, activeEqual⟩
  unfold runFilter
  cases found : filters[index]? with
  | none =>
    have beyond : filters.length ≤ index := List.getElem?_eq_none_iff.mp found
    rw [List.take_of_length_le beyond] at activeEqual
    rw [activeEqual, filtersEqual]
    rfl
  | some filter =>
    have extended := take_succ_filterMap found
    cases runs : filter.active with
    | none =>
      rw [runs, toList_none, List.append_nil] at extended
      simp only [runs]
      exact ⟨filtersEqual, by rw [extended]; exact activeEqual⟩
    | some value =>
      rw [runs, toList_some, ← activeEqual] at extended
      have stops : active ++ [value] <+: requiredFilters newLimiter hcmFilters config chosen := by
        rw [← extended, requiredFilters, ← filtersEqual]
        exact (List.take_prefix _ _).filterMap _
      cases applied : value.applyRequest answer request with
      | none =>
        simp only [runs, applied]
        exact stops
      | some outcome =>
        rcases outcome with ⟨decision, changed⟩
        cases decision with
        | «continue» =>
          simp only [runs, applied]
          exact ⟨filtersEqual, extended.symm⟩
        | reroute =>
          simp only [runs, applied]
          intro other rerouted
          rw [inStep value changed other (by simp [found, runs]) applied rerouted,
            ← filtersEqual, extended]
        | directResponse response =>
          simp only [runs, applied]
          exact stops

theorem loadFilters_filtersOwn {config : RouteConfiguration} {chosen : CachedRoute config}
    {manager : Manager Limiter}
    (table : manager.httpFiltersPerRoute = filterTable newLimiter hcmFilters manager.filtersFrom)
    (phase : manager.phase = .routing config request (some chosen) index active)
    (own : manager.phase.FiltersOwn newLimiter hcmFilters)
    (inStep : UpdatedInStep newLimiter hcmFilters manager .loadFilters) :
    (loadFilters manager.httpFiltersPerRoute config request chosen index active).FiltersOwn
      newLimiter hcmFilters := by
  rw [phase] at own
  simp only [UpdatedInStep, phase] at inStep
  have passed := own chosen rfl
  have sameFilters : manager.httpFiltersPerRoute.filtersOf chosen.route =
      ownFilters newLimiter hcmFilters config chosen := by
    rw [table, inStep]
    rfl
  rw [FilterTable.filtersOf] at sameFilters
  rw [loadFilters]
  cases found : manager.httpFiltersPerRoute chosen.route.routeMatch with
  | none =>
    rw [found, getD_none] at sameFilters
    change active = requiredFilters newLimiter hcmFilters config chosen
    rw [passed, requiredFilters, ← sameFilters]
    simp
  | some filters =>
    rw [found, getD_some] at sameFilters
    exact ⟨sameFilters, by rw [passed, sameFilters]⟩

/-- The table is that of the configuration written last, and the request keeps to its own. -/
structure Manager.KeepsApart (manager : Manager Limiter) : Prop where
  table : manager.httpFiltersPerRoute = filterTable newLimiter hcmFilters manager.filtersFrom
  phase : manager.phase.FiltersOwn newLimiter hcmFilters

theorem Manager.KeepsApart.step {manager next : Manager Limiter}
    (keeps : manager.KeepsApart newLimiter hcmFilters)
    (inStep : UpdatedInStep newLimiter hcmFilters manager event)
    (taken : manager.step newLimiter hcmFilters event = some (next, responses)) :
    next.KeepsApart newLimiter hcmFilters := by
  cases event with
  | swapFilters config =>
    cases taken
    exact ⟨rfl, keeps.phase⟩
  | publishRoute config =>
    simp only [Manager.step] at taken
    split_ifs at taken
    cases taken
    exact ⟨keeps.table, keeps.phase⟩
  | removeRoute =>
    cases taken
    exact ⟨keeps.table, keeps.phase⟩
  | arrive request =>
    simp only [Manager.step] at taken
    split at taken
    · cases taken
      exact ⟨keeps.table, trivial⟩
    · cases taken
      exact ⟨keeps.table, fun _ _ => rfl⟩
    · cases taken
  | loadFilters =>
    cases phase : manager.phase with
    | routing config request chosen index active =>
      simp only [Manager.step, phase] at taken
      cases chosen with
      | none =>
        cases taken
        exact ⟨keeps.table, trivial⟩
      | some chosen =>
        cases taken
        exact ⟨keeps.table, loadFilters_filtersOwn newLimiter hcmFilters keeps.table phase
          keeps.phase inStep⟩
    | waiting | filtering | forwarded | stopped | notFound => simp [Manager.step, phase] at taken
  | runFilter answer =>
    cases phase : manager.phase with
    | filtering config request chosen filters index active =>
      have kept := runFilter_filtersOwn newLimiter hcmFilters phase keeps.phase inStep
      simp only [Manager.step, phase, some.injEq] at taken
      cases taken
      exact ⟨keeps.table, kept⟩
    | waiting | routing | forwarded | stopped | notFound => simp [Manager.step, phase] at taken

/-- Over every interleaving of updates and a request in which the updates are in step with
the request, it is given to the filters of its final route only, and to all of them before it
is forwarded. -/
theorem run_filteredAsRouted {config : Option RouteConfiguration} {events : List Event}
    {responses : List (Response Body)} {manager : Manager Limiter}
    (run : (machine newLimiter hcmFilters).Run (UpdatedInStep newLimiter hcmFilters)
      (initial newLimiter hcmFilters config) events responses manager) :
    FilteredAsRouted newLimiter hcmFilters manager := by
  have keeps : manager.KeepsApart newLimiter hcmFilters := by
    refine run.stateInvariant (Manager.KeepsApart newLimiter hcmFilters) ?_ ?_
    · exact ⟨rfl, trivial⟩
    · intro state event next emitted keeps inStep taken
      exact keeps.step newLimiter hcmFilters inStep taken
  have own := keeps.phase
  rw [FilteredAsRouted]
  cases phase : manager.phase with
  | forwarded | stopped =>
    rw [phase] at own
    exact own
  | waiting | routing | filtering | notFound => trivial

end

/-! ## Two runs -/

/-- The first route of the first virtual host is taken. -/
@[reducible] def RequestMatching.first : RequestMatching where
  selectVirtualHost _ hosts := hosts.head?
  selectVirtualHost_mem selected := List.mem_of_mem_head? selected
  matchRequest _ _ := true

def singleRoute (path : Text) (action : Route.Action) : RouteConfiguration where
  name := "routes".toList
  virtualHosts := [⟨"host".toList,
    [⟨path, ⟨some ⟨.startingWith path, false⟩, none, [], []⟩, [], action⟩], none⟩]

attribute [local instance] HttpCrate.ascii RegexEngine.literal RequestMatching.first

/-- An update between the arrival of a request and its reading of the filters
takes away the entry of its route: a request that access control denies is
forwarded. -/
theorem update_bypasses_access_control :
    let hcmFilters := [HttpFilter.ofConfig id denyAll]
    ∃ manager, (machine id hcmFilters).Run Machine.anyStep
        (initial id hcmFilters (some (singleRoute "/".toList .redirect)))
        [.arrive (.get "/".toList), .swapFilters (singleRoute "/v2".toList .redirect),
          .loadFilters] [] manager ∧
      (∃ chosen, manager.phase =
        .forwarded (singleRoute "/".toList .redirect) (.get "/".toList) chosen []) ∧
      ¬ FilteredAsRouted id hcmFilters manager := by
  refine ⟨_, Machine.Run.any_of_execute rfl, ⟨_, rfl⟩, ?_⟩
  intro passed
  change [] = requiredFilters id _ _ _ at passed
  revert passed
  decide

def allowAll : Configuration.HttpFilter where
  name := "rbac".toList
  disabled := false
  filter := .rbac ⟨.allow, [("all".toList, ⟨[.any], [.any]⟩)]⟩

/-- An update that comes later does not disturb a request. -/
theorem run_filteredAsRouted_undisturbed :
    let hcmFilters := [HttpFilter.ofConfig id allowAll]
    ∃ manager chosen active, manager.phase = .forwarded (singleRoute "/".toList .redirect)
        (.get "/".toList) chosen active ∧ active ≠ [] ∧ FilteredAsRouted id hcmFilters manager := by
  let hcmFilters := [HttpFilter.ofConfig id allowAll]
  let config := some (singleRoute "/".toList .redirect)
  let events : List Event := [.arrive (.get "/".toList), .loadFilters,
    .swapFilters (singleRoute "/v2".toList .redirect), .runFilter (.continue, .get "/".toList),
    .runFilter (.continue, .get "/".toList)]
  have inStep : (machine id hcmFilters).AllAllowed (UpdatedInStep id hcmFilters)
      (initial id hcmFilters config) events := by
    refine ⟨trivial, rfl, trivial, ?_, ?_, trivial⟩
    · rintro value changed other ⟨⟩ applied
      cases applied
    · rintro value changed other ⟨⟩
  exact ⟨_, _, _, rfl, by decide, run_filteredAsRouted id hcmFilters
    (Machine.Run.of_execute (show (machine id hcmFilters).execute
      (initial id hcmFilters config) events = some (_, _) from rfl) inStep)⟩

/-! ## The retry policy of a forwarded request -/

section

variable [HttpCrate] {config : RouteConfiguration}
  (prepare : CachedRoute config → Request Body → Option (Request Body))
  (websocketEnabledByDefault : Bool) (chosen : CachedRoute config) (request : Request Body)

/-- What the handler does with a request that its filters have let pass. Its headers and its
path are changed before, unless that fails or there is no channel; `none` if it is answered by
the proxy itself. -/
def CachedRoute.toResponse : Option Dispatched :=
  match chosen.route.action with
  | .directResponse | .redirect => none
  | .route action => (prepare chosen request).map fun request =>
    action.toResponse ⟨request, chosen.vh.retryPolicy, websocketEnabledByDefault⟩

/-- The policy handed to the channels is the one of the virtual host, and none on an upgrade;
so it is the route's own one, if that is not missing, exactly if these are the same. -/
theorem CachedRoute.retryPolicy_iff {action : RouteAction} {upstream : Request Body}
    (routed : chosen.route.action = .route action)
    (prepared : prepare chosen request = some upstream) :
    let matched : MatchedRequest := ⟨upstream, chosen.vh.retryPolicy, websocketEnabledByDefault⟩
    (∀ handed, chosen.toResponse prepare websocketEnabledByDefault request = some (.handed handed) →
      handed.ctx.retryPolicy = action.retryPolicy.or chosen.vh.retryPolicy) ↔
    (action.shouldUpgradeWebsocket matched = .ok true → upstream.version = .http11 →
      action.retryPolicy = none ∧ chosen.vh.retryPolicy = none) ∧
    (action.shouldUpgradeWebsocket matched = .ok false →
      filterDisallowedRequests upstream = none →
        action.retryPolicy = none ∨ action.retryPolicy = chosen.vh.retryPolicy) := by
  have own : chosen.vh.retryPolicy = action.retryPolicy.or chosen.vh.retryPolicy ↔
      action.retryPolicy = none ∨ action.retryPolicy = chosen.vh.retryPolicy := by
    cases action.retryPolicy with
    | none => simp
    | some policy => simp [eq_comm]
  have handed := action.toResponse_handed_iff
    ⟨upstream, chosen.vh.retryPolicy, websocketEnabledByDefault⟩
    (· = action.retryPolicy.or chosen.vh.retryPolicy)
  rw [own, @eq_comm _ none, or_eq_none_iff] at handed
  simpa only [CachedRoute.toResponse, routed, prepared, map_some, some.injEq] using handed

end

theorem virtualHost_retryPolicy_handed :
    let policy : Option RetryPolicy := some ⟨[.err5xx], 1, none, [], {}, [], []⟩
    let route : Route := ⟨[], RouteMatch.everyPath, [], .route ⟨none, none, none⟩⟩
    let vh : VirtualHost := ⟨"host".toList, [route], policy⟩
    let chosen : CachedRoute ⟨"routes".toList, [vh]⟩ :=
      ⟨route, vh, List.mem_singleton_self vh, List.mem_singleton_self route⟩
    (∃ handed, chosen.toResponse (fun _ => some) false (.get "/".toList) = some (.handed handed)) ∧
      ∀ handed, chosen.toResponse (fun _ => some) false (.get "/".toList) = some (.handed handed) →
        handed.ctx.retryPolicy = policy := by
  refine ⟨⟨_, rfl⟩, (@CachedRoute.retryPolicy_iff .ascii _ (fun _ => some) false _
    (.get "/".toList) ⟨none, none, none⟩ _ rfl rfl).mpr ⟨?_, ?_⟩⟩
  · intro upgrades
    cases upgrades
  · exact fun _ _ => .inl rfl

/-- A route's own policy is not handed on. -/
theorem route_retryPolicy_ignored :
    let policy : RetryPolicy := ⟨[.err5xx], 1, none, [], {}, [], []⟩
    let config := singleRoute "/".toList (.route ⟨none, some policy, none⟩)
    ∃ manager chosen handed, (machine id []).Run Machine.anyStep (initial id [] (some config))
        [.arrive (.get "/".toList), .loadFilters] [] manager ∧
      manager.phase = .forwarded config (.get "/".toList) chosen [] ∧
      chosen.toResponse (fun _ => some) false (.get "/".toList) = some (.handed handed) ∧
      handed.ctx.retryPolicy = none :=
  ⟨_, _, _, Machine.Run.any_of_execute rfl, rfl, rfl, rfl⟩

end Orion.Listeners
