import Orion.ExtProc.Filter

/-! # The filters of a route

A connection manager combines its own filters with the overrides of each route,
and keeps the result in a table whose key is the route's match.
-/

namespace Orion.Listeners

open Foundation Http Orion.Configuration List Option Nat

/-- A filter ready to run. The rate limiter is whatever its configuration is
turned into when the filter is built. -/
inductive HttpFilterValue (Limiter : Type) where
  | rateLimit (limiter : Limiter)
  | rbac (rbac : HttpRbac)
  | externalProcessor (processor : ExtProc.ExternalProcessor)
  | ignored
  | peerMetadata
  | setFilterState
  deriving DecidableEq

structure HttpFilter (Limiter : Type) where
  name : Text
  disabled : Bool
  filter : Option (HttpFilterValue Limiter)
  baseConfig : Option Configuration.HttpFilter
  deriving DecidableEq

section

variable {Limiter : Type} (newLimiter : LocalRateLimit → Limiter)

def HttpFilterValue.ofType : HttpFilterType → HttpFilterValue Limiter
  | .rateLimit limit => .rateLimit (newLimiter limit)
  | .rbac rules => .rbac rules
  | .ignored => .ignored
  | .peerMetadata => .peerMetadata
  | .setFilterState => .setFilterState
  | .externalProcessor processor =>
    .externalProcessor (ExtProc.ExternalProcessor.ofConfig processor none)

/-- Only a processor keeps its configuration, for later overrides. -/
def HttpFilter.ofConfig (config : Configuration.HttpFilter) : HttpFilter Limiter where
  name := config.name
  disabled := config.disabled
  filter := some (.ofType newLimiter config.filter)
  baseConfig :=
    match config.filter with
    | .externalProcessor _ => some config
    | _ => none

def HttpFilterValue.fromFilterOverride (override : FilterOverride)
    (baseConfig : Option Configuration.HttpFilter) : Option (HttpFilterValue Limiter) :=
  match override.filterSettings with
  | some (.localRateLimit limit) => some (.rateLimit (newLimiter limit))
  | some (.rbac (some rules)) => some (.rbac rules)
  | some (.rbac none) => none
  | some (.externalProcessor perRoute) =>
    match baseConfig with
    | some ⟨_, _, .externalProcessor base⟩ =>
      some (.externalProcessor (ExtProc.ExternalProcessor.ofConfig base (some perRoute)))
    | _ => none
  | none => none

def effectiveFilter (route : Route) (hcmFilter : HttpFilter Limiter) : HttpFilter Limiter :=
  match route.overrideFor hcmFilter.name with
  | some override =>
    { name := hcmFilter.name
      disabled := override.disabled
      filter := HttpFilterValue.fromFilterOverride newLimiter override hcmFilter.baseConfig
      baseConfig := hcmFilter.baseConfig }
  | none => hcmFilter

abbrev FilterTable (Limiter : Type) := Table RouteMatch (List (HttpFilter Limiter))

def perRouteHttpFilters (routeConfig : RouteConfiguration)
    (hcmFilters : List (HttpFilter Limiter)) : FilterTable Limiter :=
  routeConfig.virtualHosts.foldl (fun table virtualHost =>
    virtualHost.routes.foldl (fun table route =>
      hcmFilters.foldl (fun table hcmFilter =>
        table.push route.routeMatch (effectiveFilter newLimiter route hcmFilter)) table)
      table) Table.empty

end

/-- The filters that the request loop runs for a route; without an entry there
are none. -/
def FilterTable.filtersOf (table : FilterTable Limiter) (route : Route) :
    List (HttpFilter Limiter) :=
  (table route.routeMatch).getD []

def HttpFilter.active (filter : HttpFilter Limiter) : Option (HttpFilterValue Limiter) :=
  if filter.disabled then none else filter.filter

/-! ## What each route finds in the table -/

section

variable {Limiter : Type} (newLimiter : LocalRateLimit → Limiter)
  (hcmFilters : List (HttpFilter Limiter))

def routePushes (route : Route) : MultiMap RouteMatch (HttpFilter Limiter) :=
  hcmFilters.map fun hcmFilter =>
    (route.routeMatch, effectiveFilter newLimiter route hcmFilter)

/-- The nested loops push the filters of all routes, one route after another. -/
theorem perRouteHttpFilters_eq_pushAll (routeConfig : RouteConfiguration) :
    perRouteHttpFilters newLimiter routeConfig hcmFilters =
      Table.pushAll Table.empty
        (routeConfig.routes.flatMap (routePushes newLimiter hcmFilters)) := by
  simp only [perRouteHttpFilters, RouteConfiguration.routes, Table.pushAll, routePushes,
    flatMap, foldl_flatten, foldl_map]

theorem getAll_routePushes (route : Route) (key : RouteMatch) :
    (routePushes newLimiter hcmFilters route).getAll key =
      if route.routeMatch = key then
        hcmFilters.map (effectiveFilter newLimiter route)
      else
        [] := by
  by_cases same : route.routeMatch = key
  · simp [routePushes, MultiMap.getAll, same, List.filter_map, Function.comp_def]
  · simp [routePushes, MultiMap.getAll, same, List.filter_map, Function.comp_def]

theorem filtersOf_perRouteHttpFilters (routeConfig : RouteConfiguration) (route : Route) :
    (perRouteHttpFilters newLimiter routeConfig hcmFilters).filtersOf route =
      (routeConfig.routes.filter fun other => other.routeMatch = route.routeMatch).flatMap
        fun other => hcmFilters.map (effectiveFilter newLimiter other) := by
  rw [FilterTable.filtersOf, perRouteHttpFilters_eq_pushAll, Table.pushAll_getD]
  simp only [Table.empty_get, getD_none, nil_append]
  induction routeConfig.routes with
  | nil => rfl
  | cons other routes induction =>
    rw [flatMap_cons, MultiMap.getAll_append, getAll_routePushes, induction]
    by_cases same : other.routeMatch = route.routeMatch
    · simp [same]
    · simp [same]

end

/-! ## What each route should find -/

section

variable {Limiter : Type} (baseLimiter newLimiter : LocalRateLimit → Limiter)

def baseValue (config : Configuration.HttpFilter) : Option (HttpFilterValue Limiter) :=
  if config.disabled then none else some (.ofType baseLimiter config.filter)

/-- What should run for a filter on a route, given the route's override. Settings
for a processor refine the configuration of a processor; they describe nothing to
run for any other filter, nor when they disable the processor. -/
def intendedValue (config : Configuration.HttpFilter) :
    Option FilterOverride → Option (HttpFilterValue Limiter)
  | none => baseValue baseLimiter config
  | some override =>
    if override.disabled then
      none
    else
      match override.filterSettings with
      | none => baseValue baseLimiter config
      | some (.localRateLimit limit) => some (.rateLimit (newLimiter limit))
      | some (.rbac rules) => rules.map .rbac
      | some (.externalProcessor perRoute) =>
        match config.filter with
        | .externalProcessor base =>
          if perRoute.disabled then
            none
          else
            some (.externalProcessor
              (ExtProc.ExternalProcessor.ofConfig base (some perRoute)))
        | _ => none

/-- Each filter of the connection manager once, in order, and configured for the
route alone. -/
def FiltersAsConfigured (configs : List Configuration.HttpFilter) (route : Route)
    (filters : List (HttpFilter Limiter)) : Prop :=
  filters.map (fun filter => (filter.name, filter.active)) =
    configs.map fun config => (config.name,
      intendedValue baseLimiter newLimiter config (route.overrideFor config.name))

/-- The overrides whose meaning is kept: an enabling override has settings unless
the filter is disabled anyway, and no processor is disabled by its settings. -/
def OverrideKept (config : Configuration.HttpFilter) : Option FilterOverride → Prop
  | none => True
  | some override =>
    override.disabled = true ∨
      match override.filterSettings, config.filter with
      | none, _ => config.disabled = true
      | some (.externalProcessor perRoute), .externalProcessor _ =>
        perRoute.disabled = false
      | _, _ => True

theorem effectiveFilter_name (route : Route) (filter : HttpFilter Limiter) :
    (effectiveFilter newLimiter route filter).name = filter.name := by
  unfold effectiveFilter
  cases route.overrideFor filter.name with
  | none | some => rfl

/-- A filter runs as intended exactly if the override is one whose meaning is kept. -/
theorem effectiveFilter_active_iff (route : Route) (config : Configuration.HttpFilter) :
    (effectiveFilter newLimiter route (.ofConfig baseLimiter config)).active =
        intendedValue baseLimiter newLimiter config (route.overrideFor config.name) ↔
      OverrideKept config (route.overrideFor config.name) := by
  rcases config with ⟨name, disabled, filter⟩
  simp only [effectiveFilter, HttpFilter.ofConfig]
  cases route.overrideFor name with
  | none => simp [HttpFilter.active, intendedValue, baseValue, OverrideKept]
  | some override =>
    rcases override with ⟨overrideDisabled, settings⟩
    cases overrideDisabled with
    | true => simp [HttpFilter.active, intendedValue, OverrideKept]
    | false =>
      cases settings with
      | none =>
        cases disabled <;>
          simp [HttpFilter.active, intendedValue, OverrideKept, baseValue,
            HttpFilterValue.fromFilterOverride]
      | some settings =>
        cases settings with
        | localRateLimit limit =>
          simp [HttpFilter.active, intendedValue, OverrideKept, HttpFilterValue.fromFilterOverride]
        | rbac rules =>
          cases rules <;>
            simp [HttpFilter.active, intendedValue, OverrideKept,
              HttpFilterValue.fromFilterOverride]
        | externalProcessor perRoute =>
          cases filter with
          | externalProcessor base =>
            cases disabledPerRoute : perRoute.disabled <;>
              simp [HttpFilter.active, intendedValue, OverrideKept,
                HttpFilterValue.fromFilterOverride, disabledPerRoute]
          | rbac _ | rateLimit _ | ignored | peerMetadata | setFilterState =>
            simp [HttpFilter.active, intendedValue, OverrideKept,
              HttpFilterValue.fromFilterOverride]

/-- One route's own filters are as configured exactly if all its overrides are
kept. -/
theorem filtersAsConfigured_own_iff (configs : List Configuration.HttpFilter) (route : Route) :
    FiltersAsConfigured baseLimiter newLimiter configs route
        ((configs.map (.ofConfig baseLimiter)).map (effectiveFilter newLimiter route)) ↔
      ∀ config ∈ configs, OverrideKept config (route.overrideFor config.name) := by
  simp only [FiltersAsConfigured, List.map_map, List.map_inj_left]
  refine forall₂_congr fun config _ => ?_
  rw [← effectiveFilter_active_iff baseLimiter newLimiter route config]
  simp [effectiveFilter_name, HttpFilter.ofConfig]

end

section

variable {Limiter : Type} (baseLimiter newLimiter : LocalRateLimit → Limiter)

def MatchedOnce (routeConfig : RouteConfiguration) (route : Route) : Prop :=
  (routeConfig.routes.filter fun other => other.routeMatch = route.routeMatch).length = 1

theorem filter_eq_singleton (member : route ∈ routeConfig.routes)
    (once : MatchedOnce routeConfig route) :
    (routeConfig.routes.filter fun other => other.routeMatch = route.routeMatch) = [route] := by
  rcases length_eq_one_iff.mp once with ⟨single, equal⟩
  have kept : route ∈ routeConfig.routes.filter fun other =>
      other.routeMatch = route.routeMatch := by
    simp [member]
  rw [equal, mem_singleton] at kept
  rw [equal, kept]

/-- The request loop runs for a route what its configuration asks for exactly if
the route's match is its own and its overrides are kept. -/
theorem perRouteHttpFilters_asConfigured_iff (configs : List Configuration.HttpFilter)
    (routeConfig : RouteConfiguration) (route : Route) (member : route ∈ routeConfig.routes) :
    FiltersAsConfigured baseLimiter newLimiter configs route
        ((perRouteHttpFilters newLimiter routeConfig
          (configs.map (.ofConfig baseLimiter))).filtersOf route) ↔
      configs = [] ∨ (MatchedOnce routeConfig route ∧
        ∀ config ∈ configs, OverrideKept config (route.overrideFor config.name)) := by
  rw [filtersOf_perRouteHttpFilters]
  by_cases noFilters : configs = []
  · simp [noFilters, FiltersAsConfigured]
  · by_cases once : MatchedOnce routeConfig route
    · rw [filter_eq_singleton member once, flatMap_singleton, filtersAsConfigured_own_iff]
      simp [noFilters, once]
    · refine iff_of_false ?_ (by simp [noFilters, once])
      intro asConfigured
      -- Every route with this match adds as many filters as there should be in all.
      have lengths := congrArg length asConfigured
      simp only [length_map, length_flatMap, map_const', sum_replicate_nat] at lengths
      have positive : 0 < configs.length := length_pos_iff.mpr noFilters
      exact once ((mul_eq_right (ne_of_gt positive)).mp lengths)

end

/-! ## Two virtual hosts with one match -/

def denyAll : Configuration.HttpFilter where
  name := "rbac".toList
  disabled := false
  filter := .rbac ⟨.allow, []⟩

/-- The match that a route without any has: every path. -/
def RouteMatch.everyPath : RouteMatch where
  pathMatcher := some ⟨.startingWith [], false⟩
  methodMatcher := none
  headers := []
  queryParameters := []

def guardedRoute : Route := ⟨"guarded".toList, RouteMatch.everyPath, [], .directResponse⟩

def openRoute : Route :=
  ⟨"open".toList, RouteMatch.everyPath, [("rbac".toList, ⟨true, none⟩)], .directResponse⟩

def twoHosts : RouteConfiguration where
  name := "routes".toList
  virtualHosts := [⟨"private".toList, [guardedRoute], none⟩, ⟨"public".toList, [openRoute], none⟩]

def publicHost : RouteConfiguration where
  name := "routes".toList
  virtualHosts := [⟨"public".toList, [openRoute], none⟩]

/-- Both routes find two filters, and the open one is guarded by the filter of
the other host. -/
theorem perRouteHttpFilters_mixes_hosts :
    let table := perRouteHttpFilters id twoHosts [.ofConfig id denyAll]
    (table.filtersOf openRoute).map HttpFilter.active = [some (.rbac ⟨.allow, []⟩), none] ∧
      openRoute ∈ twoHosts.routes ∧
      ¬ FiltersAsConfigured id id [denyAll] openRoute (table.filtersOf openRoute) := by
  unfold FiltersAsConfigured
  decide

/-- With the hosts in separate configurations each route finds its own filters. -/
theorem perRouteHttpFilters_asConfigured_open :
    FiltersAsConfigured id id [denyAll] openRoute
      ((perRouteHttpFilters id publicHost [.ofConfig id denyAll]).filtersOf openRoute) := by
  refine (perRouteHttpFilters_asConfigured_iff id id [denyAll] publicHost openRoute
    (by decide)).mpr (.inr ⟨by unfold MatchedOnce; decide, ?_⟩)
  intro config member
  rw [mem_singleton] at member
  rw [member]
  exact .inl rfl

end Orion.Listeners
