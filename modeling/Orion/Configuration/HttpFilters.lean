import Orion.Configuration.RetryPolicy

/-! # Configuration of HTTP filters and routes -/

namespace Orion.Configuration

open Foundation Http

/-! ## Configuration of the external processor -/

inductive HeaderProcessingMode where
  | default
  | send
  | skip
  deriving DecidableEq

inductive BodyProcessingMode where
  | none
  | streamed
  | buffered
  | bufferedPartial
  | fullDuplexStreamed
  deriving DecidableEq

inductive TrailerProcessingMode where
  | default
  | skip
  | send
  deriving DecidableEq

structure ProcessingMode where
  requestHeaderMode : HeaderProcessingMode := .default
  responseHeaderMode : HeaderProcessingMode := .default
  requestBodyMode : BodyProcessingMode := .none
  responseBodyMode : BodyProcessingMode := .none
  requestTrailerMode : TrailerProcessingMode := .default
  responseTrailerMode : TrailerProcessingMode := .default
  deriving DecidableEq

inductive GrpcServiceSpecifier where
  | cluster (name : Text)
  | googleGrpc (targetUri : Text)
  deriving DecidableEq

structure GrpcService where
  serviceSpecifier : GrpcServiceSpecifier
  timeout : Option Duration
  deriving DecidableEq

inductive RouteCacheAction where
  | default
  | clear
  | retain
  deriving DecidableEq

structure HeaderForwardingRules where
  allowedHeaders : List StringMatcher
  disallowedHeaders : List StringMatcher
  deriving DecidableEq

/-! ## Which headers a processor may modify -/

inductive MutationPolicy where
  | allowAll
  | standard (allowRouting allowEnvoy allowSystem : Bool)
  | denyAll
  deriving DecidableEq

structure PatternOverrides where
  allow : List StringMatcher
  deny : List StringMatcher
  deriving DecidableEq

structure HeaderMutationRules where
  policy : MutationPolicy := .standard false false true
  overrides : Option PatternOverrides := none
  disallowIsError : Bool := false
  deriving DecidableEq

def MutationPolicy.permits (policy : MutationPolicy) (header : Text) : Bool :=
  match policy with
  | .denyAll => false
  | .allowAll => true
  | .standard allowRouting allowEnvoy allowSystem =>
    if header = "host".toList then
      allowRouting
    else if header.head? = some ':' ∧
        [":authority".toList, ":scheme".toList, ":method".toList].contains header then
      allowRouting
    else if header.head? = some ':' ∧ !allowSystem then
      false
    else if "x-envoy-".toList.isPrefixOf header then
      allowEnvoy
    else
      true

/-- Whether a header may be modified; `none` when a pattern panics on it. -/
def HeaderMutationRules.isModificationPermitted [RegexEngine]
    (rules : HeaderMutationRules) (header : Text) : Option Bool :=
  match rules.overrides with
  | none => some (rules.policy.permits header)
  | some overrides => do
      if ← overrides.deny.anyM fun matcher => matcher.matches header then
        return false
      if ← overrides.allow.anyM fun matcher => matcher.matches header then
        return true
      return rules.policy.permits header

def anyMatches [RegexEngine] (matchers : List StringMatcher) (header : Text) : Bool :=
  matchers.any fun matcher => matcher.matches header = some true

theorem anyM_matches [RegexEngine] (matchers : List StringMatcher) (ascii : header.isAscii) :
    (matchers.anyM fun matcher : StringMatcher => matcher.matches header) =
      some (anyMatches matchers header) := by
  induction matchers with
  | nil => rfl
  | cons matcher matchers induction =>
    rcases Option.isSome_iff_exists.mp (matcher.matches_isSome ascii) with ⟨found, equal⟩
    rw [List.anyM, anyMatches, List.any_cons]
    cases found with
    | true => simp [equal]
    | false => simpa [equal, anyMatches] using induction

theorem HeaderMutationRules.isModificationPermitted_isSome [RegexEngine]
    (rules : HeaderMutationRules) (ascii : header.isAscii) :
    (rules.isModificationPermitted header).isSome := by
  rw [HeaderMutationRules.isModificationPermitted]
  cases rules.overrides with
  | none => rfl
  | some overrides =>
    simp only [anyM_matches _ ascii]
    cases anyMatches overrides.deny header <;> cases anyMatches overrides.allow header <;> rfl

/-! ## The filter -/

structure ExternalProcessor where
  grpcService : GrpcService
  failureModeAllow : Bool
  messageTimeout : Option Duration
  maxMessageTimeout : Option Duration
  processingMode : Option ProcessingMode
  mutationRules : Option HeaderMutationRules
  forwardRules : Option HeaderForwardingRules
  allowModeOverride : Bool
  routeCacheAction : RouteCacheAction
  allowedOverrideModes : List ProcessingMode
  sendBodyWithoutWaitingForHeaderResponse : Bool
  observabilityMode : Bool
  disableImmediateResponse : Bool
  deriving DecidableEq

/-- A processor whose failures are let pass, with everything else left out. -/
def ExternalProcessor.lenient (mode : ProcessingMode) : ExternalProcessor where
  grpcService := ⟨.cluster "processor".toList, none⟩
  failureModeAllow := true
  messageTimeout := none
  maxMessageTimeout := none
  processingMode := some mode
  mutationRules := none
  forwardRules := none
  allowModeOverride := false
  routeCacheAction := .default
  allowedOverrideModes := []
  sendBodyWithoutWaitingForHeaderResponse := false
  observabilityMode := false
  disableImmediateResponse := false

structure ExtProcOverrides where
  processingMode : Option ProcessingMode
  grpcService : Option GrpcService
  failureModeAllow : Option Bool
  deriving DecidableEq

structure ExtProcPerRoute where
  disabled : Bool
  overrides : Option ExtProcOverrides
  deriving DecidableEq

/-! ## Rate limits -/

structure TokenBucket where
  maxTokens : Nat
  tokensPerFill : Nat
  fillInterval : Duration
  representable : fillInterval ≤ Duration.max
  deriving DecidableEq

structure LocalRateLimit where
  status : StatusCode := 429
  tokenBucket : Option TokenBucket
  deriving DecidableEq

/-! ## Access control -/

inductive Action where
  | allow
  | deny
  deriving DecidableEq

inductive Permission where
  | any
  | header (matcher : HeaderMatcher)
  deriving DecidableEq

inductive Principal where
  | any
  | header (matcher : HeaderMatcher)
  deriving DecidableEq

structure Policy where
  permissions : List Permission
  principals : List Principal
  deriving DecidableEq

/-- Policies are held in the lexicographical order of their names, in which they
are tried. -/
structure HttpRbac where
  action : Action
  policies : List (Text × Policy)
  deriving DecidableEq

section

variable [HttpCrate] [RegexEngine]

def Permission.isApplicable (permission : Permission) (request : Request Payload) : Option Bool :=
  match permission with
  | .any => some true
  | .header matcher => matcher.requestMatches request

def Principal.hasPrincipal (principal : Principal) (request : Request Payload) : Option Bool :=
  match principal with
  | .any => some true
  | .header matcher => matcher.requestMatches request

/-- Both lists are searched, whatever the first search says. -/
def Policy.enforce (policy : Policy) (request : Request Payload) : Option Bool := do
  let hasPermission ← policy.permissions.anyM fun permission =>
    permission.isApplicable request
  let hasPrincipal ← policy.principals.anyM fun principal =>
    principal.hasPrincipal request
  return hasPermission && hasPrincipal

def HttpRbac.enforcedPolicy (request : Request Payload) :
    List (Text × Policy) → Option (Option Text)
  | [] => some none
  | (name, policy) :: policies => do
      if ← policy.enforce request then
        return some name
      else
        enforcedPolicy request policies

def HttpRbac.isPermitted (rbac : HttpRbac) (request : Request Payload) :
    Option (Bool × Option Text) := do
  let enforced ← HttpRbac.enforcedPolicy request rbac.policies
  let permitted :=
    match rbac.action with
    | .allow => enforced.isSome
    | .deny => enforced.isNone
  return (permitted, enforced)

end

/-! ## Filters and their overrides -/

inductive HttpFilterType where
  | rbac (rbac : HttpRbac)
  | rateLimit (limit : LocalRateLimit)
  | ignored
  | peerMetadata
  | setFilterState
  | externalProcessor (processor : ExternalProcessor)
  deriving DecidableEq

structure HttpFilter where
  name : Text
  disabled : Bool
  filter : HttpFilterType
  deriving DecidableEq

inductive FilterConfigOverride where
  | localRateLimit (limit : LocalRateLimit)
  | rbac (rbac : Option HttpRbac)
  | externalProcessor (perRoute : ExtProcPerRoute)
  deriving DecidableEq

structure FilterOverride where
  disabled : Bool
  filterSettings : Option FilterConfigOverride
  deriving DecidableEq

/-! ## Routes -/

inductive PathSpecifier where
  | startingWith (text : Text)
  | exact (text : Text)
  | regex (regex : Regex)
  | pathSeparated (text : Text)
  deriving DecidableEq

structure PathMatcher where
  specifier : PathSpecifier
  ignoreCase : Bool
  deriving DecidableEq

inductive MethodSpecifier where
  | connect
  | get
  | post
  | put
  | delete
  | patch
  | head
  | options
  deriving DecidableEq

structure MethodMatcher where
  specifier : MethodSpecifier
  deriving DecidableEq

inductive QueryParameterMatchSpecifier where
  | presentMatch (present : Bool)
  | stringMatch (matcher : StringMatcher)
  deriving DecidableEq

structure QueryParameterMatcher where
  name : Text
  matchSpecifier : QueryParameterMatchSpecifier
  deriving DecidableEq

structure RouteMatch where
  pathMatcher : Option PathMatcher
  methodMatcher : Option MethodMatcher
  headers : List HeaderMatcher
  queryParameters : List QueryParameterMatcher
  deriving DecidableEq

inductive Websocket where
  | enabled
  | disabled
  deriving DecidableEq

structure RouteAction where
  timeout : Option Duration
  retryPolicy : Option RetryPolicy
  /-- The upgrade configuration, as far as it concerns websockets. -/
  upgradeConfig : Option (Option Websocket)
  deriving DecidableEq

inductive Route.Action where
  | route (action : RouteAction)
  | redirect
  | directResponse
  deriving DecidableEq

/-- A route, as far as the choice of its filters and of a retry policy is concerned.
Overrides are found by the name of the filter. -/
structure Route where
  name : Text
  routeMatch : RouteMatch
  typedPerFilterConfig : List (Text × FilterOverride)
  action : Route.Action
  deriving DecidableEq

def Route.overrideFor (route : Route) (name : Text) : Option FilterOverride :=
  route.typedPerFilterConfig.lookup name

structure VirtualHost where
  name : Text
  routes : List Route
  retryPolicy : Option RetryPolicy
  deriving DecidableEq

structure RouteConfiguration where
  name : Text
  virtualHosts : List VirtualHost
  deriving DecidableEq

def RouteConfiguration.routes (config : RouteConfiguration) : List Route :=
  config.virtualHosts.flatMap VirtualHost.routes

end Orion.Configuration
