import Orion.ExtProc.MutationRules
import Orion.Listeners.SyntheticResponse

/-! # The external processor as a filter

The configuration of the filter, and what it exchanges with its worker: the task that it
hands over, with the headers that it forwards, and the status that it gets back.
-/

namespace Orion.ExtProc

open Foundation Http Orion.Configuration Listeners

/-! ## Effective configuration of an external processor

The settings of the filter and those of a route are merged once, when the
filter is built.
-/

structure OverridableModes where
  headerMode : HeaderProcessingMode
  bodyMode : BodyProcessingMode
  trailerMode : TrailerProcessingMode
  deriving DecidableEq

namespace OverridableModes

def shouldProcessBody (modes : OverridableModes) : Bool :=
  modes.bodyMode ≠ .none

def shouldProcessTrailers (modes : OverridableModes) : Bool :=
  match modes.trailerMode with
  | .default | .skip => false
  | .send => true

end OverridableModes

structure OverridableGlobalModes where
  request : OverridableModes
  response : OverridableModes
  deriving DecidableEq

def OverridableGlobalModes.ofProcessingMode (mode : ProcessingMode) :
    OverridableGlobalModes where
  request := ⟨mode.requestHeaderMode, mode.requestBodyMode, mode.requestTrailerMode⟩
  response := ⟨mode.responseHeaderMode, mode.responseBodyMode, mode.responseTrailerMode⟩

structure ExternalProcessingWorkerConfig where
  grpcServiceSpecifier : GrpcServiceSpecifier
  messageTimeout : Duration
  maxMessageTimeout : Option Duration
  observabilityMode : Bool
  failureModeAllow : Bool
  disableImmediateResponse : Bool
  mutationRules : HeaderMutationRules
  processingMode : ProcessingMode
  allowedOverrideModes : List ProcessingMode
  allowModeOverride : Bool
  routeCacheAction : RouteCacheAction
  sendBodyWithoutWaitingForHeaderResponse : Bool
  deriving DecidableEq

/-- The overrides of a route that count: those of a disabled override do not. -/
def ExtProcPerRoute.effective (perRoute : Option ExtProcPerRoute) : Option ExtProcOverrides :=
  match perRoute with
  | some perRoute => if perRoute.disabled then none else perRoute.overrides
  | none => none

def ExternalProcessingWorkerConfig.ofConfig (config : Configuration.ExternalProcessor)
    (perRoute : Option ExtProcPerRoute) : ExternalProcessingWorkerConfig :=
  let overrides := ExtProcPerRoute.effective perRoute
  let grpcService := (overrides.bind (·.grpcService)).getD config.grpcService
  { grpcServiceSpecifier := grpcService.serviceSpecifier
    messageTimeout := config.messageTimeout.getD (200 * 1000000)
    maxMessageTimeout := config.maxMessageTimeout
    observabilityMode := config.observabilityMode
    failureModeAllow := (overrides.bind (·.failureModeAllow)).getD config.failureModeAllow
    disableImmediateResponse := config.disableImmediateResponse
    mutationRules := config.mutationRules.getD {}
    processingMode := (overrides.bind (·.processingMode)).getD
      (config.processingMode.getD {})
    allowedOverrideModes := config.allowedOverrideModes
    allowModeOverride := config.allowModeOverride
    routeCacheAction := config.routeCacheAction
    sendBodyWithoutWaitingForHeaderResponse :=
      config.sendBodyWithoutWaitingForHeaderResponse }

/-- The filter as it is kept for a route; a worker is started per message. -/
structure ExternalProcessor where
  workerConfig : ExternalProcessingWorkerConfig
  forwardRules : Option HeaderForwardingRules
  overridableModes : OverridableGlobalModes
  deriving DecidableEq

def ExternalProcessor.ofConfig (config : Configuration.ExternalProcessor)
    (perRoute : Option ExtProcPerRoute) : ExternalProcessor :=
  let workerConfig := ExternalProcessingWorkerConfig.ofConfig config perRoute
  { workerConfig := workerConfig
    forwardRules := config.forwardRules
    overridableModes := .ofProcessingMode workerConfig.processingMode }

structure ReadyStatus where
  headersModifications : Option HeaderMutation := none
  clearRouteCache : Bool := false
  deriving DecidableEq

inductive ProcessingStatus where
  | requestReady (ready : ReadyStatus)
  | responseReady (ready : ReadyStatus)
  | haltedOnError
  | endWithDirectResponse (response : Response Body)
  deriving DecidableEq

structure ProcessingTask where
  headers : Option HeaderMap
  body : Body
  httpVersion : Version
  deriving DecidableEq

/-- Nothing is left to be read; only then does a body report its end in advance. -/
def isEndStream (body : Body) : Bool := decide (body = .empty)

namespace ExternalProcessor

variable [HttpCrate] [RegexEngine]

def shouldForwardHeader (rules : HeaderForwardingRules) (name : Text) : Option Bool :=
  if rules.disallowedHeaders ≠ [] then
    (rules.disallowedHeaders.anyM fun matcher : StringMatcher => matcher.matches name).map
      not
  else if rules.allowedHeaders ≠ [] then
    rules.allowedHeaders.anyM fun matcher => matcher.matches name
  else
    some true

/-- `none` is a panic of a rule, or of the allocation of the new map. -/
def filterHeaderMap (processor : ExternalProcessor) (headers : HeaderMap) : Option HeaderMap :=
  match processor.forwardRules with
  | none => some headers
  | some rules =>
    if rules.allowedHeaders = [] ∧ rules.disallowedHeaders = [] then
      some headers
    else if HeaderMap.hasCapacity headers.length then
      headers.filterM fun entry => shouldForwardHeader rules entry.1.text
    else
      none

end ExternalProcessor

end Orion.ExtProc
