import Orion.Configuration.HttpFilters
import Orion.Listeners.SyntheticResponse
import Orion.Transport.Failover

/-! # Protocol upgrades

A request is upgraded, or refused, by its first `Connection` and `Upgrade` lines only.
-/

namespace Orion.Listeners

open Foundation Http List Option SyntheticHttpResponse HttpCrate Orion.Configuration Transport

def Method.connect : Text := "CONNECT".toList

def upgrade : HeaderName := .ofText "upgrade".toList

def UPGRADE : Text := "upgrade".toList

def WEBSOCKET : Text := "websocket".toList

/-- The text is ASCII, so that lower-casing it has no effect on other letters. -/
def isUpgradeConnection (headerValue : Text) : Bool :=
  headerValue.toAsciiLower = UPGRADE

def isWebsocketUpgrade (headerValue : Text) : Bool :=
  headerValue.toAsciiLower = WEBSOCKET

def unreadable (header : Text) : Text :=
  header ++ " header value is not USASCII failed to convert header to a str".toList

def isValidWebsocketUpgradeRequest [HttpCrate] (headers : HeaderMap) : Except Text Bool :=
  match headers.get .connection, headers.get upgrade with
  | some connectionHeader, some upgradeHeader =>
    match headerValueToStr connectionHeader with
    | none => .error (unreadable "Connection".toList)
    | some connectionHeader =>
      match headerValueToStr upgradeHeader with
      | none => .error (unreadable "Upgrade".toList)
      | some upgradeHeader =>
        match isUpgradeConnection connectionHeader, isWebsocketUpgrade upgradeHeader with
        | true, true => .ok true
        | true, false => .error ("Upgrade header value is not valid: ".toList ++ upgradeHeader)
        | false, _ => .ok false
  | _, _ => .ok false

/-- An unreadable `Connection` line ends the check. -/
def filterDisallowedRequests [HttpCrate] (request : Request Payload) : Option (Response Body) :=
  if request.method = Method.connect then
    some ((forbidden "CONNECT not permitted".toList).intoResponse
      request.version)
  else do
    let connectionHeader ← request.headers.get .connection
    let text ← headerValueToStr connectionHeader
    if isUpgradeConnection text then
      some ((forbidden "upgrade not permitted".toList).intoResponse
        request.version)
    else
      none

/-! ## Tokens -/

/-- Some item of a list is the token, in any case of letters. -/
def ListsToken (headers : HeaderMap) (name : HeaderName) (token : Text) : Prop :=
  ∃ item ∈ HeaderMap.items headers name, item.all Ascii.isVisible ∧
    (Ascii.ofBytes item).toAsciiLower = token

/-- The first line is nothing but the token. -/
def StartsAsToken (headers : HeaderMap) (name : HeaderName) (token : Text) : Prop :=
  ∃ value, headers.get name = some value ∧ value.all Ascii.isVisible ∧
    (Ascii.ofBytes value).toAsciiLower = token

/-- Upgrades to websockets are found, and other ones refused. -/
def FindsUpgrades [HttpCrate] (request : Request Payload) : Prop :=
  (isValidWebsocketUpgradeRequest request.headers = .ok true ↔
    ListsToken request.headers .connection UPGRADE ∧
      ListsToken request.headers upgrade WEBSOCKET) ∧
  (ListsToken request.headers .connection UPGRADE →
    ¬ ListsToken request.headers upgrade WEBSOCKET →
      (filterDisallowedRequests request).isSome)

theorem StartsAsToken.listsToken {headers : HeaderMap} {token : Text}
    (clean : token ≠ [] ∧ ',' ∉ token ∧ ' ' ∉ token ∧ '\t' ∉ token)
    (starts : StartsAsToken headers name token) : ListsToken headers name token := by
  rcases starts with ⟨value, found, visible, same⟩
  refine ⟨value, mem_flatMap.mpr ⟨value, mem_of_mem_head? found, ?_⟩, visible, same⟩
  rw [listItems_of_clean]
  · exact mem_singleton_self value
  · rintro rfl
    exact clean.1 same.symm
  · intro byte member
    have inside : (Char.ofNat (byte.toNat % 128)).toLower ∈ token := by
      rw [← same]
      exact mem_map_of_mem (mem_map_of_mem member)
    constructor
    · rintro rfl
      exact clean.2.1 inside
    · simp only [isBlank, Bool.or_eq_false_iff, decide_eq_false_iff_not]
      constructor
      · rintro rfl
        exact clean.2.2.1 inside
      · rintro rfl
        exact clean.2.2.2 inside

section

variable [HeaderCrate]

theorem startsAsToken_iff (headers : HeaderMap) (name : HeaderName) (token : Text) :
    StartsAsToken headers name token ↔ ∃ text,
      (headers.get name).bind headerValueToStr = some text ∧
        text.toAsciiLower = token := by
  simp only [StartsAsToken, bind_eq_some_iff, HeaderCrate.headerValueToStr_eq]
  constructor
  · rintro ⟨value, found, visible, same⟩
    exact ⟨_, ⟨value, found, if_pos visible⟩, same⟩
  · rintro ⟨_, ⟨value, found, read⟩, same⟩
    rcases ite_none_right_eq_some.mp read with ⟨visible, ⟨⟩⟩
    exact ⟨value, found, visible, same⟩

theorem isValidWebsocketUpgradeRequest_iff (headers : HeaderMap) :
    isValidWebsocketUpgradeRequest headers = .ok true ↔
      StartsAsToken headers .connection UPGRADE ∧ StartsAsToken headers upgrade WEBSOCKET := by
  rw [startsAsToken_iff, startsAsToken_iff, isValidWebsocketUpgradeRequest]
  cases headers.get .connection with
  | none => simp
  | some connectionHeader =>
    cases headers.get upgrade with
    | none => simp
    | some upgradeHeader =>
      simp only [bind_some]
      cases headerValueToStr connectionHeader with
      | none => simp
      | some connection =>
        cases headerValueToStr upgradeHeader with
        | none => simp
        | some websocket =>
          simp only [isUpgradeConnection, isWebsocketUpgrade]
          split <;> simp_all

theorem filterDisallowedRequests_isSome_iff (request : Request Payload) :
    (filterDisallowedRequests request).isSome ↔ request.method = Method.connect ∨
      StartsAsToken request.headers .connection UPGRADE := by
  rw [startsAsToken_iff, filterDisallowedRequests]
  generalize intoResponse _ request.version = refusal
  generalize intoResponse _ request.version = refusal
  by_cases connect : request.method = Method.connect
  · simp [connect]
  · simp only [connect, if_false, false_or, bind_eq_bind, ← bind_assoc]
    cases (request.headers.get .connection).bind headerValueToStr with
    | none => simp
    | some text => simp [isUpgradeConnection]

/-- Upgrades are found exactly if no token stands elsewhere than alone in a first line. -/
theorem findsUpgrades_iff (request : Request Payload) :
    FindsUpgrades request ↔
      (ListsToken request.headers .connection UPGRADE →
        (ListsToken request.headers upgrade WEBSOCKET →
          StartsAsToken request.headers .connection UPGRADE ∧
            StartsAsToken request.headers upgrade WEBSOCKET) ∧
        (¬ ListsToken request.headers upgrade WEBSOCKET →
          request.method = Method.connect ∨
            StartsAsToken request.headers .connection UPGRADE)) := by
  have upgrades := @StartsAsToken.listsToken .connection request.headers UPGRADE (by decide)
  have websockets := @StartsAsToken.listsToken upgrade request.headers WEBSOCKET (by decide)
  have logic : ∀ {found listed alone only connect : Prop}, (alone → found) → (only → listed) →
      ((alone ∧ only ↔ found ∧ listed) ∧ (found → ¬ listed → connect ∨ alone) ↔
        (found → (listed → alone ∧ only) ∧ (¬ listed → connect ∨ alone))) := by
    tauto
  rw [FindsUpgrades, isValidWebsocketUpgradeRequest_iff, filterDisallowedRequests_isSome_iff]
  exact logic upgrades websockets

end

/-- A token that stands in a list is not seen. -/
theorem listed_upgrade_missed :
    letI := HeaderCrate.ascii
    let headers := [(.connection, Ascii.toBytes "keep-alive, Upgrade".toList),
      (upgrade, Ascii.toBytes "websocket".toList)]
    isValidWebsocketUpgradeRequest headers = .ok false ∧
      filterDisallowedRequests { Request.get "/".toList with headers } = none ∧
      (Ascii.toBytes "Upgrade".toList) ∈ HeaderMap.items headers .connection := by
  decide

/-! ## Forwarding a request

A request that was routed is handed to the channels of a cluster, unless it is answered
before.
-/

def hopByHopHeaders : List HeaderName :=
  [.connection, .ofText "proxy-authenticate".toList, .ofText "proxy-authorization".toList,
    .ofText "transfer-encoding".toList, upgrade]

/-- An answer, or the request without the headers that are meant for one hop. -/
def applyPreflightFunctions [HttpCrate] (request : Request Payload) :
    Response Body ⊕ Request Payload :=
  match filterDisallowedRequests request with
  | some directResponse => .inl directResponse
  | none => .inr { request with headers := hopByHopHeaders.foldl MultiMap.remove request.headers }

/-- What is done with a request: it is answered, or handed to the channels. -/
inductive Dispatched where
  | answered (response : Response Body)
  | handed (request : RequestExt)

structure MatchedRequest where
  request : Request Body
  retryPolicy : Option RetryPolicy
  websocketEnabledByDefault : Bool

end Orion.Listeners

namespace Orion.Configuration.RouteAction

open Foundation Http Listeners

variable [HttpCrate] (self : RouteAction) (matched : MatchedRequest)

def websocketEnabled (enabledViaHcm : Bool) : Bool :=
  match self.upgradeConfig with
  | some websocket =>
    websocket = some .enabled || (enabledViaHcm && websocket ≠ some .disabled)
  | none => enabledViaHcm

def shouldUpgradeWebsocket : Except Text Bool :=
  if self.websocketEnabled matched.websocketEnabledByDefault then
    isValidWebsocketUpgradeRequest matched.request.headers
  else
    .ok false

/-- The last part of `RouteAction::to_response`, with the request as it was rewritten. -/
def toResponse : Dispatched :=
  let badRequest := SyntheticHttpResponse.badRequest.intoResponse matched.request.version
  match self.shouldUpgradeWebsocket matched with
  | .error _ => .answered badRequest
  | .ok true =>
    if matched.request.version = .http11 then .handed ⟨matched.request, ⟨none, none⟩⟩
    else .answered badRequest
  | .ok false =>
    match applyPreflightFunctions matched.request with
    | .inl directResponse => .answered directResponse
    | .inr request => .handed ⟨request, ⟨self.timeout, matched.retryPolicy⟩⟩

/-- When a request is handed to the channels, and with which policy. -/
theorem toResponse_handed_iff (Holds : Option RetryPolicy → Prop) :
    (∀ handed, self.toResponse matched = .handed handed → Holds handed.ctx.retryPolicy) ↔
      (self.shouldUpgradeWebsocket matched = .ok true → matched.request.version = .http11 →
        Holds none) ∧
      (self.shouldUpgradeWebsocket matched = .ok false →
        filterDisallowedRequests matched.request = none → Holds matched.retryPolicy) := by
  rw [toResponse]
  cases self.shouldUpgradeWebsocket matched with
  | error error => simp
  | ok upgrades =>
    cases upgrades with
    | true => by_cases version : matched.request.version = .http11 <;> simp [version]
    | false =>
      rw [applyPreflightFunctions]
      cases filterDisallowedRequests matched.request <;> simp

end Orion.Configuration.RouteAction
