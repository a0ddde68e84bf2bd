import Orion.Listeners.FilterComposition

/-! # Who a connection comes from

Access control takes the address that a PROXY protocol header declares for the address of
the peer. -/

namespace Orion.Configuration.Network

open Foundation List Option

/-! ## What a decision depends on -/

def Permission.ignoresDestination : Permission → Bool
  | .any | .serverName _ => true
  | .destinationIp _ | .destinationPort _ | .destinationPortRange _ _ => false

def Principal.isDirect : Principal → Bool
  | .downstreamRemoteIp _ => true
  | .any => false

/-- The policies only look at who a connection comes from, and not at where it goes. -/
def NetworkRbac.DirectOnly (rbac : NetworkRbac) : Prop :=
  ∀ policy ∈ rbac.policies,
    (∀ permission ∈ policy.2.permissions, permission.ignoresDestination = true) ∧
      ∀ principal ∈ policy.2.principals, principal.isDirect = true

def NetworkRbac.permits [RegexEngine] (rbac : NetworkRbac) (context : NetworkContext) :
    Option Bool :=
  (rbac.isPermitted context).map Prod.fst

section

variable {left right : NetworkContext} (sameIp : left.downstream.ip.bits = right.downstream.ip.bits)
  (sameName : left.serverName = right.serverName)

include sameIp in
theorem Principal.hasPrincipal_congr (principal : Principal) :
    principal.hasPrincipal left = principal.hasPrincipal right := by
  cases principal with
  | any => rfl
  | downstreamRemoteIp net => exact net.contains_congr sameIp

variable [RegexEngine]

include sameName in
theorem Permission.isApplicable_congr {permission : Permission}
    (ignores : permission.ignoresDestination = true) :
    permission.isApplicable left = permission.isApplicable right := by
  cases permission with
  | any => rfl
  | serverName matcher => rw [isApplicable, isApplicable, sameName]
  | destinationIp | destinationPort | destinationPortRange => exact absurd ignores nofun

include sameIp sameName

theorem Policy.enforce_congr {policy : Policy}
    (ignores : ∀ permission ∈ policy.permissions, permission.ignoresDestination) :
    policy.enforce left = policy.enforce right := by
  have permissions : policy.permissions.anyM (·.isApplicable left) =
      policy.permissions.anyM (·.isApplicable right) :=
    anyM_congr fun permission member =>
      Permission.isApplicable_congr sameName (ignores permission member)
  have principals : (fun principal : Principal => principal.hasPrincipal left) =
      fun principal => principal.hasPrincipal right := by
    funext principal
    exact principal.hasPrincipal_congr sameIp
  rw [enforce, enforce, permissions, principals]

/-- Only the address and the server name matter to policies that do not look at anything
else. -/
theorem NetworkRbac.permits_congr {rbac : NetworkRbac} (direct : rbac.DirectOnly) :
    rbac.permits left = rbac.permits right := by
  have enforced : rbac.policies.findM? (·.2.enforce left) =
      rbac.policies.findM? (·.2.enforce right) :=
    findM?_congr fun policy member =>
      Policy.enforce_congr sameIp sameName (direct policy member).1
  rw [permits, permits, isPermitted, isPermitted, enforced]

end

/-! ## What decisions distinguish -/

def allowOnly (permission : Permission) (net : IpNet) : NetworkRbac :=
  ⟨.allow, [("only".toList, ⟨[permission], [.downstreamRemoteIp net]⟩)]⟩

theorem allowOnly_directOnly {permission : Permission} (net : IpNet)
    (ignores : permission.ignoresDestination) : (allowOnly permission net).DirectOnly := by
  intro policy member
  rw [allowOnly, mem_singleton] at member
  subst member
  simp [ignores, Principal.isDirect]

section

variable [RegexEngine]

theorem permits_allowOnly (known : permission.isApplicable context = some applicable) :
    (allowOnly permission net).permits context =
      some (applicable && net.contains context.downstream.ip) := by
  have enforced : Policy.enforce ⟨[permission], [.downstreamRemoteIp net]⟩ context =
      some (applicable && net.contains context.downstream.ip) := by
    rw [Policy.enforce, anyM_cons, known]
    cases applicable <;> simp [Principal.hasPrincipal]
  rw [NetworkRbac.permits, NetworkRbac.isPermitted, allowOnly, findM?, enforced]
  cases applicable && net.contains context.downstream.ip <;> rfl

def exactly (name : Text) : Permission := .serverName ⟨false, .exact name⟩

theorem isApplicable_exactly (name : Text) (context : NetworkContext) :
    (exactly name).isApplicable context = some (decide (context.serverName = some name)) := by
  rw [exactly, Permission.isApplicable]
  cases context.serverName with
  | none => rfl
  | some other =>
    have same : (other == name) = decide (other = name) := by
      rw [Bool.eq_iff_iff, beq_iff_eq, decide_eq_true_iff]
    simp [StringMatcher.matches, CaseSensitive.equals, same]

/-- Policies can tell any two addresses and any two server names apart. -/
theorem permits_iff :
    (∀ rbac : NetworkRbac, rbac.DirectOnly → rbac.permits left = rbac.permits right) ↔
      left.downstream.ip.bits = right.downstream.ip.bits ∧ left.serverName = right.serverName := by
  constructor
  · intro alike
    have sameIp : left.downstream.ip.bits = right.downstream.ip.bits := by
      have decisions := alike _ (allowOnly_directOnly (IpNet.host left.downstream.ip)
        (show Permission.any.ignoresDestination from rfl))
      rw [permits_allowOnly rfl, permits_allowOnly rfl, Bool.true_and, Bool.true_and,
        IpNet.host_contains_iff.mpr rfl] at decisions
      exact IpNet.host_contains_iff.mp (some.inj decisions).symm
    refine ⟨sameIp, ?_⟩
    have names : ∀ name, left.serverName = some name ↔ right.serverName = some name := by
      intro name
      have decisions := alike _ (allowOnly_directOnly (IpNet.host left.downstream.ip)
        (show (exactly name).ignoresDestination from rfl))
      rw [permits_allowOnly (isApplicable_exactly name left),
        permits_allowOnly (isApplicable_exactly name right), IpNet.host_contains_iff.mpr rfl,
        IpNet.host_contains_iff.mpr sameIp, Bool.and_true, Bool.and_true] at decisions
      exact decide_eq_decide.mp (some.inj decisions)
    exact ext names
  · rintro ⟨sameIp, sameName⟩ rbac direct
    exact NetworkRbac.permits_congr sameIp sameName direct

end

end Orion.Configuration.Network

namespace Orion.Listeners

open Foundation Http Transport Orion.Configuration Configuration.Network

namespace ListenerFilters

/-! ## The address that is declared -/

/-- Where a connection with a header comes from, as far as its filter chain knows. -/
def declaredSource [Ppp] (filters : ListenerFilters) (header : ValidHeader)
    (peerAddress : SocketAddr) : SocketAddr :=
  if filters.withTlvListenerFilter then
    peerAddress
  else
    match filters.proxyProtocolConfig with
    | none => peerAddress
    | some config =>
      if header.version ∈ config.disallowedVersions then peerAddress
      else (header.result.endpoints?.map IpEndpoints.source).getD peerAddress

variable {filters : ListenerFilters} {accepted : Accepted}

theorem peerAddress_of_readTlvs (unfailing : stream.failure? = none)
    (read : filters.readTlvs accepted metadata stream = .ok (found, handed)) :
    found.peerAddress =
      if filters.withTlvListenerFilter then accepted.peerAddress else metadata.peerAddress := by
  rw [readTlvs] at read
  cases tlvs : filters.withTlvListenerFilter with
  | false =>
    rw [tlvs] at read
    cases read
    rfl
  | true =>
    rw [tlvs, if_pos rfl] at read
    rcases TlvListenerFilter.processStream_cases unfailing accepted.localAddress
      accepted.peerAddress with ⟨error, failed⟩ | ⟨rest, other, result, source, _⟩
    · rw [failed] at read
      cases read
    · rw [result] at read
      cases read
      exact source

theorem peerAddress_of_strip [Ppp] {header : ValidHeader}
    (unfailing : stream.failure? = none) (input : stream.contents = header.bytes ++ payload)
    (stripped : filters.strip accepted stream = .ok (metadata, handed)) :
    metadata.peerAddress = filters.declaredSource header accepted.peerAddress := by
  rw [declaredSource]
  cases configured : filters.proxyProtocolConfig with
  | none =>
    rw [strip, readProxyHeader, configured] at stripped
    exact peerAddress_of_readTlvs unfailing stripped
  | some config =>
    by_cases readable : header.Readable config
    · rcases strip_of_readable configured unfailing input accepted readable with
        ⟨declared, same, source, _, still⟩
      rw [same] at stripped
      rw [peerAddress_of_readTlvs still stripped, source]
      simp only [readable.allowed, if_false]
    · rcases strip_of_not_readable configured unfailing input accepted readable with
        ⟨error, failed⟩ | ⟨tlvs, disallowed, rest, kept, _⟩
      · rw [failed] at stripped
        cases stripped
      · rw [kept] at stripped
        cases stripped
        simp only [tlvs, disallowed, if_true]
        rfl

theorem networkContext_of_process [Acceptor] [Ppp] {header : ValidHeader}
    (split : chunks.flatten = header.bytes ++ payload)
    (processed : filters.process accepted (.ofChunks chunks) = .ok (connection, handed)) :
    connection.networkContext.downstream =
        filters.declaredSource header accepted.peerAddress ∧
      connection.networkContext.serverName = (filters.inspect (.ofChunks chunks)).1 := by
  rcases filters.inspect_keeps (.ofChunks chunks) with ⟨kept, still⟩
  rw [process_eq, map_eq_ok_iff] at processed
  rcases processed with ⟨⟨metadata, rest⟩, stripped, ⟨⟩⟩
  have input := kept.trans ((ReadStream.contents_ofChunks chunks).trans split)
  exact ⟨peerAddress_of_strip (still (ReadStream.failure?_ofChunks chunks)) input stripped, rfl⟩

/-- Connections with different headers are treated alike exactly when the headers declare
the same source, and do not change the server name that is found. -/
theorem permits_alike_iff [RegexEngine] [Acceptor] [Ppp] (filters : ListenerFilters)
    (accepted : Accepted) (first second : ValidHeader) (payload : Bytes)
    (firstChunks secondChunks : List Bytes)
    (firstSplit : firstChunks.flatten = first.bytes ++ payload)
    (secondSplit : secondChunks.flatten = second.bytes ++ payload)
    (firstConnection secondConnection : FilterChains.Connection)
    (firstHanded secondHanded : AsyncStream)
    (firstProcessed : filters.process accepted (.ofChunks firstChunks) =
      .ok (firstConnection, firstHanded))
    (secondProcessed : filters.process accepted (.ofChunks secondChunks) =
      .ok (secondConnection, secondHanded)) :
    (∀ rbac : NetworkRbac, rbac.DirectOnly → rbac.permits firstConnection.networkContext =
        rbac.permits secondConnection.networkContext) ↔
    (filters.declaredSource first accepted.peerAddress).ip.bits =
        (filters.declaredSource second accepted.peerAddress).ip.bits ∧
      (filters.inspect (.ofChunks firstChunks)).1 =
        (filters.inspect (.ofChunks secondChunks)).1 := by
  rcases networkContext_of_process firstSplit firstProcessed with ⟨firstSource, firstName⟩
  rcases networkContext_of_process secondSplit secondProcessed with ⟨secondSource, secondName⟩
  rw [permits_iff, firstSource, firstName, secondSource, secondName]

/-! ### Headers of one client -/

section

def forged (source : SocketAddr) : IpEndpoints := ⟨source, ⟨.v4 [192, 0, 2, 2], 443⟩⟩

def forgedHeader (source : SocketAddr) (valid : (forged source).Valid) :
    @ValidHeader Ppp.wireFormat :=
  letI := Ppp.wireFormat
  ⟨.v1, encodeV1 (forged source), .v1 (.ok (.tcp (forged source))), v1Framed_encode valid,
    wireFormat_implements.parse_v1 _ valid, rfl⟩

def headerOnly : ListenerFilters := ⟨false, some ⟨false, [], none⟩, false⟩

def client : Accepted := ⟨⟨.v4 [192, 0, 2, 2], 443⟩, ⟨.v4 [203, 0, 113, 9], 51034⟩, none⟩

def sent (source : SocketAddr) : List Bytes := [encodeV1 (forged source) ++ [71]]

/-- The connection of the client with a header, as its filter chain sees it. -/
def seen (source : SocketAddr) : FilterChains.Connection :=
  ⟨.proxyProtocol source ⟨.v4 [192, 0, 2, 2], 443⟩ .stream ∅ client.peerAddress
    client.localAddress, none, .rawBuffer⟩

theorem flatten_sent (source : SocketAddr) :
    (sent source).flatten = encodeV1 (forged source) ++ [71] :=
  List.flatten_singleton

theorem process_sent [Acceptor] {source : SocketAddr} (valid : (forged source).Valid) :
    letI := Ppp.wireFormat
    headerOnly.process client (.ofChunks (sent source)) =
      .ok (seen source, ReadStream.advance (encodeV1 (forged source)).length
        (.ofChunks (sent source))) := by
  let _ := Ppp.wireFormat
  have input : (ReadStream.ofChunks (sent source)).ready = encodeV1 (forged source) ++ [71] :=
    (ReadStream.ofChunks_spec _).1.trans (flatten_sent source)
  have framed : Framed .v1 _ := v1Framed_encode valid
  have read := @ProxyProtocolReader.tryReadProxyHeader_of_allowed _ _ _ ⟨⟨false, [], none⟩⟩ _ _
    input framed client.localAddress client.peerAddress _
    (Nat.le_trans (length_encodeV1 valid) (by decide)) List.not_mem_nil
    (wireFormat_implements.parse_v1 _ valid)
  rw [process_eq, strip, readProxyHeader]
  change (Except.bind (ProxyProtocolReader.tryReadProxyHeader ⟨⟨false, [], none⟩⟩
    (.ofChunks (sent source)) client.localAddress client.peerAddress) _).map _ = _
  rw [read]
  rfl

def internal : SocketAddr := ⟨.v4 [10, 0, 0, 1], 40000⟩
def alsoInternal : SocketAddr := ⟨.v4 [10, 0, 0, 1], 40001⟩
def external : SocketAddr := ⟨.v4 [203, 0, 113, 9], 40000⟩

def internalOnly : NetworkRbac :=
  ⟨.allow, [("internal".toList,
    ⟨[.any], [.downstreamRemoteIp ⟨.v4 [10, 0, 0, 0], 8, by decide⟩]⟩)]⟩

theorem permits_alike_internal :
    letI := Ppp.wireFormat
    letI := handshakeAcceptor
    letI := RegexEngine.literal
    (headerOnly.process client (.ofChunks (sent internal))).map Prod.fst = .ok (seen internal) ∧
      (headerOnly.process client (.ofChunks (sent alsoInternal))).map Prod.fst =
        .ok (seen alsoInternal) ∧
      ∀ rbac : NetworkRbac, rbac.DirectOnly →
        rbac.permits (seen internal).networkContext =
          rbac.permits (seen alsoInternal).networkContext := by
  let _ := Ppp.wireFormat
  let _ := handshakeAcceptor
  let _ := RegexEngine.literal
  have valid : (forged internal).Valid := by decide
  have alsoValid : (forged alsoInternal).Valid := by decide
  have first := process_sent valid
  have second := process_sent alsoValid
  have alike := permits_alike_iff headerOnly client (forgedHeader internal valid)
    (forgedHeader alsoInternal alsoValid) [71] (sent internal) (sent alsoInternal)
    (flatten_sent internal) (flatten_sent alsoInternal) _ _ _ _ first second
  have inspected : ∀ chunks, (headerOnly.inspect (.ofChunks chunks)).1 = none := fun _ => rfl
  refine ⟨by rw [first]; rfl, by rw [second]; rfl, alike.mpr ⟨?_, ?_⟩⟩
  · change internal.ip.bits = alsoInternal.ip.bits
    decide
  · rw [inspected, inspected]

/-- One client is let in or not, as it declares. -/
theorem declared_source_permits :
    letI := Ppp.wireFormat
    letI := handshakeAcceptor
    letI := RegexEngine.literal
    (headerOnly.process client (.ofChunks (sent internal))).map Prod.fst = .ok (seen internal) ∧
      (headerOnly.process client (.ofChunks (sent external))).map Prod.fst = .ok (seen external) ∧
      internalOnly.DirectOnly ∧
      internalOnly.permits (seen internal).networkContext = some true ∧
      internalOnly.permits (seen external).networkContext = some false := by
  have first := @process_sent handshakeAcceptor internal (by decide)
  have second := @process_sent handshakeAcceptor external (by decide)
  refine ⟨by rw [first]; rfl, by rw [second]; rfl, ?_, by decide +kernel, by decide +kernel⟩
  simp [NetworkRbac.DirectOnly, internalOnly, Permission.ignoresDestination, Principal.isDirect]

end

end ListenerFilters

end Orion.Listeners
