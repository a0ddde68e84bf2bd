import Orion.Clusters.Rebuild

/-! # Discovered and configured endpoints

A cluster may have its endpoints from its configuration, or be added without them and
be given them by discovery. The two ways lead through different builders, and what is
discovered does not get all the settings of the cluster.
-/

namespace Orion.Clusters

open Foundation Http Orion.Configuration Tls PartialClusterType LocalityLbEndpoints List Option
  LbEndpointBuilder HttpChannelBuilder ClusterType

def ClusterType.served (cluster : ClusterType) : Option (BalancerType × List LocalityLbEndpoints) :=
  cluster.loadAssignment.map fun loadAssignment =>
    (loadAssignment.balancer, loadAssignment.endpoints)

section

variable [TlsPlatform] [HttpCrate] [ChannelCrates] [BalancerCrates] [HashMapOrder]

section

variable (profile : BuildProfile) (clusters : ClustersMap) (secrets : SecretManager)
  (config : ClusterConfig) (cla : ClusterLoadAssignmentConfig)

/-- Add a cluster with endpoints to be discovered, then give it a load assignment;
`none` if one of the two fails. -/
def ClustersMap.discover :
    Option ClusterType := do
  let partialCluster ← ofConfig
    { config with discoverySettings := .eds none } secrets
  let (added, clusters) := clusters.addCluster profile partialCluster
  let _ ← added.toOption
  (clusters.changeClusterLoadAssignment profile config.name (.ofConfig cla)).1.toOption

def ClustersMap.configure :
    Option ClusterType := do
  let partialCluster ← ofConfig
    { config with discoverySettings := .static cla } secrets
  (clusters.addCluster profile partialCluster).1.toOption

end

/-- The settings that discovery does not pass on are those it uses instead. The server
name only matters to HTTP over TLS, for endpoints that have an authority. -/
structure ClusterConfig.KeptByDiscovery (config : ClusterConfig)
    (socket : UpstreamTransportSocketConfigurator) (cla : ClusterLoadAssignmentConfig) :
    Prop where
  protocolOptions : config.httpProtocolOptions = {}
  connectTimeout : config.connectTimeout = none
  serverName : ∀ configurator name, socket = .tls configurator →
    ChannelCrates.serverNameFromStr configurator.contextBuilder.sni = some name →
    ∀ locality ∈ cla.endpoints, ∀ endpoint ∈ locality.lbEndpoints, ∀ hostname port authority,
      endpoint.address = .socket hostname port →
      HttpCrate.authorityFromStr (authorityText hostname port) =
        some authority →
      defaultServerName authority = name

end

section

variable [HttpCrate] [ChannelCrates]

/-! ## Server names -/

/-- The server name is the one that is used when none is given. -/
def LbEndpointBuilder.NameImplied (builder : LbEndpointBuilder) : Prop :=
  ∀ configurator name hostname port authority, builder.transportSocket = .tls configurator →
    builder.serverName = some name → builder.endpoint.address = .socket hostname port →
    HttpCrate.authorityFromStr (authorityText hostname port) = some authority →
    defaultServerName authority = name

theorem LbEndpointBuilder.build_unnamed_iff (builder : LbEndpointBuilder) :
    build { builder with serverName := none } = builder.build ↔
      builder.NameImplied := by
  rcases builder with ⟨clusterName, ⟨address, options, weight, health⟩, protocol, socket,
    serverName, timeout⟩
  constructor
  · rintro same configurator name hostname port authority ⟨⟩ ⟨⟩ ⟨⟩ parsed
    simp only [build, buildAddress, parsed, buildChannels, channelTls,
      HttpChannelBuilder.build, HttpChannelBuilder.buildChannelFromAuthority, bind,
      Except.bind, pure, Except.pure] at same
    simpa [HttpChannelBuilder.configureHyperClient] using same
  · intro implied
    cases serverName with
    | none => rfl
    | some name =>
      cases address with
      | socket hostname port =>
        cases parsed : HttpCrate.authorityFromStr (authorityText hostname port) with
        | none => simp only [build, buildAddress, parsed]
        | some authority =>
          cases socket with
          | tls configurator =>
            have same := implied configurator name hostname port authority rfl rfl rfl parsed
            subst same
            simp only [build, buildAddress, parsed]
            rfl
          | proxyProtocol configurator | none =>
            rfl
      | pipe | internal => rfl

/-! ## Localities -/

namespace LocalityLbEndpointsBuilder

theorem build_settings {builder : LocalityLbEndpointsBuilder}
    (built : builder.build = .ok locality) :
    locality.httpProtocolOptions = builder.httpProtocolOptions ∧
      locality.connectionTimeout = builder.connectionTimeout := by
  rcases bind_eq_ok_iff.mp built with ⟨endpoints, _, counting⟩
  split at counting
  · cases counting
  · cases counting
    exact ⟨rfl, rfl⟩

omit [HttpCrate] [ChannelCrates] in
theorem endpointBuilder_unnamed (builder : LocalityLbEndpointsBuilder)
    (endpoint : PartialLbEndpoint) :
    endpointBuilder { builder with serverName := none } endpoint =
      { builder.endpointBuilder endpoint with serverName := none } := by
  simp only [endpointBuilder, UpstreamTransportSocketConfigurator.serverName]
  split <;> rfl

theorem build_unnamed {builder : LocalityLbEndpointsBuilder}
    (implied : ∀ endpoint ∈ builder.endpoints.endpoints,
      (builder.endpointBuilder endpoint).NameImplied) :
    LocalityLbEndpointsBuilder.build { builder with serverName := none } = builder.build := by
  have same : builder.endpoints.endpoints.mapM (fun endpoint =>
      (endpointBuilder { builder with serverName := none } endpoint).build) =
      builder.endpoints.endpoints.mapM fun endpoint =>
        (builder.endpointBuilder endpoint).build := by
    apply mapM_congr
    intro endpoint member
    rw [endpointBuilder_unnamed]
    exact (build_unnamed_iff _).mpr (implied endpoint member)
  simp only [LocalityLbEndpointsBuilder.build, same]

end LocalityLbEndpointsBuilder

/-! ## Load assignments -/

/-- The builder by which a cluster with a configuration gets discovered endpoints. -/
def ClusterConfig.discoveredBuilder (config : ClusterConfig)
    (socket : UpstreamTransportSocketConfigurator) (cla : ClusterLoadAssignmentConfig) :
    ClusterLoadAssignmentBuilder :=
  (dynamicBuilder config socket).build.assignmentBuilder (.ofConfig cla)

namespace ClusterConfig

variable {config : ClusterConfig} {cla : ClusterLoadAssignmentConfig}

omit [HttpCrate] in
/-- With default settings the two builders differ in the server name only. -/
theorem localityBuilder_unnamed (protocolOptions : config.httpProtocolOptions = {})
    (connectTimeout : config.connectTimeout = none) (locality : PartialLocalityLbEndpoints) :
    (config.discoveredBuilder socket cla).localityBuilder locality =
      { (loadAssignmentBuilder config socket cla).localityBuilder locality with
        serverName := none } := by
  simp only [loadAssignmentBuilder,
    ClusterLoadAssignmentBuilder.localityBuilder, protocolOptions, connectTimeout,
    UpstreamTransportSocketConfigurator.serverName]
  split <;> rfl

/-- The server name is passed on where the name from the authority is the same. -/
theorem nameImplied_of_kept (kept : config.KeptByDiscovery socket cla)
    (listed : locality ∈ cla.endpoints) :
    ∀ endpoint ∈ (PartialLocalityLbEndpoints.ofConfig locality).endpoints,
      (((loadAssignmentBuilder config socket cla).localityBuilder
        (.ofConfig locality)).endpointBuilder endpoint).NameImplied := by
  rintro endpoint member configurator name hostname port authority ⟨⟩ named addressed parsed
  rcases mem_map.mp member with ⟨original, known, rfl⟩
  exact kept.serverName configurator name rfl named locality listed original known hostname
    port authority addressed parsed

theorem kept_of_nameImplied (protocolOptions : config.httpProtocolOptions = {})
    (connectTimeout : config.connectTimeout = none) (implied : ∀ locality ∈ cla.endpoints,
      ∀ endpoint ∈ (PartialLocalityLbEndpoints.ofConfig locality).endpoints,
        (((loadAssignmentBuilder config socket cla).localityBuilder
          (.ofConfig locality)).endpointBuilder endpoint).NameImplied) :
    config.KeptByDiscovery socket cla := by
  refine ⟨protocolOptions, connectTimeout, ?_⟩
  rintro configurator name rfl named locality listed endpoint known hostname port authority
    addressed parsed
  exact implied locality listed _ (mem_map_of_mem known) configurator name hostname port
    authority rfl named addressed parsed

theorem settings_of_same (configured : ((loadAssignmentBuilder config socket cla).localityBuilder
      (.ofConfig locality)).build = .ok built)
    (discovered : ((config.discoveredBuilder socket cla).localityBuilder
      (.ofConfig locality)).build = .ok built) :
    config.httpProtocolOptions = {} ∧ config.connectTimeout = none := by
  rcases LocalityLbEndpointsBuilder.build_settings configured with ⟨options, timeout⟩
  rcases LocalityLbEndpointsBuilder.build_settings discovered with ⟨options', timeout'⟩
  exact ⟨options.symm.trans options', timeout.symm.trans timeout'⟩

theorem nameImplied_of_same (protocolOptions : config.httpProtocolOptions = {})
    (connectTimeout : config.connectTimeout = none)
    (configured : ((loadAssignmentBuilder config socket cla).localityBuilder
      (.ofConfig locality)).build = .ok built)
    (discovered : ((config.discoveredBuilder socket cla).localityBuilder
      (.ofConfig locality)).build = .ok built) :
    ∀ endpoint ∈ (PartialLocalityLbEndpoints.ofConfig locality).endpoints,
      (((loadAssignmentBuilder config socket cla).localityBuilder
        (.ofConfig locality)).endpointBuilder endpoint).NameImplied := by
  rw [localityBuilder_unnamed protocolOptions connectTimeout] at discovered
  intro endpoint member
  rcases partner_of_both (LocalityLbEndpointsBuilder.build_builds configured).endpoints
    (LocalityLbEndpointsBuilder.build_builds discovered).endpoints member with
    ⟨result, named, unnamed⟩
  rw [LocalityLbEndpointsBuilder.endpointBuilder_unnamed] at unnamed
  exact (build_unnamed_iff _).mp (unnamed.trans named.symm)

/-- The endpoints built are the same exactly if there are none, or all settings are kept. -/
theorem buildLocalities_agree_iff (configured : (loadAssignmentBuilder config socket
      cla).buildLocalities = .ok localities) :
    (config.discoveredBuilder socket cla).buildLocalities = .ok localities ↔
      cla.endpoints = [] ∨ config.KeptByDiscovery socket cla := by
  constructor
  · intro discovered
    have matched : ∀ locality ∈ cla.endpoints, ∃ built,
        ((loadAssignmentBuilder config socket cla).localityBuilder
          (.ofConfig locality)).build = .ok built ∧
        ((config.discoveredBuilder socket cla).localityBuilder
          (.ofConfig locality)).build = .ok built := fun locality listed =>
      partner_of_both (mapM_eq_ok_iff.mp configured) (mapM_eq_ok_iff.mp discovered)
        (mem_map_of_mem listed)
    cases listed : cla.endpoints with
    | nil => exact .inl rfl
    | cons first rest =>
      rcases matched first (by simp [listed]) with ⟨built, configuredFirst, discoveredFirst⟩
      rcases settings_of_same configuredFirst discoveredFirst with ⟨options, timeout⟩
      refine .inr (kept_of_nameImplied options timeout fun locality member => ?_)
      rcases matched locality member with ⟨built, configured, discovered⟩
      exact nameImplied_of_same options timeout configured discovered
  · rintro (empty | kept)
    · rw [← configured]
      simp [ClusterLoadAssignmentBuilder.buildLocalities, discoveredBuilder,
        DynamicCluster.assignmentBuilder, loadAssignmentBuilder,
        PartialClusterLoadAssignment.ofConfig, empty]
    · rw [← configured]
      apply mapM_congr
      intro locality member
      rcases mem_map.mp member with ⟨original, listed, rfl⟩
      rw [localityBuilder_unnamed kept.protocolOptions kept.connectTimeout]
      exact LocalityLbEndpointsBuilder.build_unnamed (nameImplied_of_kept kept listed)

end ClusterConfig

/-! ## Whether a load assignment can be built -/

theorem LbEndpointBuilder.build_healthStatus {builder : LbEndpointBuilder}
    {endpoint : LbEndpoint} (built : builder.build = .ok endpoint) :
    endpoint.healthStatus = builder.endpoint.healthStatus := by
  rcases bind_eq_ok_iff.mp built with ⟨_, _, ⟨⟩⟩
  rfl

namespace LocalityLbEndpointsBuilder

theorem mapM_healthStatus {builder : LocalityLbEndpointsBuilder}
    {partials : List PartialLbEndpoint} {endpoints : List LbEndpoint}
    (mapped : (partials.mapM fun endpoint => (builder.endpointBuilder endpoint).build) =
      .ok endpoints) :
    endpoints.map Endpoint.health = partials.map PartialLbEndpoint.healthStatus := by
  have matched := mapM_eq_ok_iff.mp mapped
  clear mapped
  induction matched with
  | nil => rfl
  | cons pair _ induction =>
    rw [map_cons, map_cons, induction]
    exact congrArg (· :: _) (build_healthStatus pair)

theorem build_alike {builder other : LocalityLbEndpointsBuilder}
    (same : builder.endpoints = other.endpoints) (built : builder.build = .ok locality) :
    ∃ locality', other.build = .ok locality' ∧
      locality.toLocalityEndpoints.Alike locality'.toLocalityEndpoints := by
  rcases bind_eq_ok_iff.mp built with ⟨endpoints, mapped, counting⟩
  rw [same] at mapped counting
  have buildable : ∀ endpoint ∈ other.endpoints.endpoints,
      ∃ built, (other.endpointBuilder endpoint).build = .ok built := by
    intro endpoint member
    rcases partner_of_left (mapM_eq_ok_iff.mp mapped) member with ⟨built, _, pair⟩
    have parses := (build_isOk_iff _).mp ⟨built, pair⟩
    exact (build_isOk_iff _).mpr parses
  rcases mapM_isOk buildable with ⟨endpoints', mapped'⟩
  have health := (mapM_healthStatus mapped).trans (mapM_healthStatus mapped').symm
  split at counting
  · cases counting
  · rename_i counted localityBuilt
    cases counting
    rcases LocalityEndpoints.build_alike health localityBuilt with ⟨counted', built', alike⟩
    refine ⟨⟨counted', other.clusterName, other.transportSocket, other.httpProtocolOptions,
      other.connectionTimeout⟩, bind_eq_ok_iff.mpr ⟨endpoints', mapped', ?_⟩, alike⟩
    simp only [built']
    rfl

end LocalityLbEndpointsBuilder

namespace ClusterLoadAssignmentBuilder

variable {localities : List LocalityLbEndpoints}

theorem buildLocalities_alike {builder other : ClusterLoadAssignmentBuilder}
    (same : builder.cla = other.cla) (built : builder.buildLocalities = .ok localities) :
    ∃ localities', other.buildLocalities = .ok localities' ∧
      List.Forall₂ LocalityEndpoints.Alike
        (localities.map toLocalityEndpoints) (localities'.map toLocalityEndpoints) := by
  unfold buildLocalities at built ⊢
  rw [same] at built
  have matched := mapM_eq_ok_iff.mp built
  clear built
  generalize other.cla.endpoints = partials at matched ⊢
  induction matched with
  | nil => exact ⟨[], rfl, .nil⟩
  | @cons endpoints _ _ _ pair _ induction =>
    rcases induction with ⟨localities', mapped, alike⟩
    have same : (builder.localityBuilder endpoints).endpoints =
      (other.localityBuilder endpoints).endpoints := rfl
    rcases LocalityLbEndpointsBuilder.build_alike same pair with ⟨locality', built, first⟩
    refine ⟨locality' :: localities', ?_, .cons first alike⟩
    exact mapM_eq_ok_iff.mpr (.cons built (mapM_eq_ok_iff.mp mapped))

variable [BalancerCrates] [HashMapOrder] {profile : BuildProfile}

section

variable {others : List LocalityLbEndpoints}
  (alike : List.Forall₂ LocalityEndpoints.Alike (localities.map toLocalityEndpoints)
    (others.map toLocalityEndpoints))

include alike

omit [HttpCrate] [ChannelCrates] in
theorem buildFromPolicy_isOk_of_alike
    (built : StandardBalancer.buildFromPolicy profile policy localities = .ok balancer) :
    ∃ balancer', StandardBalancer.buildFromPolicy profile policy others = .ok balancer' := by
  cases policy <;> rcases map_eq_ok_iff.mp built with ⟨self, sliced, _⟩ <;>
    exact map_isOk (DefaultBalancer.fromSlice_isOk_of_alike alike ⟨self, sliced⟩)

omit [HttpCrate] [ChannelCrates] in
theorem buildBalancer_isOk_of_alike
    (built : buildBalancer profile policy localities = .ok balancer) :
    ∃ balancer', buildBalancer profile policy others = .ok balancer' := by
  cases policy with
  | standard policy =>
    simp only [buildBalancer] at built ⊢
    split at built
    · cases built
    · rename_i standard chosen
      rcases buildFromPolicy_isOk_of_alike alike chosen with ⟨balancer', chosen'⟩
      rw [chosen']
      exact ⟨_, rfl⟩
  | overrideHost config =>
    simp only [buildBalancer] at built ⊢
    split at built
    · cases built
    · split at built
      · cases built
      · rename_i fallback chosen
        rcases buildFromPolicy_isOk_of_alike alike chosen with ⟨balancer', chosen'⟩
        rw [chosen']
        exact ⟨_, rfl⟩

end

/-- Whether a load assignment can be built depends on its endpoints and the policy. -/
theorem build_isOk_of_same {builder other : ClusterLoadAssignmentBuilder}
    (sameCla : builder.cla = other.cla) (samePolicy : builder.lbPolicy = other.lbPolicy)
    (built : ∃ loadAssignment, builder.build profile = .ok loadAssignment) :
    ∃ loadAssignment, other.build profile = .ok loadAssignment := by
  rcases built with ⟨loadAssignment, built⟩
  unfold build at built ⊢
  split at built
  · cases built
  · rename_i localities localitiesBuilt
    rcases buildLocalities_alike sameCla localitiesBuilt with ⟨localities', built', alike⟩
    rcases bind_eq_ok_iff.mp built with ⟨balancer, balancerBuilt, _⟩
    rw [samePolicy] at balancerBuilt
    rcases buildBalancer_isOk_of_alike alike balancerBuilt with ⟨balancer', balancerBuilt'⟩
    simp only [built']
    exact ⟨_, bind_eq_ok_iff.mpr ⟨balancer', balancerBuilt', rfl⟩⟩

end ClusterLoadAssignmentBuilder

end

/-! ## Discovery and configuration -/

section

variable [HttpCrate] [ChannelCrates] [BalancerCrates] [HashMapOrder]

def ClusterLoadAssignmentBuilder.serves (profile : BuildProfile)
    (builder : ClusterLoadAssignmentBuilder) : Option (BalancerType × List LocalityLbEndpoints) :=
  (builder.build profile).toOption.map fun loadAssignment =>
    (loadAssignment.balancer, loadAssignment.endpoints)

variable {profile : BuildProfile}

theorem ClusterLoadAssignmentBuilder.serves_of_localities
    {builder other : ClusterLoadAssignmentBuilder} (samePolicy : builder.lbPolicy = other.lbPolicy)
    (same : builder.buildLocalities = other.buildLocalities) :
    builder.serves profile = other.serves profile := by
  unfold serves build
  rw [same, samePolicy]
  cases other.buildLocalities with
  | error error => rfl
  | ok endpoints =>
    simp only
    cases buildBalancer profile other.lbPolicy endpoints <;> rfl

theorem ClusterConfig.serves_agree_iff (profile : BuildProfile) (config : ClusterConfig)
    (socket : UpstreamTransportSocketConfigurator) (cla : ClusterLoadAssignmentConfig) :
    (config.discoveredBuilder socket cla).serves profile =
        (loadAssignmentBuilder config socket cla).serves profile ↔
      ((∃ loadAssignment, (loadAssignmentBuilder config socket cla).build
          profile = .ok loadAssignment) →
        cla.endpoints = [] ∨ config.KeptByDiscovery socket cla) := by
  constructor
  · rintro same ⟨loadAssignment, configured⟩
    have served : (config.discoveredBuilder socket cla).serves profile =
        some (loadAssignment.balancer, loadAssignment.endpoints) := by
      rw [same, ClusterLoadAssignmentBuilder.serves, configured]
      rfl
    rcases map_eq_some_iff.mp served with ⟨discovered, found, equal⟩
    have localities := (ClusterLoadAssignmentBuilder.build_builds
      (toOption_eq_some_iff.mp found)).localities
    have sameEndpoints : discovered.endpoints = loadAssignment.endpoints :=
      congrArg Prod.snd equal
    rw [sameEndpoints] at localities
    exact (buildLocalities_agree_iff
      (ClusterLoadAssignmentBuilder.build_builds configured).localities).mp localities
  · intro kept
    have samePolicy : (config.discoveredBuilder socket cla).lbPolicy =
      (loadAssignmentBuilder config socket cla).lbPolicy := rfl
    cases configured : (loadAssignmentBuilder config socket cla).build profile with
    | ok loadAssignment =>
      have localities := (ClusterLoadAssignmentBuilder.build_builds configured).localities
      apply ClusterLoadAssignmentBuilder.serves_of_localities samePolicy
      rw [localities]
      exact (buildLocalities_agree_iff localities).mpr (kept ⟨loadAssignment, configured⟩)
    | error failure =>
      cases discovered : (config.discoveredBuilder socket cla).build profile with
      | error other =>
        rw [ClusterLoadAssignmentBuilder.serves, ClusterLoadAssignmentBuilder.serves,
          discovered, configured]
        rfl
      | ok loadAssignment =>
        have sameCla : (config.discoveredBuilder socket cla).cla =
          (loadAssignmentBuilder config socket cla).cla := rfl
        rcases ClusterLoadAssignmentBuilder.build_isOk_of_same sameCla samePolicy
          ⟨loadAssignment, discovered⟩ with ⟨other, impossible⟩
        rw [configured] at impossible
        cases impossible

variable [TlsPlatform]

section

variable {clusters : ClustersMap} {config : ClusterConfig}
  (secured : UpstreamTransportSocketConfigurator.ofConfig config.transportSocket secrets =
    some socket)

include secured

theorem ClustersMap.discover_served :
    (clusters.discover profile secrets config cla).bind served =
      (config.discoveredBuilder socket cla).serves profile := by
  have found := OrderedMap.get?_insert_self clusters config.name (.dynamic
    (dynamicBuilder { config with discoverySettings := .eds none } socket).build)
  have returned := changeClusterLoadAssignment_fst profile found (.ofConfig cla)
  simp only [discover, ofConfig, secured]
  change bind (Except.toOption (changeClusterLoadAssignment profile
    (clusters.insert config.name _) config.name (.ofConfig cla)).1) _ = _
  rw [returned, changeLoadAssignment]
  change bind (Except.toOption ((config.discoveredBuilder socket cla).build profile >>=
    _)) _ = Option.map _ _
  cases (config.discoveredBuilder socket cla).build profile <;> rfl

theorem ClustersMap.configure_served :
    (clusters.configure profile secrets config cla).bind served =
      (loadAssignmentBuilder config socket cla).serves profile := by
  simp only [configure, ofConfig, secured, addCluster_fst]
  change bind (Except.toOption ((loadAssignmentBuilder config socket
    cla).build profile >>= _)) _ = Option.map _ _
  cases (loadAssignmentBuilder config socket cla).build profile <;> rfl

end

/-- Discovery gives a cluster the balancer and the endpoints that its configuration would
give it exactly if, where they can be built at all, there are no endpoints or no setting
gets lost. -/
theorem ClustersMap.discovery_agrees_iff (profile : BuildProfile) (clusters : ClustersMap)
    (secrets : SecretManager) (config : ClusterConfig) (cla : ClusterLoadAssignmentConfig) :
    (clusters.discover profile secrets config cla).bind served =
        (clusters.configure profile secrets config cla).bind served ↔
      ∀ socket, UpstreamTransportSocketConfigurator.ofConfig config.transportSocket secrets =
          some socket →
        (∃ loadAssignment, (loadAssignmentBuilder config socket cla).build
          profile = .ok loadAssignment) →
        cla.endpoints = [] ∨ config.KeptByDiscovery socket cla := by
  cases secured : UpstreamTransportSocketConfigurator.ofConfig config.transportSocket secrets with
  | none =>
    have refused : ∀ settings, ofConfig
        { config with discoverySettings := settings } secrets = none := fun settings =>
      map_eq_none_iff.mpr secured
    simp [discover, configure, refused]
  | some socket =>
    rw [discover_served secured, configure_served secured, ClusterConfig.serves_agree_iff]
    simp

end

/-- A timeout of five seconds, which the discovered endpoint does not have. -/
theorem ClustersMap.discovery_drops_timeout :
    letI := TlsPlatform.withoutFiles
    letI := AsciiChannel.httpCrate
    letI := ChannelCrates.ascii
    letI := BalancerCrates.simple
    letI := HashMapOrder.insertion
    let config : ClusterConfig :=
      { name := "cluster".toList, discoverySettings := .eds none,
        connectTimeout := some 5000000000 }
    let cla : ClusterLoadAssignmentConfig :=
      ⟨[⟨0, [⟨.socket "a".toList 80, .healthy, ⟨1, by decide, by decide⟩⟩]⟩], "cluster".toList⟩
    let timeouts (cluster : Option ClusterType) : Option (List (Option Duration)) :=
      (cluster.bind served).map fun served =>
        (served.2.flatMap (·.endpoints)).map fun endpoint =>
          endpoint.tcpChannel.bind fun channel => channel.connector.timeout
    timeouts (ClustersMap.configure ⟨true⟩ .empty .empty config cla) = some [some 5000000000] ∧
      timeouts (ClustersMap.discover ⟨true⟩ .empty .empty config cla) = some [none] := by
  decide +kernel

end Orion.Clusters
