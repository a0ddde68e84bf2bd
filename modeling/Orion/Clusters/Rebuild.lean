import Orion.Clusters.AssignmentState
import Orion.Clusters.Cluster
import Orion.Tls.FailClosed

/-! # Building endpoints again

When a secret changes, the endpoints of a cluster are built again from their addresses.
This fails for an authority whose host and port do not make an authority, and a cluster
is left half changed then.
-/

namespace Orion.Clusters

open Foundation Http Tls Option

section

variable [HttpCrate] [ChannelCrates]

/-- A host and a port make an authority, and other addresses need none. -/
def Address.parses : Address → Bool
  | .socket hostname port =>
    (HttpCrate.authorityFromStr (LbEndpointBuilder.authorityText hostname port)).isSome
  | .pipe _ _ | .internal _ => true

omit [ChannelCrates] in
theorem EndpointAddressType.LeadsTo.parses {self : EndpointAddressType}
    (leads : self.LeadsTo address) : address.parses := by
  cases address with
  | socket hostname port =>
    change HttpCrate.authorityFromStr _ = some _ at leads
    simp [Address.parses, leads]
  | pipe | internal => rfl

theorem LbEndpointBuilder.build_isOk_iff (builder : LbEndpointBuilder) :
    (∃ endpoint, builder.build = .ok endpoint) ↔ builder.endpoint.address.parses := by
  constructor
  · rintro ⟨endpoint, built⟩
    exact (build_eq_ok built).1.parses
  · intro parses
    cases target : builder.endpoint.address with
    | socket hostname port =>
      rw [target] at parses
      rcases isSome_iff_exists.mp parses with ⟨authority, parsed⟩
      simp only [build, buildAddress, target, parsed, buildChannels]
      exact ⟨_, rfl⟩
    | pipe | internal =>
      simp only [build, buildAddress, target, buildChannels]
      exact ⟨_, rfl⟩

def ClusterLoadAssignment.Rebuildable (self : ClusterLoadAssignment) : Prop :=
  ∀ endpoint ∈ self.allEndpoints, endpoint.address.toAddress.parses = true

theorem LocalityLbEndpoints.rebuild_isOk_iff (locality : LocalityLbEndpoints) :
    (∃ next, locality.rebuild = .ok next) ↔
      ∀ endpoint ∈ locality.endpoints, endpoint.address.toAddress.parses := by
  have each : ∀ endpoint : LbEndpoint,
      (∃ built, (locality.endpointBuilder endpoint).build = .ok built) ↔
        endpoint.address.toAddress.parses := fun endpoint =>
    (locality.endpointBuilder endpoint).build_isOk_iff
  constructor
  · rintro ⟨next, rebuilt⟩ endpoint member
    rcases bind_eq_ok_iff.mp rebuilt with ⟨endpoints, mapped, _⟩
    rcases partner_of_left (mapM_eq_ok_iff.mp mapped) member with ⟨built, _, endpointBuilt⟩
    exact (each endpoint).mp ⟨built, endpointBuilt⟩
  · intro parses
    rcases mapM_isOk fun endpoint member => (each endpoint).mpr (parses endpoint member) with
      ⟨endpoints, mapped⟩
    exact ⟨_, bind_eq_ok_iff.mpr ⟨endpoints, mapped, rfl⟩⟩

theorem ClusterLoadAssignment.rebuild_isOk_iff (self : ClusterLoadAssignment) :
    (∃ next, self.rebuild = .ok next) ↔ self.Rebuildable := by
  constructor
  · rintro ⟨next, rebuilt⟩ endpoint member
    rcases bind_eq_ok_iff.mp rebuilt with ⟨localities, mapped, _⟩
    rcases List.mem_flatMap.mp member with ⟨locality, listed, within⟩
    rcases partner_of_left (mapM_eq_ok_iff.mp mapped) listed with ⟨built, _, localityBuilt⟩
    exact (LocalityLbEndpoints.rebuild_isOk_iff _).mp ⟨built, localityBuilt⟩ endpoint within
  · intro rebuildable
    have each : ∀ locality ∈ self.endpoints, ∃ next, LocalityLbEndpoints.rebuild
        { locality with transportSocket := self.transportSocket } = .ok next := by
      intro locality listed
      refine (LocalityLbEndpoints.rebuild_isOk_iff _).mpr fun endpoint within => ?_
      exact rebuildable endpoint (List.mem_flatMap.mpr ⟨locality, listed, within⟩)
    rcases mapM_isOk each with ⟨localities, mapped⟩
    exact ⟨_, bind_eq_ok_iff.mpr ⟨localities, mapped, rfl⟩⟩

end

/-! ## Failed changes -/

section

variable [TlsPlatform] [HttpCrate] [ChannelCrates]

/-- If the socket accepts the secret, the endpoints can be built again; or, where they
are kept, the secret is the one in use. -/
def ClusterType.Changeable (secretId : Text) (secret : TransportSecret) :
    ClusterType → Prop
  | .static cluster => ∀ socket, cluster.transportSocket.updateSecret secretId secret =
      some socket → cluster.loadAssignment.Rebuildable ∨ socket = cluster.transportSocket
  | .dynamic cluster => ∀ socket, cluster.transportSocket.updateSecret secretId secret =
      some socket → ∀ loadAssignment, cluster.loadAssignment = some loadAssignment →
        loadAssignment.Rebuildable
  | .onDemand _ => True

theorem StaticCluster.error_keeps_iff (cluster : StaticCluster) (secretId : Text)
    (secret : TransportSecret) : ((cluster.changeTlsContext secretId secret).1 ≠ .ok () →
      (cluster.changeTlsContext secretId secret).2 = cluster) ↔
    ∀ socket, cluster.transportSocket.updateSecret secretId secret = some socket →
      cluster.loadAssignment.Rebuildable ∨ socket = cluster.transportSocket := by
  unfold changeTlsContext
  cases updated : cluster.transportSocket.updateSecret secretId secret with
  | none => simp
  | some socket =>
    have rebuildable := ClusterLoadAssignment.rebuild_isOk_iff
      { cluster.loadAssignment with transportSocket := socket }
    change _ ↔ cluster.loadAssignment.Rebuildable at rebuildable
    simp only [some.injEq, forall_eq', ← rebuildable]
    cases rebuilt : ClusterLoadAssignment.rebuild
      { cluster.loadAssignment with transportSocket := socket } with
    | ok loadAssignment => simp
    | error error =>
      constructor
      · intro kept
        exact .inr (congrArg transportSocket (kept (by simp)))
      · rintro (⟨_, impossible⟩ | rfl) _
        · cases impossible
        · rfl

theorem DynamicCluster.error_keeps_iff (cluster : DynamicCluster) (secretId : Text)
    (secret : TransportSecret) : ((cluster.changeTlsContext secretId secret).1 ≠ .ok () →
      (cluster.changeTlsContext secretId secret).2 = cluster) ↔
    ∀ socket, cluster.transportSocket.updateSecret secretId secret = some socket →
      ∀ loadAssignment, cluster.loadAssignment = some loadAssignment →
        loadAssignment.Rebuildable := by
  unfold changeTlsContext
  cases updated : cluster.transportSocket.updateSecret secretId secret with
  | none => simp
  | some socket =>
    cases assigned : cluster.loadAssignment with
    | none => simp
    | some loadAssignment =>
      have rebuildable := ClusterLoadAssignment.rebuild_isOk_iff
        { loadAssignment with transportSocket := socket }
      change _ ↔ loadAssignment.Rebuildable at rebuildable
      simp only [some.injEq, forall_eq', ← rebuildable]
      cases rebuilt : ClusterLoadAssignment.rebuild
        { loadAssignment with transportSocket := socket } with
      | ok next => simp
      | error error =>
        constructor
        · intro kept
          -- The load assignment that was taken out is missing.
          have lost := congrArg DynamicCluster.loadAssignment (kept (by simp))
          rw [assigned] at lost
          cases lost
        · rintro ⟨_, impossible⟩
          cases impossible

/-- A failed change leaves the cluster as it is exactly when the endpoints were not the
reason of the failure. -/
theorem ClusterType.failed_change_keeps_iff (self : ClusterType) (secretId : Text)
    (secret : TransportSecret) : ((self.changeTlsContext secretId secret).1 ≠ .ok () →
      (self.changeTlsContext secretId secret).2 = self) ↔ self.Changeable secretId secret := by
  cases self with
  | static cluster | dynamic cluster =>
    rw [Changeable, ← cluster.error_keeps_iff]
    simp [changeTlsContext]
  | onDemand cluster =>
    simp only [Changeable, iff_true]
    intro failed
    simp only [changeTlsContext, OriginalDstCluster.changeTlsContext] at failed ⊢
    split
    · rfl
    · split
      · rfl
      · rename_i found _ _ updated
        simp [found, updated] at failed

end

/-- A cluster without TLS whose endpoint has the host `a[x:y]`, which is an authority
with a port but is cut at its colon when the endpoint is built again: any secret makes
the cluster lose its load assignment. -/
theorem ClusterType.failed_change_loses_assignment :
    letI := TlsPlatform.withoutFiles
    letI := AsciiChannel.httpCrate
    letI := ChannelCrates.ascii
    letI := BalancerCrates.simple
    letI := HashMapOrder.insertion
    let builder := ClusterLoadAssignmentBuilder.plain
      [⟨[.plain "a[x:y]".toList 80 .healthy], 0⟩] (.standard .roundRobin)
    (builder.build ⟨true⟩).toOption.map (fun loadAssignment =>
      let cluster : ClusterType := .dynamic ⟨builder.clusterName, {}, some loadAssignment,
        .none, builder.lbPolicy, ⟨builder.clusterName, .eds none, none, {}, builder.lbPolicy,
          {}, none, none⟩⟩
      let change := cluster.changeTlsContext "ca".toList (.validationContext ⟨[[1]], .none⟩)
      (change.1.toOption, cluster.loadAssignment.isSome, change.2.loadAssignment.isSome)) =
    some (none, true, false) := by
  decide +kernel

end Orion.Clusters
