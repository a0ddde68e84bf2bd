import Orion.Clusters.SecretRotation

/-! # Addresses of endpoints that are built again

An endpoint is built again from the address it reports. A pipe reports the authority that
stands for none, and so comes back as an endpoint on the network.
-/

namespace Orion.Clusters

open Foundation Http LbEndpointBuilder

/-- Whether the channels to an address are sockets in the file system, if there are any. -/
def Address.channelKind : Address → Option Bool
  | .socket _ _ => some false
  | .pipe _ _ => some true
  | .internal _ => none

namespace LbEndpoint

def channelKind (endpoint : LbEndpoint) : Option Bool :=
  endpoint.httpChannel.map HttpChannel.isUnix

variable [ChannelCrates]

/-- An endpoint has the address of another, and the same kind of channel. -/
structure Alike (endpoint other : LbEndpoint) : Prop where
  address : endpoint.address.toAddress = other.address.toAddress
  authority : endpoint.authority = other.authority
  channel : endpoint.channelKind = other.channelKind

variable [HttpCrate]

/-- An endpoint after each of some localities has built it again. -/
def rebuilt (endpoint : LbEndpoint) (localities : List LocalityLbEndpoints) :
    Except BuildError LbEndpoint :=
  localities.foldlM (fun endpoint locality => (locality.endpointBuilder endpoint).build) endpoint

def Survives (endpoint : LbEndpoint) : Prop :=
  ∀ localities, ∃ next, endpoint.rebuilt localities = .ok next ∧ next.Alike endpoint

/-- An endpoint leads where it reports to lead. -/
structure Steady (endpoint : LbEndpoint) : Prop where
  leads : endpoint.address.LeadsTo endpoint.address.toAddress
  kind : endpoint.channelKind = endpoint.address.toAddress.channelKind

variable {builder : LbEndpointBuilder} {endpoint : LbEndpoint}

theorem channelKind_of_built (built : builder.build = .ok endpoint) :
    endpoint.channelKind = builder.endpoint.address.channelKind := by
  rcases build_eq_ok built with
    ⟨leads, ⟨address, target, same⟩ | ⟨authority, channels, channelsBuilt, same⟩⟩
  · rw [target, channelKind, httpChannel, same]
    rfl
  · rw [channelKind, httpChannel, same]
    simp only [buildChannels, HttpChannelBuilder.build] at channelsBuilt
    cases target : builder.endpoint.address with
    | socket hostname port =>
      rw [target] at channelsBuilt
      cases channelsBuilt
      cases channelTls builder.transportSocket <;> rfl
    | pipe name mode =>
      rw [target] at channelsBuilt
      cases channelsBuilt
      rfl
    | internal address =>
      rw [target] at channelsBuilt
      cases channelsBuilt

theorem Steady.of_built (steady : endpoint.Steady) (built : builder.build = .ok next)
    (target : builder.endpoint.address = endpoint.address.toAddress) :
    next.Alike endpoint ∧ next.Steady := by
  have kind := channelKind_of_built built
  rcases build_eq_ok built with ⟨leads, shape⟩
  rcases steady with ⟨own, ownKind⟩
  rw [target] at leads shape kind
  have same : next.address.toAddress = endpoint.address.toAddress ∧
      next.authority = endpoint.authority := by
    rcases endpoint with ⟨_, address, _, _, _⟩
    cases address with
    | socket authority httpChannel tcpChannel =>
      have equal : next.authority = authority := Option.some.inj (leads.symm.trans own)
      rcases shape with ⟨_, impossible, _⟩ | ⟨found, channels, _, same⟩
      · cases impossible
      · rw [LbEndpoint.authority, same] at equal
        cases equal
        rw [LbEndpoint.authority, same]
        exact ⟨rfl, rfl⟩
    | pipe =>
      rcases own with ⟨_, _, _, impossible, _⟩
      cases impossible
    | internal internal =>
      change next.address = .internal internal at leads
      rw [LbEndpoint.authority, leads]
      exact ⟨rfl, rfl⟩
  exact ⟨⟨same.1, same.2, kind.trans ownKind.symm⟩, ⟨same.1 ▸ leads, same.1 ▸ kind⟩⟩

theorem Steady.survives (steady : endpoint.Steady) : endpoint.Survives := by
  intro localities
  induction localities generalizing endpoint with
  | nil => exact ⟨endpoint, rfl, rfl, rfl, rfl⟩
  | cons locality localities induction =>
    rcases (locality.endpointBuilder endpoint).build_isOk_iff.mpr steady.leads.parses with
      ⟨first, built⟩
    rcases steady.of_built built rfl with ⟨alike, steady⟩
    rcases induction steady with ⟨next, rebuilt, later⟩
    refine ⟨next, bind_eq_ok_iff.mpr ⟨first, built, rebuilt⟩, ?_⟩
    exact ⟨later.address.trans alike.address, later.authority.trans alike.authority,
      later.channel.trans alike.channel⟩

/-- An endpoint survives exactly when it was not built from a pipe, and the host and port
that it reports make its authority. -/
theorem survives_iff (built : builder.build = .ok endpoint) :
    endpoint.Survives ↔ (∀ name mode, builder.endpoint.address ≠ .pipe name mode) ∧
      endpoint.address.LeadsTo endpoint.address.toAddress := by
  have kind := channelKind_of_built built
  rcases endpoint with ⟨_, address, _, _, _⟩
  rcases (build_eq_ok built).2 with
    ⟨internal, target, same⟩ | ⟨authority, channels, _, same⟩
  · cases same
    rw [target] at kind ⊢
    exact iff_of_true (Steady.survives ⟨rfl, kind⟩) ⟨nofun, rfl⟩
  · cases same
    constructor
    · intro survives
      let locality : LocalityLbEndpoints := ⟨⟨[], 0, 0, 0⟩, [], .none, {}, none⟩
      rcases survives [locality] with ⟨next, rebuilt, alike⟩
      rcases bind_eq_ok_iff.mp rebuilt with ⟨_, nextBuilt, ⟨⟩⟩
      have nextKind := channelKind_of_built nextBuilt
      rw [alike.channel, kind] at nextKind
      refine ⟨fun name mode target => ?_, ?_⟩
      · rw [target] at nextKind
        cases nextKind
      · have leads : HttpCrate.authorityFromStr _ = some next.authority :=
          (build_eq_ok nextBuilt).1
        exact leads.trans (congrArg some alike.authority)
    · rintro ⟨network, reports⟩
      refine Steady.survives ⟨reports, kind.trans ?_⟩
      cases target : builder.endpoint.address with
      | socket hostname port => rfl
      | pipe name mode => exact absurd target (network name mode)
      | internal address =>
        rw [target] at kind
        cases kind

end LbEndpoint

/-! ## A pipe and a host -/

attribute [local instance] AsciiChannel.httpCrate ChannelCrates.ascii

def plainBuilder (address : Address) : LbEndpointBuilder :=
  ⟨[], ⟨address, {}, ⟨1, Nat.one_pos, U32.one_lt_limit⟩, .healthy⟩, {}, .none, none, none⟩

/-- A pipe is a socket in the file system before it is built again. -/
theorem pipe_does_not_survive :
    ∃ endpoint, (plainBuilder (.pipe "/run/orion".toList 0)).build = .ok endpoint ∧
      ¬ endpoint.Survives := by
  refine ⟨_, rfl, fun survives => ?_⟩
  rcases survives [⟨⟨[], 0, 0, 0⟩, [], .none, {}, none⟩] with ⟨next, ⟨⟩, alike⟩
  cases alike.channel

theorem host_survives :
    ∃ endpoint, (plainBuilder (.socket "a".toList 80)).build = .ok endpoint ∧
      endpoint.Survives := by
  have built : ∃ endpoint, (plainBuilder (.socket "a".toList 80)).build = .ok endpoint := ⟨_, rfl⟩
  rcases built with ⟨endpoint, built⟩
  refine ⟨endpoint, built, (LbEndpoint.survives_iff built).mpr ⟨nofun, ?_⟩⟩
  cases built
  rfl

end Orion.Clusters
