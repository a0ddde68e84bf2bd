import Orion.Listeners.Listener
import Orion.Tls.ArrivalOrder

/-! # Secrets of a filter chain

A filter chain refers to secrets by name. It keeps up with what it is sent as long as it
holds a certificate of each name that is sent, and the new certificate fits.
-/

namespace Orion.Tls

open Foundation List Option

/-! ## Replacing a certificate -/

def certificateOf (holders : List SecretHolder) (name : Text) : Option ServerCert :=
  (holders.find? fun holder => holder.name = name).map SecretHolder.serverCert

theorem certificateOf_cons (holder : SecretHolder) (holders : List SecretHolder) (name : Text) :
    certificateOf (holder :: holders) name =
      if holder.name = name then some holder.serverCert else certificateOf holders name := by
  unfold certificateOf
  by_cases same : holder.name = name <;> simp [same]

theorem replaceCertificate_isSome (held : (certificateOf holders name).isSome)
    (certificate : ServerCert) : (replaceCertificate name certificate holders).isSome := by
  induction holders with
  | nil => cases held
  | cons holder holders induction =>
    rw [certificateOf_cons] at held
    rw [replaceCertificate]
    split at held
    · rename_i same
      rw [if_pos same]
      rfl
    · rename_i different
      rw [if_neg different, isSome_map]
      exact induction held

section

variable {name : Text} {next : List SecretHolder}

section

variable (replaced : replaceCertificate name certificate holders = some next)

include replaced

theorem certificateOf_replaced (other : Text) :
    certificateOf next other =
      if other = name then some certificate else certificateOf holders other := by
  induction holders generalizing next with
  | nil => cases replaced
  | cons holder holders induction =>
    rw [replaceCertificate] at replaced
    split at replaced
    · rename_i named
      cases replaced
      simp only [certificateOf_cons, named, eq_comm]
      split <;> rfl
    · rename_i named
      rcases map_eq_some_iff.mp replaced with ⟨rest, replacedRest, rfl⟩
      rw [certificateOf_cons, certificateOf_cons, induction replacedRest]
      split
      · rename_i same
        rw [if_neg fun equal => named (same.trans equal)]
      · rfl

theorem length_replaced : next.length = holders.length := by
  induction holders generalizing next with
  | nil => cases replaced
  | cons holder holders induction =>
    rw [replaceCertificate] at replaced
    split at replaced
    · cases replaced
      rfl
    · rcases map_eq_some_iff.mp replaced with ⟨rest, replacedRest, rfl⟩
      rw [length_cons, length_cons, induction replacedRest]

theorem mem_replaced (member : holder ∈ next) :
    holder ∈ holders ∨ holder.serverCert = certificate := by
  induction holders generalizing next with
  | nil => cases replaced
  | cons first holders induction =>
    rw [replaceCertificate] at replaced
    split at replaced
    · cases replaced
      rcases mem_cons.mp member with rfl | member
      · exact .inr rfl
      · exact .inl (mem_cons_of_mem _ member)
    · rcases map_eq_some_iff.mp replaced with ⟨rest, replacedRest, rfl⟩
      rcases mem_cons.mp member with rfl | member
      · exact .inl mem_cons_self
      · exact (induction replacedRest member).imp_left (mem_cons_of_mem _)

end

end

end Orion.Tls

namespace Orion.Listeners

open Foundation

/-! ## What a filter chain refers to -/

inductive SecretUse where
  | certificate (name : Text)
  | validationContext (name : Text)
  deriving DecidableEq

def TlsContextChange.use : TlsContextChange → SecretUse
  | .updated secretId (.certificate _) => .certificate secretId
  | .updated secretId (.validationContext _) => .validationContext secretId

end Orion.Listeners

namespace Orion.Tls

open Foundation Listeners List Option

def TlsServerConfig.uses (config : TlsServerConfig) : List SecretUse :=
  (match config.commonTlsContext.secrets with
    | .sdsConfig names => names.map .certificate
    | .certificates _ => []) ++
  match config.commonTlsContext.validationContext with
    | some (.sdsConfig name) => [.validationContext name]
    | some (.validationContext _) | none => []

theorem TlsServerConfig.validationContext_of_uses {config : TlsServerConfig}
    (used : .validationContext name ∈ config.uses) :
    config.commonTlsContext.validationContext = some (.sdsConfig name) := by
  rcases mem_append.mp used with certificate | context
  · split at certificate
    · rcases mem_map.mp certificate with ⟨_, _, ⟨⟩⟩
    · cases certificate
  · split at context
    · rename_i found
      cases mem_singleton.mp context
      exact found
    · cases context
    · cases context

section

variable [TlsPlatform]

def ServerConfigurator.HasApplied (server : ServerConfigurator) (change : TlsContextChange) :
    Prop :=
  server.contextBuilder.build = some server.config ∧
    match change with
    | .updated secretId (.certificate secret) =>
      certificateOf server.contextBuilder.serverIdsAndCertificates secretId =
        some (.ofSecret secret)
    | .updated secretId (.validationContext store) =>
      server.contextBuilder.validationContextSecretId = some secretId ∧
        server.contextBuilder.certificateStore = some store.store

/-- The server has a certificate of that name, and can be built with the new one. -/
def ServerConfigurator.CanTake (server : ServerConfigurator) : TlsContextChange → Prop
  | .updated secretId (.certificate secret) =>
    (certificateOf server.contextBuilder.serverIdsAndCertificates secretId).isSome = true ∧
      (ServerCert.ofSecret secret).Fits
        (server.contextBuilder.serverIdsAndCertificates.length = 1)
  | .updated _ (.validationContext _) => True

/-- A server that keeps up with the secrets received since it was made. -/
structure ServerConfigurator.Serves (config : TlsServerConfig)
    (received : List TlsContextChange) (server : ServerConfigurator) : Prop where
  built : server.contextBuilder.build = some server.config
  named : ∀ name, config.commonTlsContext.validationContext = some (.sdsConfig name) →
    server.contextBuilder.validationContextSecretId = some name ∧
      server.contextBuilder.certificateStore.isSome = true
  applied : ∀ use ∈ config.uses, ∀ change,
    lastFor TlsContextChange.use use received = some change →
      server.HasApplied change

namespace ServerConfigurator

variable {config : TlsServerConfig} {server next : ServerConfigurator}

/-- A secret that is not used, and does not change the server, makes no difference. -/
theorem Serves.ignore (serves : server.Serves config received) (unused : change.use ∉ config.uses) :
    server.Serves config (received ++ [change]) := by
  refine ⟨serves.built, serves.named, ?_⟩
  intro use used last found
  have other : change.use ≠ use := by
    rintro rfl
    exact unused used
  rw [lastFor_append, if_neg other] at found
  exact serves.applied use used last found

theorem update_certificate_eq_some
    (updated : server.update secretId (.certificate secret) = some next) :
    ∃ holders, replaceCertificate secretId (.ofSecret secret)
        server.contextBuilder.serverIdsAndCertificates = some holders ∧
      next.contextBuilder = { server.contextBuilder with
        serverIdsAndCertificates := holders
        validationContextSecretId := if server.contextBuilder.certificateStore.isSome then
          server.contextBuilder.validationContextSecretId else none } ∧
      next.contextBuilder.build = some next.config := by
  rcases bind_eq_some_iff.mp updated with ⟨holders, replaced, configured⟩
  rcases map_eq_some_iff.mp configured with ⟨serverConfig, built, rfl⟩
  exact ⟨holders, replaced, rfl, built⟩

theorem update_certificate_isSome (built : server.contextBuilder.build = some server.config)
    (possible : server.CanTake (.updated secretId (.certificate secret))) :
    (server.update secretId (.certificate secret)).isSome := by
  rcases possible with ⟨held, fits⟩
  rcases isSome_iff_exists.mp (replaceCertificate_isSome held (.ofSecret secret)) with
    ⟨holders, replaced⟩
  have before := (WantsToBuildServer.build_isSome_iff _).mp (isSome_of_mem (mem_def.mpr built))
  simp only [ServerConfigurator.update, replaced, bind_eq_bind, bind_some,
    WantsToBuildServer.configurator, isSome_map, WantsToBuildServer.build_isSome_iff]
  refine ⟨before.1, before.2.1, ?_⟩
  intro holder member
  simp only [length_replaced replaced]
  rcases mem_replaced replaced member with known | fresh
  · exact before.2.2 holder known
  · rw [fresh]
    exact fits

theorem Serves.update_certificate (serves : server.Serves config received)
    (possible : .certificate secretId ∈ config.uses →
      server.CanTake (.updated secretId (.certificate secret))) :
    ((server.update secretId (.certificate secret)).getD server).Serves config
      (received ++ [.updated secretId (.certificate secret)]) := by
  cases updated : server.update secretId (.certificate secret) with
  | none =>
    apply serves.ignore
    intro used
    have taken := update_certificate_isSome serves.built (possible used)
    rw [updated] at taken
    cases taken
  | some next =>
    rcases update_certificate_eq_some updated with ⟨holders, replaced, builder, built⟩
    refine ⟨built, ?_, ?_⟩
    · intro name used
      rcases serves.named name used with ⟨named, stored⟩
      simp only [getD_some, builder, stored, if_true]
      exact ⟨named, trivial⟩
    · intro use used change last
      refine ⟨built, ?_⟩
      rw [lastFor_append] at last
      simp only [getD_some, builder]
      split at last
      · cases last
        exact (certificateOf_replaced replaced secretId).trans (if_pos rfl)
      · rename_i other
        rcases serves.applied use used change last with ⟨_, applied⟩
        rcases change with ⟨name, ⟨before⟩ | ⟨store⟩⟩
        · have different : name ≠ secretId := by
            rintro rfl
            have about := lastFor_about last
            exact other about
          exact (certificateOf_replaced replaced name).trans ((if_neg different).trans applied)
        · exact ⟨by simp only [applied.2, isSome_some, if_true, applied.1], applied.2⟩

theorem Serves.update_validationContext (serves : server.Serves config received) :
    ((server.update secretId (.validationContext store)).getD server).Serves config
      (received ++ [.updated secretId (.validationContext store)]) := by
  by_cases named : some secretId = server.contextBuilder.validationContextSecretId
  · rcases WantsToBuildServer.configurator_of_store serves.built store.store with
      ⟨serverConfig, built, configured⟩
    simp only [update, if_pos named, configured, getD_some]
    refine ⟨built, ?_, ?_⟩
    · intro name used
      exact ⟨(serves.named name used).1, rfl⟩
    · intro use used change last
      refine ⟨built, ?_⟩
      rw [lastFor_append] at last
      split at last
      · cases last
        exact ⟨named.symm, rfl⟩
      · rename_i other
        rcases serves.applied use used change last with ⟨_, applied⟩
        rcases change with ⟨name, ⟨before⟩ | ⟨earlier⟩⟩
        · exact applied
        · have same : secretId = name := some_inj.mp (named.trans applied.1)
          subst same
          have about := lastFor_about last
          exact absurd about other
  · simp only [update, if_neg named, getD_none]
    apply serves.ignore
    intro used
    have context := TlsServerConfig.validationContext_of_uses used
    exact named (serves.named secretId context).1.symm

/-- A server keeps up with a secret that it can take, or does not use. -/
theorem Serves.update (serves : server.Serves config received)
    (possible : TlsContextChange.use (.updated secretId secret) ∈ config.uses →
      server.CanTake (.updated secretId secret)) :
    ((server.update secretId secret).getD server).Serves config
      (received ++ [.updated secretId secret]) := by
  cases secret with
  | certificate secret => exact serves.update_certificate possible
  | validationContext store => exact serves.update_validationContext

theorem serves_of_ofConfig (created : ofConfig config manager = some server) :
    server.Serves config [] := by
  rcases bind_eq_some_iff.mp created with ⟨⟨name, store⟩, stored, created⟩
  rcases bind_eq_some_iff.mp created with ⟨holders, _, configured⟩
  rcases map_eq_some_iff.mp configured with ⟨serverConfig, built, rfl⟩
  refine ⟨built, ?_, fun _ _ _ last => by cases last⟩
  intro secretId context
  rw [context, createCertificateStore] at stored
  split at stored <;> cases stored <;> exact ⟨rfl, rfl⟩

end ServerConfigurator

end

end Orion.Tls

namespace Orion.Listeners

open Foundation Tls

/-! ## Filter chains -/

def FilterChain.uses (config : FilterChain) : List SecretUse :=
  (config.tlsConfig.map TlsServerConfig.uses).getD []

section

variable {Limiter : Type} [TlsPlatform]

namespace FilterchainType

def HasApplied (chain : FilterchainType Limiter) (change : TlsContextChange) : Prop :=
  ∃ server, chain.tlsConfigurator = some server ∧ server.HasApplied change

def CanTake (chain : FilterchainType Limiter) (change : TlsContextChange) : Prop :=
  ∀ server, chain.tlsConfigurator = some server → server.CanTake change

/-- A filter chain that keeps up with the secrets received since it was made. -/
def Serves (config : FilterChain) (received : List TlsContextChange)
    (chain : FilterchainType Limiter) : Prop :=
  ∀ tls, config.tlsConfig = some tls →
    ∃ server, chain.tlsConfigurator = some server ∧ server.Serves tls received

variable {config : FilterChain} {chain : FilterchainType Limiter} {change : TlsContextChange}

theorem processSecretUpdate_tlsConfigurator (chain : FilterchainType Limiter) (secretId : Text)
    (secret : TransportSecret) :
    (chain.processSecretUpdate (.updated secretId secret)).tlsConfigurator =
      chain.tlsConfigurator.map fun server => (server.update secretId secret).getD server := by
  unfold processSecretUpdate
  cases configured : chain.tlsConfigurator with
  | none => exact configured
  | some server =>
    cases updated : server.update secretId secret with
    | none => simp [configured, updated]
    | some next => simp [updated]

theorem Serves.processSecretUpdate (serves : chain.Serves config received)
    (possible : change.use ∈ config.uses → chain.CanTake change) :
    (chain.processSecretUpdate change).Serves config (received ++ [change]) := by
  intro tls configured
  rcases serves tls configured with ⟨server, found, serves⟩
  refine ⟨_, ?_, serves.update fun used => possible ?_ server found⟩
  · rw [processSecretUpdate_tlsConfigurator, found]
    rfl
  · rw [FilterChain.uses, configured]
    exact used

/-- A secret that no TLS server of the filter chain uses makes no difference to it. -/
theorem Serves.ignore (serves : chain.Serves config received)
    (unused : change.use ∉ config.uses) : chain.Serves config (received ++ [change]) := by
  intro tls configured
  rcases serves tls configured with ⟨server, found, serves⟩
  refine ⟨server, found, serves.ignore ?_⟩
  rw [FilterChain.uses, configured] at unused
  exact unused

theorem Serves.hasApplied (serves : chain.Serves config received) (used : use ∈ config.uses)
    (last : lastFor TlsContextChange.use use received = some change) : chain.HasApplied change := by
  unfold FilterChain.uses at used
  cases configured : config.tlsConfig with
  | none =>
    rw [configured] at used
    cases used
  | some tls =>
    rw [configured] at used
    rcases serves tls configured with ⟨server, found, serves⟩
    exact ⟨server, found, serves.applied use used change last⟩

end FilterchainType

theorem FilterchainBuilder.ofConfig_serves
    (made : FilterchainBuilder.ofConfig newLimiter config secrets = .ok builder) :
    FilterchainType.Serves config []
      (⟨builder.name, builder.tlsConfigurator, builder.mainFilter⟩ : FilterchainType Limiter) := by
  intro tls configured
  simp only [FilterchainBuilder.ofConfig, configured] at made
  split at made
  · cases made
  · rename_i server created
    cases made
    exact ⟨server, rfl, ServerConfigurator.serves_of_ofConfig created⟩

end

end Orion.Listeners
