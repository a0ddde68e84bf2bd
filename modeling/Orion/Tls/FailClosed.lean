import Orion.Foundation.Execution
import Orion.Tls.Configurator

/-! # Whether TLS verification fails closed

The life of one TLS configuration: secrets arrive, the configurator is created
from what is known then, and updates bring it newer secrets.
-/

namespace Orion.Tls

open Foundation TlsPlatform Option
open WantsToBuildClient hiding configurator
open WantsToBuildServer hiding configurator

inductive TlsConfig where
  | client (config : TlsClientConfig)
  | server (config : TlsServerConfig)
  deriving DecidableEq

inductive Configurator where
  | client (configurator : ClientConfigurator)
  | server (configurator : ServerConfigurator)
  deriving DecidableEq

def TlsConfig.validationContext : TlsConfig → Option CommonTlsValidationContext
  | .client config => config.validationContext
  | .server config => config.commonTlsContext.validationContext

def TlsConfig.NamesTrustedCA (config : TlsConfig) : Prop :=
  (∃ source, config.validationContext = some (.validationContext (.trustedCA source))) ∨
    ∃ name, config.validationContext = some (.sdsConfig name)

section

variable [TlsPlatform]

def Configurator.ofConfig (config : TlsConfig) (manager : SecretManager) : Option Configurator :=
  match config with
  | .client config => (ClientConfigurator.ofConfig config manager).map .client
  | .server config => (ServerConfigurator.ofConfig config manager).map .server

def Configurator.update (configurator : Configurator) (secretId : Text)
    (secret : TransportSecret) : Option Configurator :=
  match configurator with
  | .client configurator => (configurator.update secretId secret).map .client
  | .server configurator => (configurator.update secretId secret).map .server

/-! ## Handshakes -/

def ClientConfig.acceptsServer (config : ClientConfig) (certificate : Certificate) : Bool :=
  match config.verifier with
  | .webPki roots => verifies roots certificate
  | .ignoreCert => true

/-- A client may present no certificate. -/
def ServerConfig.acceptsClient (config : ServerConfig) (presented : Option Certificate) : Bool :=
  match config.verifier, presented with
  | .noClientAuth, _ => true
  | .webPki roots, some certificate => verifies roots certificate
  | .webPki _, none => false
  | .webPkiAllowUnauthenticated roots, some certificate =>
    verifies roots certificate
  | .webPkiAllowUnauthenticated _, none => true

/-- Peers are verified against the given roots. A server that does not require
client certificates has nothing to fulfil. -/
def FailsClosed (config : TlsConfig) (roots : RootCertStore) : Configurator → Prop
  | .client configurator => ∀ certificate,
      configurator.config.acceptsServer certificate =
        verifies roots certificate
  | .server configurator =>
    match config with
    | .server ⟨true, _⟩ => ∀ presented,
        configurator.config.acceptsClient presented =
          presented.any (verifies roots)
    | _ => True

/-! ## The machine -/

structure TlsState where
  manager : SecretManager
  configurator : Option Configurator
  /-- The roots of the named authority that the configurator has been given. -/
  known : RootCertStore

inductive TlsEvent where
  | arrive (secret : Secret)
  | create
  | update (secretId : Text) (secret : TransportSecret)

/-- The roots of the authority that a configuration names, as far as they are
known. -/
def knownRoots (manager : SecretManager) :
    Option CommonTlsValidationContext → RootCertStore
  | some (.validationContext context) =>
    ((CertStore.ofContext context).map CertStore.store).getD []
  | some (.sdsConfig name) =>
    ((manager.getValidationContext name).map CertStore.store).getD []
  | none => []

def knownAfter (context : Option CommonTlsValidationContext) (known : RootCertStore)
    (secretId : Text) (secret : TransportSecret) : RootCertStore :=
  match secret with
  | .validationContext store =>
    if context = some (.sdsConfig secretId) then store.store else known
  | .certificate _ => known

def TlsState.step (config : TlsConfig) (state : TlsState) :
    TlsEvent → Option (TlsState × List Unit)
  | .arrive secret =>
    match state.manager.add secret with
    | some (manager, _) => some ({ state with manager := manager }, [])
    | none => some (state, [])
  | .create =>
    match Configurator.ofConfig config state.manager with
    | some configurator =>
      some ({ state with
        configurator := some configurator
        known := knownRoots state.manager config.validationContext }, [])
    | none => some (state, [])
  | .update secretId secret =>
    match state.configurator with
    | none => none
    | some configurator =>
      -- A configurator whose update fails stays as it is.
      some ({ state with
        configurator := some ((configurator.update secretId secret).getD configurator)
        known := knownAfter config.validationContext state.known secretId secret }, [])

def TlsState.machine (config : TlsConfig) : Machine TlsState TlsEvent Unit where
  step := TlsState.step config

def TlsState.initial : TlsState := ⟨.empty, none, []⟩

/-! ## What a configuration verifies -/

theorem WantsToBuildClient.build_verifier {builder : WantsToBuildClient}
    (built : builder.build = some config) :
    config.verifier = if builder.certificateStore.isEmpty then .ignoreCert
      else .webPki builder.certificateStore := by
  simp only [build] at built
  cases certificate : builder.clientCertificate with
  | none =>
    simp only [certificate] at built
    cases built
    rfl
  | some certificate' =>
    simp only [certificate, bind_eq_bind, bind_eq_some_iff] at built
    rcases built with ⟨_, _, ⟨⟩⟩
    rfl

theorem WantsToBuildClient.build_isSome_iff (builder : WantsToBuildClient) :
    builder.build.isSome ↔ ∀ certificate, builder.clientCertificate = some certificate →
      acceptsKey certificate.certs certificate.key := by
  unfold build
  cases builder.clientCertificate with
  | none => simp
  | some certificate =>
    have guarded : (guard (acceptsKey certificate.certs certificate.key) :
        Option Unit).isSome = acceptsKey certificate.certs certificate.key := by
      cases acceptsKey certificate.certs certificate.key <;> rfl
    simp [isSome_bind, guarded]

variable {builder : WantsToBuildServer}

theorem WantsToBuildServer.withClientVerifier_verifier
    (built : builder.withClientVerifier verifier = some config) : config.verifier = verifier := by
  simp only [withClientVerifier, bind_eq_bind, bind_eq_some_iff] at built
  rcases built with ⟨_, _, rest⟩
  split at rest
  all_goals
    rcases bind_eq_some_iff.mp rest with ⟨_, _, ⟨⟩⟩
    rfl

theorem WantsToBuildServer.build_verifier (built : builder.build = some config) :
    builder.clientVerifier = some config.verifier := by
  rcases bind_eq_some_iff.mp built with ⟨verifier, installed, rest⟩
  rw [installed, withClientVerifier_verifier rest]

theorem WantsToBuildClient.configurator_of_certificate {builder next : WantsToBuildClient}
    (built : builder.build = some config)
    (sameCertificate : next.clientCertificate = builder.clientCertificate) :
    ∃ nextConfig, next.build = some nextConfig ∧ next.configurator = some ⟨next, nextConfig⟩ := by
  have buildable : next.build.isSome := by
    simp only [build, sameCertificate] at built ⊢
    cases certificate : builder.clientCertificate with
    | none => rfl
    | some presented =>
      simp only [certificate, bind_eq_bind, bind_eq_some_iff] at built
      rcases built with ⟨_, accepted, _⟩
      simp [accepted]
  rcases isSome_iff_exists.mp buildable with ⟨nextConfig, nextBuilt⟩
  refine ⟨nextConfig, nextBuilt, ?_⟩
  rw [WantsToBuildClient.configurator, nextBuilt, map_some]

theorem WantsToBuildServer.withClientVerifier_isSome (builder : WantsToBuildServer)
    (verifier other : ClientCertVerifier) : (builder.withClientVerifier verifier).isSome =
      (builder.withClientVerifier other).isSome := by
  simp only [withClientVerifier]
  cases builder.serverIdsAndCertificates with
  | nil => simp [isSome_bind]
  | cons first rest => cases rest <;> simp [isSome_bind]

omit [TlsPlatform] in
theorem WantsToBuildServer.clientVerifier_isSome_of_store
    (store : builder.certificateStore = some roots) : builder.clientVerifier.isSome := by
  rw [clientVerifier, store]
  cases builder.requireClientCert <;> rfl

theorem WantsToBuildServer.configurator_of_store (built : builder.build = some config)
    (roots : RootCertStore) :
    let next : WantsToBuildServer := { builder with certificateStore := some roots }
    ∃ nextConfig, next.build = some nextConfig ∧ next.configurator = some ⟨next, nextConfig⟩ := by
  intro next
  rcases bind_eq_some_iff.mp built with ⟨verifier, _, rest⟩
  have hasVerifier : next.clientVerifier.isSome := clientVerifier_isSome_of_store rfl
  rcases isSome_iff_exists.mp hasVerifier with ⟨newVerifier, installed⟩
  have buildable : (builder.withClientVerifier newVerifier).isSome := by
    rw [builder.withClientVerifier_isSome newVerifier verifier, rest]
    rfl
  rcases isSome_iff_exists.mp buildable with ⟨nextConfig, nextBuilt⟩
  have nextBuild : next.build = some nextConfig := by
    rw [build, installed, bind_some]
    exact nextBuilt
  refine ⟨nextConfig, nextBuild, ?_⟩
  rw [WantsToBuildServer.configurator, nextBuild, map_some]

/-! ## The roots that a configurator keeps -/

def rootsSecretId : Option CommonTlsValidationContext → Option Text
  | some (.sdsConfig name) => some name
  | _ => none

/-- The configurator keeps the known roots, and its configuration was built from
what it keeps. -/
def KeepsRoots (config : TlsConfig) (known : RootCertStore) : Configurator → Prop
  | .client configurator =>
    configurator.contextBuilder.certificateStore = known ∧
      configurator.contextBuilder.validationContextSecretId =
        rootsSecretId config.validationContext ∧
      configurator.contextBuilder.build = some configurator.config ∧
      ∃ clientConfig, config = .client clientConfig
  | .server configurator =>
    configurator.contextBuilder.certificateStore = some known ∧
      configurator.contextBuilder.validationContextSecretId =
        rootsSecretId config.validationContext ∧
      configurator.contextBuilder.build = some configurator.config ∧
      ∃ serverConfig, config = .server serverConfig ∧
        configurator.contextBuilder.requireClientCert =
          serverConfig.requireClientCertificate

variable {config : TlsConfig}

theorem createCertificateStore_eq (names : config.NamesTrustedCA)
    (created : createCertificateStore manager config.validationContext = some (secretId, store)) :
    secretId = rootsSecretId config.validationContext ∧
      store = some (knownRoots manager config.validationContext) := by
  rcases names with ⟨source, inline⟩ | ⟨name, byName⟩
  · rw [inline] at created ⊢
    rcases map_eq_some_iff.mp created with ⟨found, read, ⟨⟩⟩
    simp [rootsSecretId, knownRoots, read]
  · rw [byName] at created ⊢
    simp only [createCertificateStore] at created
    cases found : manager.getValidationContext name with
    | none | some =>
      rw [found] at created
      cases created
      simp [rootsSecretId, knownRoots, found]

theorem ofConfig_keepsRoots (names : config.NamesTrustedCA)
    (created : Configurator.ofConfig config manager = some configurator) :
    KeepsRoots config (knownRoots manager config.validationContext) configurator := by
  cases config with
  | client config =>
    rcases map_eq_some_iff.mp created with ⟨client, built, rfl⟩
    simp only [ClientConfigurator.ofConfig, bind_eq_bind, bind_eq_some_iff] at built
    rcases built with ⟨⟨storeId, store⟩, found, ⟨secretId, certificate⟩, _, rest⟩
    rcases createCertificateStore_eq names found with ⟨idEqual, storeEqual⟩
    rcases map_eq_some_iff.mp rest with ⟨clientConfig, configBuilt, rfl⟩
    exact ⟨by simp [storeEqual], idEqual, configBuilt, config, rfl⟩
  | server config =>
    rcases map_eq_some_iff.mp created with ⟨server, built, rfl⟩
    simp only [ServerConfigurator.ofConfig, bind_eq_bind, bind_eq_some_iff] at built
    rcases built with ⟨⟨secretId, store⟩, found, certificates, _, rest⟩
    rcases createCertificateStore_eq names found with ⟨idEqual, storeEqual⟩
    rcases map_eq_some_iff.mp rest with ⟨serverConfig, configBuilt, rfl⟩
    refine ⟨storeEqual, ?_, configBuilt, config, rfl, rfl⟩
    simp only [storeEqual]
    exact idEqual

omit [TlsPlatform] in
theorem rootsSecretId_eq_some :
    rootsSecretId context = some name ↔ context = some (.sdsConfig name) := by
  cases context with
  | none => simp [rootsSecretId]
  | some context => cases context <;> simp [rootsSecretId]

variable {known : RootCertStore}

omit [TlsPlatform] in
theorem knownAfter_of_ne (different : ¬ some secretId = rootsSecretId context) :
    knownAfter context known secretId (.validationContext store) = known := by
  apply if_neg
  intro equal
  exact different (rootsSecretId_eq_some.mpr equal).symm

omit [TlsPlatform] in
theorem knownAfter_of_eq (same : some secretId = rootsSecretId context) :
    knownAfter context known secretId (.validationContext store) = store.store :=
  if_pos (rootsSecretId_eq_some.mp same.symm)

theorem ClientConfigurator.update_keepsRoots {configurator : ClientConfigurator}
    (keeps : KeepsRoots config known (.client configurator)) (secretId : Text)
    (secret : TransportSecret) :
    KeepsRoots config (knownAfter config.validationContext known secretId secret)
      (.client ((configurator.update secretId secret).getD configurator)) := by
  rcases keeps with ⟨store, idEqual, built, isClient⟩
  cases secret with
  | certificate certificate =>
    cases updated : configurator.update secretId (.certificate certificate) with
    | none => exact ⟨store, idEqual, built, isClient⟩
    | some next =>
      simp only [ClientConfigurator.update] at updated
      split_ifs at updated
      rcases map_eq_some_iff.mp updated with ⟨nextConfig, nextBuilt, rfl⟩
      exact ⟨store, idEqual, nextBuilt, isClient⟩
  | validationContext newStore =>
    simp only [ClientConfigurator.update]
    split
    · rename_i same
      rw [knownAfter_of_eq (same.trans idEqual)]
      -- The certificate is as before, so that the build succeeds again.
      let next : WantsToBuildClient :=
        { configurator.contextBuilder with
          certificateStore := newStore.store
          certificateSecretId := if configurator.contextBuilder.clientCertificate.isSome then
              configurator.contextBuilder.certificateSecretId
            else none }
      rcases configurator_of_certificate built
        (show next.clientCertificate = configurator.contextBuilder.clientCertificate
          from rfl) with ⟨nextConfig, nextBuilt, equal⟩
      rw [equal, getD_some]
      exact ⟨rfl, idEqual, nextBuilt, isClient⟩
    · rename_i different
      rw [knownAfter_of_ne (fun same => different (same.trans idEqual.symm))]
      exact ⟨store, idEqual, built, isClient⟩

theorem ServerConfigurator.update_keepsRoots
    (keeps : KeepsRoots config known (.server configurator)) (secretId : Text)
    (secret : TransportSecret) :
    KeepsRoots config (knownAfter config.validationContext known secretId secret)
      (.server ((configurator.update secretId secret).getD configurator)) := by
  rcases keeps with ⟨store, idEqual, built, required⟩
  cases secret with
  | certificate certificate =>
    cases updated : configurator.update secretId (.certificate certificate) with
    | none => exact ⟨store, idEqual, built, required⟩
    | some next =>
      rcases bind_eq_some_iff.mp updated with ⟨holders, _, configured⟩
      rcases map_eq_some_iff.mp configured with ⟨nextConfig, nextBuilt, rfl⟩
      refine ⟨store, ?_, nextBuilt, required⟩
      simp only [store]
      exact idEqual
  | validationContext newStore =>
    simp only [ServerConfigurator.update]
    split
    · rename_i same
      rw [knownAfter_of_eq (same.trans idEqual)]
      rcases configurator_of_store built newStore.store
        with ⟨nextConfig, nextBuilt, equal⟩
      rw [equal, getD_some]
      exact ⟨rfl, idEqual, nextBuilt, required⟩
    · rename_i different
      rw [knownAfter_of_ne (fun same => different (same.trans idEqual.symm))]
      exact ⟨store, idEqual, built, required⟩

theorem Configurator.update_keepsRoots (keeps : KeepsRoots config known configurator)
    (secretId : Text) (secret : TransportSecret) :
    KeepsRoots config (knownAfter config.validationContext known secretId secret)
      ((configurator.update secretId secret).getD configurator) := by
  cases configurator with
  | client configurator =>
    simpa [Configurator.update] using ClientConfigurator.update_keepsRoots keeps secretId secret
  | server configurator =>
    simpa [Configurator.update] using ServerConfigurator.update_keepsRoots keeps secretId secret

/-! ## Whole runs -/

def TlsState.KeepsRoots (config : TlsConfig) (state : TlsState) : Prop :=
  ∀ configurator, state.configurator = some configurator →
    Tls.KeepsRoots config state.known configurator

theorem TlsState.step_cases {state : TlsState}
    (taken : state.step config event = some (next, emitted)) :
    (next.configurator = state.configurator ∧ next.known = state.known) ∨
      (∃ configurator, Configurator.ofConfig config state.manager = some configurator ∧
        next.configurator = some configurator ∧
        next.known = knownRoots state.manager config.validationContext) ∨
      ∃ configurator secretId secret, state.configurator = some configurator ∧
        next.configurator = some ((configurator.update secretId secret).getD configurator) ∧
        next.known = knownAfter config.validationContext state.known secretId secret := by
  cases event with
  | arrive secret =>
    simp only [TlsState.step] at taken
    split at taken <;> cases taken <;> exact .inl ⟨rfl, rfl⟩
  | create =>
    simp only [TlsState.step] at taken
    split at taken
    · rename_i configurator created
      cases taken
      exact .inr (.inl ⟨configurator, created, rfl, rfl⟩)
    · cases taken
      exact .inl ⟨rfl, rfl⟩
  | update secretId secret =>
    simp only [TlsState.step] at taken
    split at taken
    · cases taken
    · rename_i configurator current
      cases taken
      exact .inr (.inr ⟨configurator, secretId, secret, current, rfl, rfl⟩)

theorem TlsState.step_keepsRoots (names : config.NamesTrustedCA) {state : TlsState}
    (keeps : state.KeepsRoots config) (taken : state.step config event = some (next, emitted)) :
    next.KeepsRoots config := by
  intro configurator equal
  rcases TlsState.step_cases taken with ⟨same, known⟩ | ⟨created, built, now, known⟩ |
    ⟨before, secretId, secret, current, now, known⟩
  · rw [known]
    exact keeps configurator (same.symm.trans equal)
  · rw [known]
    cases now.symm.trans equal
    exact ofConfig_keepsRoots names built
  · rw [known]
    cases now.symm.trans equal
    exact Configurator.update_keepsRoots (keeps before current) secretId secret

/-- A configuration has something to fulfil unless it is a server's that does not
require client certificates. -/
def TlsConfig.VerifiesPeers : TlsConfig → Prop
  | .client _ => True
  | .server config => config.requireClientCertificate = true

theorem ClientConfigurator.failsClosed_iff
    (keeps : KeepsRoots config known (.client configurator)) :
    FailsClosed config known (.client configurator) ↔ known ≠ [] := by
  rcases keeps with ⟨store, _, built, _⟩
  have verifier := build_verifier built
  rw [store] at verifier
  constructor
  · rintro closed rfl
    have accepted := closed []
    rw [verifies_nothing, ClientConfig.acceptsServer, verifier] at accepted
    cases accepted
  · intro nonempty certificate
    rw [ClientConfig.acceptsServer, verifier, if_neg (by simpa using nonempty)]

theorem ServerConfigurator.failsClosed_iff
    (keeps : KeepsRoots config known (.server configurator)) :
    FailsClosed config known (.server configurator) ↔ (config.VerifiesPeers → known ≠ []) := by
  rcases keeps with ⟨store, _, built, ⟨required, context⟩, rfl, requires⟩
  cases required with
  | false => simp [FailsClosed, TlsConfig.VerifiesPeers]
  | true =>
    have verifier := build_verifier built
    rw [clientVerifier, requires, store, some.injEq] at verifier
    constructor
    · rintro closed _ rfl
      have accepted := closed none
      simp [ServerConfig.acceptsClient, ← verifier] at accepted
    · intro nonempty presented
      rw [if_neg (by simpa using nonempty rfl)] at verifier
      cases presented <;> simp [ServerConfig.acceptsClient, ← verifier]

/-- At every point of every run, peers are verified against the known roots
exactly when there are some. -/
theorem run_failsClosed_iff {config : TlsConfig} (names : config.NamesTrustedCA)
    {events : List TlsEvent} {emitted : List Unit} {state : TlsState}
    (run : (TlsState.machine config).Run Machine.anyStep TlsState.initial events emitted state)
    {configurator : Configurator} (current : state.configurator = some configurator) :
    FailsClosed config state.known configurator ↔ (config.VerifiesPeers → state.known ≠ []) := by
  have keeps : state.KeepsRoots config := by
    refine run.stateInvariant (TlsState.KeepsRoots config) ?_ ?_
    · rintro _ ⟨⟩
    · intro state event next emitted keeps _ taken
      exact TlsState.step_keepsRoots names keeps taken
  have kept := keeps configurator current
  cases configurator with
  | client configurator =>
    rcases kept with ⟨_, _, _, clientConfig, rfl⟩
    rw [ClientConfigurator.failsClosed_iff (keeps _ current)]
    simp [TlsConfig.VerifiesPeers]
  | server configurator => exact ServerConfigurator.failsClosed_iff kept

end

/-! ## Two runs -/

/-- A platform without files, on which a peer is verified when its certificate is
one of the roots. -/
@[reducible]
def TlsPlatform.withoutFiles : TlsPlatform where
  read _ := none
  parseCertificates bytes := some [bytes]
  isTrustAnchor _ := true
  readCertificate _ := none
  hasProvider := true
  acceptsKey _ _ := true
  loadsKey _ := true
  servesName _ _ := true
  verifies roots certificate := decide (certificate ∈ roots)
  verifies_nothing _ := by simp

@[reducible]
def TlsPlatform.inlineSecrets : TlsPlatform :=
  { withoutFiles with
    read := fun
      | .inlineBytes bytes => some bytes
      | _ => none
    readCertificate := fun
      | ⟨.inlineBytes chain, .inlineBytes key⟩ =>
        some ⟨none, key, [chain], ⟨.inlineBytes chain, .inlineBytes key⟩⟩
      | _ => none }

def clientOfCa : TlsConfig :=
  .client ⟨"upstream".toList, {}, none, some (.sdsConfig "ca".toList)⟩

attribute [local instance] withoutFiles

/-- Before the roots have arrived, a client accepts every server. -/
theorem create_before_roots_accepts :
    clientOfCa.NamesTrustedCA ∧
      ∃ state configurator,
        (TlsState.machine clientOfCa).Run Machine.anyStep TlsState.initial [.create] [] state ∧
        state.configurator = some (.client configurator) ∧ state.known = [] ∧
        (∀ certificate, configurator.config.acceptsServer certificate = true) ∧
        ¬ FailsClosed clientOfCa state.known (.client configurator) := by
  refine ⟨.inr ⟨_, rfl⟩, _, _,
    Machine.Run.any_of_execute rfl, rfl, rfl, ?_, ?_⟩
  · intro certificate
    rfl
  · intro closed
    cases closed []

def clientWithRoots : ClientConfigurator where
  contextBuilder := ⟨[.tls12, .tls13], some "ca".toList, [[1]], none, none,
    "upstream".toList⟩
  config := ⟨[.tls12, .tls13], .webPki [[1]], none⟩

theorem run_roots_arrive : (TlsState.machine clientOfCa).Run Machine.anyStep TlsState.initial
      [.create, .update "ca".toList
        (.validationContext ⟨[[1]], .trustedCA (.path "ca.pem".toList)⟩)] []
      ⟨.empty, some (.client clientWithRoots), [[1]]⟩ :=
  Machine.Run.of_execute rfl (And.intro trivial (And.intro trivial trivial))

theorem failsClosed_once_roots_arrive : FailsClosed clientOfCa [[1]] (.client clientWithRoots) :=
  (run_failsClosed_iff (.inr ⟨_, rfl⟩) run_roots_arrive rfl).mpr (by simp)

end Orion.Tls
