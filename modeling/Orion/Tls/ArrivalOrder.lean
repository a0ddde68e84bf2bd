import Orion.Tls.FailClosed

/-! # When secrets arrive

A TLS context may be built before or after the secrets that it names have arrived. Roots
find their context in either case. A certificate that was missing when the context was
built is not found by it later.
-/

namespace Orion.Tls

open Foundation Http SecretManager SecretHolder Configurator WantsToBuildServer TlsPlatform List

/-! ## Contexts and secrets -/

/-- The certificates, the client certificate and the trust store of a context. -/
structure InUse where
  certificates : List SecretHolder
  clientCertificate : Option ClientCert
  trustStore : Option RootCertStore
  deriving DecidableEq

def Configurator.inUse : Configurator → InUse
  | .client configurator => ⟨[], configurator.contextBuilder.clientCertificate,
      some configurator.contextBuilder.certificateStore⟩
  | .server configurator => ⟨configurator.contextBuilder.serverIdsAndCertificates, none,
      configurator.contextBuilder.certificateStore⟩

def TlsConfig.BySds : TlsConfig → Prop
  | .client config => ∀ certificate, config.secret ≠ some (.certificate certificate)
  | .server config => ∃ names, config.commonTlsContext.secrets = .sdsConfig names

def TlsClientConfig.certificateName (config : TlsClientConfig) : Option Text :=
  match config.secret with
  | some (.sdsConfig name) => some name
  | _ => none

def TlsConfig.certificateNames : TlsConfig → List Text
  | .client config => config.certificateName.toList
  | .server config =>
    match config.commonTlsContext.secrets with
    | .sdsConfig names => names
    | .certificates _ => []

def SecretManager.arrived (manager : SecretManager) (names : List Text) : List Text :=
  names.filter fun name => (manager.getCertificate name).isSome

section

variable [TlsPlatform]

def SecretManager.receive (manager : SecretManager) (secret : Secret) : SecretManager :=
  ((manager.add secret).map Prod.fst).getD manager

def SecretManager.receiveAll (manager : SecretManager) (secrets : List Secret) : SecretManager :=
  secrets.foldl receive manager

structure TlsContext where
  manager : SecretManager
  configurator : Configurator

/-- A secret is kept, and the context updated with it. An update that fails leaves the
context as it is. -/
def TlsContext.receive (context : TlsContext) (secret : Secret) : TlsContext :=
  match context.manager.add secret with
  | none => context
  | some (manager, material) =>
    ⟨manager, (context.configurator.update secret.name material).getD context.configurator⟩

def TlsContext.receiveAll (context : TlsContext) (secrets : List Secret) : TlsContext :=
  secrets.foldl TlsContext.receive context

/-- A server with one certificate needs its key; with several, a key that cannot be loaded
is left out, and the names of the others have to be served. -/
def ServerCert.Fits (single : Prop) [Decidable single] (certificate : ServerCert) : Prop :=
  if single then acceptsKey certificate.certs certificate.key = true
  else loadsKey certificate.key = true →
    servesName certificate.name certificate.certs = true

/-- A context can be built with a certificate, next to the others that have arrived. -/
def TlsConfig.CanUse (config : TlsConfig) (manager : SecretManager)
    (secret : CertificateSecret) : Prop :=
  match config with
  | .client _ => acceptsKey secret.certs secret.key = true
  | .server _ => (ServerCert.ofSecret secret).Fits
      ((manager.arrived config.certificateNames).length = 1)

/-! ## What has arrived -/

def SecretManager.insert (manager : SecretManager) (name : Text) :
    TransportSecret → SecretManager
  | .certificate secret =>
    { manager with certificateSecrets := manager.certificateSecrets.insert name secret }
  | .validationContext store =>
    { manager with validationContexts := manager.validationContexts.insert name store }

variable {manager next : SecretManager}

theorem SecretManager.add_eq_some (added : manager.add secret = some (next, material)) :
    next = manager.insert secret.name material := by
  unfold add at added
  split at added
  all_goals
    rcases Option.map_eq_some_iff.mp added with ⟨_, _, ⟨⟩⟩
    rfl

omit [TlsPlatform] in
theorem SecretManager.getCertificate_insert (manager : SecretManager) (name other : Text)
    (secret : CertificateSecret) :
    (manager.insert name (.certificate secret)).getCertificate other =
      if other = name then some secret else manager.getCertificate other := rfl

omit [TlsPlatform] in
theorem SecretManager.isSome_insert (name : Text) (material : TransportSecret)
    (known : (manager.getCertificate other).isSome) :
    ((manager.insert name material).getCertificate other).isSome := by
  cases material with
  | certificate secret =>
    rw [getCertificate_insert]
    split
    · rfl
    · exact known
  | validationContext store => exact known

theorem TlsContext.receiveAll_invariant (Holds : TlsContext → Prop)
    (preserved : ∀ context name material, Holds context →
      Holds ⟨context.manager.insert name material,
        (context.configurator.update name material).getD context.configurator⟩)
    (holds : Holds context) (secrets : List Secret) : Holds (context.receiveAll secrets) := by
  induction secrets generalizing context with
  | nil => exact holds
  | cons secret secrets induction =>
    apply induction
    unfold TlsContext.receive
    split
    · exact holds
    · rename_i added
      rw [add_eq_some added]
      exact preserved _ _ _ holds

theorem TlsContext.receiveAll_manager (context : TlsContext) (secrets : List Secret) :
    (context.receiveAll secrets).manager = context.manager.receiveAll secrets := by
  induction secrets generalizing context with
  | nil => rfl
  | cons secret secrets induction =>
    refine (induction _).trans ?_
    change _ = (context.manager.receive secret).receiveAll secrets
    unfold TlsContext.receive SecretManager.receive
    cases context.manager.add secret <;> rfl

/-! ## Trust stores -/

theorem createCertificateStore_id
    (created : createCertificateStore manager context = some (secretId, store)) :
    secretId = rootsSecretId context ∧ (store = none → secretId = none) := by
  cases context with
  | none =>
    cases created
    exact ⟨rfl, fun _ => rfl⟩
  | some context =>
    cases context with
    | sdsConfig name =>
      simp only [createCertificateStore] at created
      split at created
      all_goals
        cases created
        exact ⟨rfl, fun impossible => by cases impossible⟩
    | validationContext inline =>
      rcases Option.map_eq_some_iff.mp created with ⟨_, _, ⟨⟩⟩
      exact ⟨rfl, fun _ => rfl⟩

theorem createCertificateStore_kept
    (created : createCertificateStore manager context = some (secretId, store)) :
    (if store.isSome then secretId else none) = secretId := by
  cases store with
  | none => exact ((createCertificateStore_id created).2 rfl).symm
  | some => rfl

theorem createCertificateStore_insert
    (created : createCertificateStore manager context = some (secretId, store)) (name : Text)
    (fresh : CertStore) :
    createCertificateStore (manager.insert name (.validationContext fresh)) context =
      some (secretId, if some name = secretId then some fresh.store else store) := by
  cases context with
  | none =>
    cases created
    rfl
  | some context =>
    cases context with
    | sdsConfig other =>
      have same := (createCertificateStore_id created).1
      subst same
      by_cases equal : other = name
      · subst equal
        simp [createCertificateStore, SecretManager.insert,
          getValidationContext, Table.insert, rootsSecretId]
      · simp only [rootsSecretId, Option.some.injEq, if_neg (Ne.symm equal)] at created ⊢
        rw [← created]
        simp [createCertificateStore, SecretManager.insert,
          getValidationContext, Table.insert, equal]
    | validationContext inline =>
      rcases Option.map_eq_some_iff.mp created with ⟨read, found, ⟨⟩⟩
      simp [createCertificateStore, found]

/-! ## The certificates of a server -/

omit [TlsPlatform] in
def SecretManager.holder? (manager : SecretManager) (name : Text) : Option SecretHolder :=
  (manager.getCertificate name).map fun secret => ⟨name, .ofSecret secret⟩

omit [TlsPlatform] in
theorem SecretManager.map_name_holders (manager : SecretManager) (names : List Text) :
    (names.filterMap manager.holder?).map name = manager.arrived names := by
  induction names with
  | nil => rfl
  | cons name names induction =>
    unfold arrived at induction ⊢
    cases found : manager.getCertificate name <;> simp [holder?, found, induction]

omit [TlsPlatform] in
theorem foldlM_certificates_eq_some_iff (manager : SecretManager) (names : List Text)
    (holders : List SecretHolder) : ∀ before : List SecretHolder, (before.map name).Nodup →
      (names.foldlM (fun holders name =>
        match manager.getCertificate name with
        | none => some holders
        | some secret =>
          if holders.any fun holder => holder.name = name then
            none
          else
            some (holders ++ [⟨name, .ofSecret secret⟩])) before = some holders ↔
        holders = before ++ names.filterMap manager.holder? ∧
          (before.map name ++ manager.arrived names).Nodup) := by
  induction names with
  | nil =>
    intro before distinct
    change some before = some holders ↔ holders = before ++ [] ∧ (before.map name ++ []).Nodup
    rw [append_nil, append_nil]
    constructor
    · intro same
      exact ⟨(Option.some.inj same).symm, distinct⟩
    · intro both
      rw [both.1]
  | cons name names induction =>
    intro before distinct
    rw [foldlM_cons]
    cases found : manager.getCertificate name with
    | none =>
      simpa [arrived, holder?, found] using
        induction before distinct
    | some secret =>
      by_cases twice : name ∈ before.map SecretHolder.name
      · have refused : (before.any fun holder => decide (holder.name = name)) := by
          simpa using twice
        simp only [refused, arrived, found, Option.isSome_some, filter_cons_of_pos]
        constructor
        · intro impossible
          cases impossible
        · rintro ⟨_, apart⟩
          cases (nodup_append.mp apart).2.2 name twice name (mem_cons_self ..) rfl
      · have accepted : (before.any fun holder => decide (holder.name = name)) = false := by
          simpa using twice
        simp only [accepted]
        refine (induction (before ++ [⟨name, .ofSecret secret⟩]) ?_).trans ?_
        · rw [map_append]
          exact nodup_append.mpr ⟨distinct, by simp, by simpa using twice⟩
        · simp [arrived, holder?, found]

/-- The holders are those of the certificates that have arrived, if no name among them
occurs twice. -/
theorem serverCertificates_eq_some_iff (manager : SecretManager) (names : List Text)
    (holders : List SecretHolder) :
    serverCertificates manager (.sdsConfig names) = some holders ↔
      holders = names.filterMap manager.holder? ∧ (manager.arrived names).Nodup := by
  exact foldlM_certificates_eq_some_iff manager names holders [] nodup_nil

/-- A server can be built if its certificates fit, and there are roots for the clients it
asks for certificates. -/
theorem WantsToBuildServer.build_isSome_iff (builder : WantsToBuildServer) :
    builder.build.isSome ↔
      builder.clientVerifier.isSome ∧ hasProvider ∧
        ∀ holder ∈ builder.serverIdsAndCertificates,
          holder.serverCert.Fits (builder.serverIdsAndCertificates.length = 1) := by
  unfold build
  cases builder.clientVerifier with
  | none => simp
  | some verifier =>
    unfold withClientVerifier
    by_cases provided : hasProvider
    · have allowed : (guard (hasProvider) : Option Unit) = some () :=
        if_pos provided
      simp only [Option.bind_eq_bind, provided]
      generalize builder.serverIdsAndCertificates = holders
      split
      · rename_i certificate
        by_cases accepted : acceptsKey certificate.certs certificate.key <;>
          simp [ServerCert.Fits, accepted]
      · rename_i several
        have count : ¬ holders.length = 1 := by
          intro one
          rcases length_eq_one_iff.mp one with ⟨holder, rfl⟩
          exact several holder.name holder.serverCert rfl
        have fit : ((holders.filter fun holder => loadsKey holder.serverCert.key).all
            fun holder => servesName holder.serverCert.name holder.serverCert.certs) ↔
            ∀ holder ∈ holders, holder.serverCert.Fits (holders.length = 1) := by
          simp only [ServerCert.Fits, count, if_false, all_eq_true, mem_filter, and_imp]
        rw [← fit]
        cases (holders.filter fun holder => loadsKey holder.serverCert.key).all
          fun holder => servesName holder.serverCert.name holder.serverCert.certs <;> simp
    · have refused : (guard (hasProvider) : Option Unit) = none :=
        if_neg provided
      rw [refused]
      simp [provided]

/-! ## Replacing a certificate -/

variable {name : Text}

omit [TlsPlatform] in
theorem replaceCertificate_eq_none (missing : name ∉ holders.map SecretHolder.name)
    (certificate : ServerCert) : replaceCertificate name certificate holders = none := by
  induction holders with
  | nil => rfl
  | cons holder holders induction =>
    simp only [map_cons, mem_cons, not_or] at missing
    rw [replaceCertificate, if_neg (Ne.symm missing.1), induction missing.2]
    rfl

def SecretHolder.replaced (name : Text) (certificate : ServerCert) (holder : SecretHolder) :
    SecretHolder :=
  if holder.name = name then { holder with serverCert := certificate } else holder

omit [TlsPlatform] in
theorem SecretHolder.replaced_name (name : Text) (certificate : ServerCert)
    (holder : SecretHolder) : (holder.replaced name certificate).name = holder.name := by
  unfold replaced
  split <;> rfl

omit [TlsPlatform] in
theorem replaceCertificate_eq_map (present : name ∈ holders.map SecretHolder.name)
    (distinct : (holders.map SecretHolder.name).Nodup) (certificate : ServerCert) :
    replaceCertificate name certificate holders =
      some (holders.map (replaced name certificate)) := by
  induction holders with
  | nil => cases present
  | cons holder holders induction =>
    rw [map_cons, nodup_cons] at distinct
    by_cases same : holder.name = name
    · have others : ∀ other ∈ holders, other.replaced name certificate = other := by
        intro other member
        apply if_neg
        rintro rfl
        exact distinct.1 (same ▸ mem_map_of_mem member)
      rw [replaceCertificate, if_pos same, map_cons, map_congr_left others,
        map_id', replaced, if_pos same]
    · have later := (mem_cons.mp present).resolve_left (Ne.symm same)
      rw [replaceCertificate, if_neg same, induction later distinct.2, map_cons,
        replaced, if_neg same]
      rfl

/-- A server that was built can be built with another certificate that fits. -/
theorem WantsToBuildServer.build_replaced {builder : WantsToBuildServer}
    (built : builder.build = some config) (name : Text)
    (fits : certificate.Fits (builder.serverIdsAndCertificates.length = 1)) : (build { builder with
        serverIdsAndCertificates := builder.serverIdsAndCertificates.map
          (replaced name certificate) }).isSome := by
  have before := Option.isSome_of_eq_some built
  rw [build_isSome_iff] at before ⊢
  refine ⟨before.1, before.2.1, ?_⟩
  intro holder member
  rcases mem_map.mp member with ⟨earlier, known, rfl⟩
  simp only [length_map]
  unfold replaced
  split
  · exact fits
  · exact before.2.2 earlier known

/-! ## Servers -/

namespace ServerConfigurator

def builder (config : TlsServerConfig) (secretId : Option Text) (store : Option RootCertStore)
    (holders : List SecretHolder) : WantsToBuildServer where
  supportedVersions := config.commonTlsContext.parameters.supportedVersion
  validationContextSecretId := secretId
  certificateStore := store
  serverIdsAndCertificates := holders
  requireClientCert := config.requireClientCertificate

variable {config : TlsServerConfig} {names : List Text} {manager : SecretManager}

theorem ofConfig_eq (bySds : config.commonTlsContext.secrets = .sdsConfig names)
    (created : createCertificateStore manager config.commonTlsContext.validationContext =
      some (secretId, store)) :
    ofConfig config manager = (serverCertificates manager (.sdsConfig names)).bind
      fun holders => (builder config secretId store holders).configurator := by
  simp only [ofConfig, created, bySds, Option.bind_eq_bind, Option.bind_some,
    createCertificateStore_kept created]
  rfl

/-- The server has its roots, and of each certificate it knows the last that fits. -/
structure Follows (config : TlsServerConfig) (known : List Text) (manager : SecretManager)
    (configurator : ServerConfigurator) : Prop where
  built : configurator.contextBuilder.build = some configurator.config
  store : createCertificateStore manager config.commonTlsContext.validationContext =
    some (configurator.contextBuilder.validationContextSecretId,
      configurator.contextBuilder.certificateStore)
  required : configurator.contextBuilder.requireClientCert = config.requireClientCertificate
  names : configurator.contextBuilder.serverIdsAndCertificates.map SecretHolder.name = known
  fitting : ∀ holder ∈ configurator.contextBuilder.serverIdsAndCertificates, ∀ secret,
    manager.getCertificate holder.name = some secret →
    (ServerCert.ofSecret secret).Fits
      (configurator.contextBuilder.serverIdsAndCertificates.length = 1) →
    holder.serverCert = .ofSecret secret

variable {configurator : ServerConfigurator}

theorem follows_of_ofConfig (bySds : config.commonTlsContext.secrets = .sdsConfig names)
    (created : ofConfig config manager = some configurator) : (manager.arrived names).Nodup ∧
      configurator.Follows config (manager.arrived names) manager := by
  rcases Option.bind_eq_some_iff.mp created with ⟨⟨secretId, store⟩, stored, _⟩
  rw [ofConfig_eq bySds stored] at created
  rcases Option.bind_eq_some_iff.mp created with ⟨holders, certificates, configured⟩
  rcases (serverCertificates_eq_some_iff manager names holders).mp certificates with ⟨rfl, distinct⟩
  rcases Option.map_eq_some_iff.mp configured with ⟨serverConfig, built, rfl⟩
  refine ⟨distinct, built, stored, rfl, manager.map_name_holders names, ?_⟩
  intro holder member secret found _
  rcases mem_filterMap.mp member with ⟨name, _, held⟩
  rcases Option.map_eq_some_iff.mp held with ⟨other, present, rfl⟩
  cases present.symm.trans found
  rfl

theorem Follows.update_certificate {known : List Text}
    (follows : configurator.Follows config known manager) (distinct : known.Nodup) (name : Text)
    (secret : CertificateSecret) :
    ((configurator.update name (.certificate secret)).getD configurator).Follows config known
      (manager.insert name (.certificate secret)) := by
  have distinctNames := follows.names.symm ▸ distinct
  by_cases held : name ∈ configurator.contextBuilder.serverIdsAndCertificates.map SecretHolder.name
  · have replaced := replaceCertificate_eq_map held distinctNames (.ofSecret secret)
    simp only [update, replaced, Option.bind_eq_bind, Option.bind_some,
      createCertificateStore_kept follows.store, WantsToBuildServer.configurator]
    cases built : build
      { configurator.contextBuilder with
        serverIdsAndCertificates := configurator.contextBuilder.serverIdsAndCertificates.map
          (SecretHolder.replaced name (.ofSecret secret)) } with
    | none =>
      refine ⟨follows.built, follows.store, follows.required, follows.names, ?_⟩
      intro holder member other found fits
      rw [getCertificate_insert] at found
      split at found
      · cases found
        have possible := WantsToBuildServer.build_replaced follows.built name fits
        rw [built] at possible
        cases possible
      · exact follows.fitting holder member other found fits
    | some next =>
      refine ⟨built, follows.store, follows.required, ?_, ?_⟩
      · rw [← follows.names]
        simp [SecretHolder.replaced_name]
      · intro holder member other found fits
        rcases mem_map.mp member with ⟨before, known, rfl⟩
        change (ServerCert.ofSecret other).Fits ((map _ _).length = 1) at fits
        simp only [length_map] at fits
        rw [SecretHolder.replaced_name, getCertificate_insert] at found
        unfold SecretHolder.replaced
        split at found
        · rename_i same
          cases found
          rw [if_pos same]
        · rename_i different
          rw [if_neg different]
          exact follows.fitting before known other found fits
  · have unknown := replaceCertificate_eq_none held (.ofSecret secret)
    simp only [update, unknown]
    refine ⟨follows.built, follows.store, follows.required, follows.names, ?_⟩
    intro holder member other found fits
    rw [getCertificate_insert, if_neg] at found
    · exact follows.fitting holder member other found fits
    · rintro rfl
      exact held (mem_map_of_mem member)

theorem Follows.update_validationContext {known : List Text}
    (follows : configurator.Follows config known manager) (name : Text) (fresh : CertStore) :
    ((configurator.update name (.validationContext fresh)).getD configurator).Follows config
      known (manager.insert name (.validationContext fresh)) := by
  have stored := createCertificateStore_insert follows.store name fresh
  by_cases named : some name = configurator.contextBuilder.validationContextSecretId
  · rcases configurator_of_store follows.built fresh.store with ⟨config', built, configured⟩
    rw [if_pos named] at stored
    simp only [update, if_pos named, configured]
    exact ⟨built, stored, follows.required, follows.names, follows.fitting⟩
  · rw [if_neg named] at stored
    simp only [update, if_neg named]
    exact ⟨follows.built, stored, follows.required, follows.names, follows.fitting⟩

theorem Follows.update (distinct : known.Nodup)
    (follows : configurator.Follows config known manager) (name : Text)
    (material : TransportSecret) :
    ((configurator.update name material).getD configurator).Follows config known
      (manager.insert name material) := by
  cases material with
  | certificate secret => exact follows.update_certificate distinct name secret
  | validationContext store => exact follows.update_validationContext name store

/-- The holders of a server that knows all names are those of the last certificates. -/
theorem Follows.holders_eq {before : SecretManager}
    (follows : configurator.Follows config (before.arrived names) manager)
    (arrived : manager.arrived names = before.arrived names)
    (fits : ∀ name ∈ names, ∀ secret, manager.getCertificate name = some secret →
      (ServerCert.ofSecret secret).Fits ((manager.arrived names).length = 1)) :
    names.filterMap manager.holder? = configurator.contextBuilder.serverIdsAndCertificates := by
  have length : (manager.arrived names).length =
      configurator.contextBuilder.serverIdsAndCertificates.length := by
    rw [arrived, ← follows.names, length_map]
  have each : ∀ holder ∈ configurator.contextBuilder.serverIdsAndCertificates,
      manager.holder? holder.name = some holder := by
    intro holder member
    have among : holder.name ∈ manager.arrived names := by
      rw [arrived, ← follows.names]
      exact mem_map_of_mem member
    rcases mem_filter.mp among with ⟨listed, present⟩
    rcases Option.isSome_iff_exists.mp present with ⟨secret, found⟩
    have fit := fits holder.name listed secret found
    simp only [length] at fit
    simp [holder?, found, ← follows.fitting holder member secret found fit]
  calc names.filterMap manager.holder? = (manager.arrived names).filterMap manager.holder? := by
        rw [SecretManager.arrived, filterMap_filter]
        apply filterMap_congr
        intro name _
        cases found : manager.getCertificate name <;> simp [holder?, found]
    _ = (configurator.contextBuilder.serverIdsAndCertificates.map
          name).filterMap manager.holder? := by
        rw [follows.names, arrived]
    _ = configurator.contextBuilder.serverIdsAndCertificates := by
        rw [filterMap_map]
        exact (filterMap_congr each).trans filterMap_some

/-- A server that follows its secrets is as one built from them, if each certificate was
known to it and fits. -/
theorem Follows.same_iff (bySds : config.commonTlsContext.secrets = .sdsConfig names)
    {before : SecretManager} (follows : configurator.Follows config (before.arrived names) manager)
    (distinct : (before.arrived names).Nodup) (kept : ∀ name, (before.getCertificate name).isSome →
      (manager.getCertificate name).isSome) :
    ((ofConfig config manager).map fun next => (server next).inUse) =
        some (server configurator).inUse ↔
      (∀ name ∈ names, (manager.getCertificate name).isSome → (before.getCertificate name).isSome) ∧
      ∀ name ∈ names, ∀ secret, manager.getCertificate name = some secret →
        (ServerCert.ofSecret secret).Fits ((manager.arrived names).length = 1) := by
  rw [ofConfig_eq bySds follows.store]
  constructor
  · intro same
    rcases Option.map_eq_some_iff.mp same with ⟨next, created, equal⟩
    rcases Option.bind_eq_some_iff.mp created with ⟨holders, certificates, configured⟩
    rcases (serverCertificates_eq_some_iff manager names holders).mp certificates with ⟨rfl, _⟩
    rcases Option.map_eq_some_iff.mp configured with ⟨serverConfig, built, rfl⟩
    have arrived : manager.arrived names = before.arrived names := by
      rw [← manager.map_name_holders names, ← follows.names]
      exact congrArg (map name) (congrArg InUse.certificates equal)
    constructor
    · intro name member known
      have among : name ∈ before.arrived names :=
        arrived ▸ mem_filter.mpr ⟨member, known⟩
      exact (mem_filter.mp among).2
    · intro name member secret found
      have buildable := (build_isSome_iff _).mp (Option.isSome_of_eq_some built)
      have held : (⟨name, .ofSecret secret⟩ : SecretHolder) ∈ names.filterMap manager.holder? :=
        mem_filterMap.mpr ⟨name, member, by simp [holder?, found]⟩
      have fits := buildable.2.2 _ held
      change (ServerCert.ofSecret secret).Fits ((names.filterMap manager.holder?).length = 1)
        at fits
      rw [← manager.map_name_holders names]
      simpa using fits
  · rintro ⟨known, fits⟩
    have arrived : manager.arrived names = before.arrived names := by
      apply filter_congr
      intro name member
      rw [Bool.eq_iff_iff]
      exact ⟨known name member, kept name⟩
    have holders := follows.holders_eq arrived fits
    have certificates := (serverCertificates_eq_some_iff manager names _).mpr
      ⟨rfl, arrived ▸ distinct⟩
    rw [certificates, holders, Option.bind_some]
    have buildable : (builder config configurator.contextBuilder.validationContextSecretId
        configurator.contextBuilder.certificateStore
        configurator.contextBuilder.serverIdsAndCertificates).build.isSome := by
      have possible := (build_isSome_iff _).mp (Option.isSome_of_eq_some follows.built)
      rw [build_isSome_iff]
      refine ⟨?_, possible.2⟩
      rw [← possible.1, clientVerifier, clientVerifier, follows.required]
      rfl
    rcases Option.isSome_iff_exists.mp buildable with ⟨serverConfig, built⟩
    rw [WantsToBuildServer.configurator, built]
    rfl

end ServerConfigurator

/-! ## Clients -/

namespace ClientConfigurator

def arrived (config : TlsClientConfig) (manager : SecretManager) : Option CertificateSecret :=
  config.certificateName.bind manager.getCertificate

def builder (config : TlsClientConfig) (secretId : Option Text) (store : RootCertStore)
    (certificate : Option ClientCert) : WantsToBuildClient where
  supportedVersions := config.parameters.supportedVersion
  validationContextSecretId := secretId
  certificateStore := store
  certificateSecretId := if certificate.isSome then config.certificateName else none
  clientCertificate := certificate
  sni := config.sni

variable {config : TlsClientConfig} {manager : SecretManager}

theorem ofConfig_eq (bySds : ∀ certificate, config.secret ≠ some (.certificate certificate))
    (created : createCertificateStore manager config.validationContext = some (secretId, store)) :
    ofConfig config manager = (builder config secretId (store.getD [])
      ((arrived config manager).map .ofSecret)).configurator := by
  have found : clientCertificate manager config.secret =
      some (config.certificateName, (arrived config manager).map .ofSecret) := by
    rcases config with ⟨sni, parameters, secret, context⟩
    cases secret with
    | none => rfl
    | some secret =>
      cases secret with
      | sdsConfig name => rfl
      | certificate certificate => exact absurd rfl (bySds certificate)
  simp only [ofConfig, created, found]
  rfl

/-- The client has its roots, and if it knows its certificate, the last that fits. -/
structure Follows (config : TlsClientConfig) (known : Bool) (manager : SecretManager)
    (configurator : ClientConfigurator) : Prop where
  built : configurator.contextBuilder.build = some configurator.config
  store : ∃ store, createCertificateStore manager config.validationContext =
      some (configurator.contextBuilder.validationContextSecretId, store) ∧
    configurator.contextBuilder.certificateStore = store.getD []
  secretId : configurator.contextBuilder.certificateSecretId =
    if configurator.contextBuilder.clientCertificate.isSome then config.certificateName
    else none
  known : configurator.contextBuilder.clientCertificate.isSome = known
  fitting : ∀ certificate secret,
    configurator.contextBuilder.clientCertificate = some certificate →
    arrived config manager = some secret →
    acceptsKey secret.certs secret.key = true → certificate = .ofSecret secret

variable {configurator : ClientConfigurator}

theorem follows_of_ofConfig (bySds : ∀ certificate, config.secret ≠ some (.certificate certificate))
    (created : ofConfig config manager = some configurator) :
    configurator.Follows config (arrived config manager).isSome manager := by
  rcases Option.bind_eq_some_iff.mp created with ⟨⟨secretId, store⟩, stored, _⟩
  rw [ofConfig_eq bySds stored] at created
  rcases Option.map_eq_some_iff.mp created with ⟨clientConfig, built, rfl⟩
  refine ⟨built, ⟨store, stored, rfl⟩, rfl, by simp [builder], ?_⟩
  intro certificate secret presented present _
  rw [present] at presented
  exact (Option.some.inj presented).symm

omit [TlsPlatform] in
theorem arrived_insert (config : TlsClientConfig) (manager : SecretManager) (name : Text)
    (secret : CertificateSecret) :
    arrived config (manager.insert name (.certificate secret)) =
      if some name = config.certificateName then some secret else arrived config manager := by
  unfold arrived
  cases config.certificateName with
  | none => rfl
  | some other =>
    by_cases same : name = other
    · subst same
      simp [getCertificate_insert]
    · simp [getCertificate_insert, same, Ne.symm same]

theorem Follows.update_certificate {known : Bool}
    (follows : configurator.Follows config known manager) (name : Text)
    (secret : CertificateSecret) :
    ((configurator.update name (.certificate secret)).getD configurator).Follows config known
      (manager.insert name (.certificate secret)) := by
  have store := follows.store
  by_cases named : some name = configurator.contextBuilder.certificateSecretId
  · have presented : configurator.contextBuilder.clientCertificate.isSome := by
      by_contra absent
      rw [follows.secretId, if_neg absent] at named
      cases named
    have sameName := follows.secretId
    rw [if_pos presented] at sameName
    simp only [update, if_pos named, WantsToBuildClient.configurator]
    cases built : WantsToBuildClient.build
      { configurator.contextBuilder with clientCertificate := some (.ofSecret secret) } with
    | none =>
      refine ⟨follows.built, store, follows.secretId, follows.known, ?_⟩
      intro certificate other found present fits
      rw [arrived_insert, if_pos (named.trans sameName)] at present
      cases present
      simp [WantsToBuildClient.build, ClientCert.ofSecret, fits] at built
    | some next =>
      refine ⟨built, store, sameName, presented.symm.trans follows.known, ?_⟩
      intro certificate other found present _
      cases found
      rw [arrived_insert, if_pos (named.trans sameName)] at present
      cases present
      rfl
  · simp only [update, if_neg named, Option.getD_none]
    refine ⟨follows.built, store, follows.secretId, follows.known, ?_⟩
    intro certificate other found present fits
    rw [arrived_insert] at present
    split at present
    · rename_i same
      have sameName := follows.secretId
      rw [found] at sameName
      exact absurd (same.trans sameName.symm) named
    · exact follows.fitting certificate other found present fits

theorem Follows.update_validationContext {known : Bool}
    (follows : configurator.Follows config known manager) (name : Text) (fresh : CertStore) :
    ((configurator.update name (.validationContext fresh)).getD configurator).Follows config
      known (manager.insert name (.validationContext fresh)) := by
  rcases follows.store with ⟨store, created, same⟩
  have stored := createCertificateStore_insert created name fresh
  by_cases named : some name = configurator.contextBuilder.validationContextSecretId
  · rw [if_pos named] at stored
    have sameId : (if configurator.contextBuilder.clientCertificate.isSome then
        configurator.contextBuilder.certificateSecretId else none) =
        configurator.contextBuilder.certificateSecretId := by
      rw [follows.secretId]
      split <;> rfl
    simp only [update, if_pos named, sameId]
    rcases @WantsToBuildClient.configurator_of_certificate _ _ _
      { configurator.contextBuilder with certificateStore := fresh.store } follows.built rfl with
      ⟨next, built, configured⟩
    rw [configured]
    exact ⟨built, ⟨_, stored, rfl⟩, follows.secretId, follows.known, follows.fitting⟩
  · rw [if_neg named] at stored
    simp only [update, if_neg named]
    exact ⟨follows.built, ⟨store, stored, same⟩, follows.secretId, follows.known, follows.fitting⟩

theorem Follows.update {known : Bool} (follows : configurator.Follows config known manager)
    (name : Text) (material : TransportSecret) :
    ((configurator.update name material).getD configurator).Follows config known
      (manager.insert name material) := by
  cases material with
  | certificate secret => exact follows.update_certificate name secret
  | validationContext store => exact follows.update_validationContext name store

/-- A client that follows its secrets is as one built from them, if its certificate was
known to it and fits. -/
theorem Follows.same_iff (bySds : ∀ certificate, config.secret ≠ some (.certificate certificate))
    (follows : configurator.Follows config (arrived config before).isSome manager)
    (kept : (arrived config before).isSome → (arrived config manager).isSome) :
    ((ofConfig config manager).map fun next => (client next).inUse) =
        some (client configurator).inUse ↔
      ((arrived config manager).isSome → (arrived config before).isSome) ∧
      ∀ secret, arrived config manager = some secret → acceptsKey secret.certs secret.key := by
  rcases follows.store with ⟨store, stored, sameStore⟩
  rw [ofConfig_eq bySds stored]
  constructor
  · intro same
    rcases Option.map_eq_some_iff.mp same with ⟨next, created, equal⟩
    rcases Option.map_eq_some_iff.mp created with ⟨clientConfig, built, rfl⟩
    have certificate : (arrived config manager).map ClientCert.ofSecret =
        configurator.contextBuilder.clientCertificate := congrArg InUse.clientCertificate equal
    constructor
    · intro present
      rw [← follows.known, ← certificate, Option.isSome_map]
      exact present
    · intro secret present
      have buildable := (WantsToBuildClient.build_isSome_iff _).mp (Option.isSome_of_eq_some built)
      exact buildable (.ofSecret secret) (by simp [builder, present])
  · rintro ⟨known, fits⟩
    have certificate : (arrived config manager).map ClientCert.ofSecret =
        configurator.contextBuilder.clientCertificate := by
      cases present : arrived config manager with
      | none =>
        have absent : (arrived config before).isSome = false := by
          rw [← Bool.not_eq_true]
          intro earlier
          rw [present] at kept
          cases kept earlier
        rw [← follows.known] at absent
        exact (Option.isNone_iff_eq_none.mp (by simp [← Option.not_isSome, absent])).symm
      | some secret =>
        have presented := follows.known.trans (known (by rw [present]; rfl))
        rcases Option.isSome_iff_exists.mp presented with ⟨held, found⟩
        rw [found, follows.fitting held secret found present (fits secret present)]
        rfl
    have buildable : (builder config configurator.contextBuilder.validationContextSecretId
        (store.getD []) ((arrived config manager).map .ofSecret)).build.isSome := by
      rw [WantsToBuildClient.build_isSome_iff]
      intro held found
      rcases Option.map_eq_some_iff.mp found with ⟨secret, present, rfl⟩
      exact fits secret present
    rcases Option.isSome_iff_exists.mp buildable with ⟨clientConfig, built⟩
    rw [WantsToBuildClient.configurator, built]
    simp [inUse, builder, certificate, sameStore]

end ClientConfigurator

/-! ## Contexts -/

theorem SecretManager.receiveAll_append (manager : SecretManager) (before after : List Secret) :
    manager.receiveAll (before ++ after) = (manager.receiveAll before).receiveAll after :=
  foldl_append

theorem SecretManager.isSome_receiveAll (known : (manager.getCertificate name).isSome)
    (secrets : List Secret) : ((manager.receiveAll secrets).getCertificate name).isSome := by
  induction secrets generalizing manager with
  | nil => exact known
  | cons secret secrets induction =>
    apply induction
    unfold receive
    cases added : manager.add secret with
    | none => exact known
    | some result =>
      change (result.1.getCertificate name).isSome
      rw [add_eq_some added]
      exact isSome_insert secret.name result.2 known

theorem TlsContext.receiveAll_follows (context : Kind → Configurator)
    {update : Kind → Text → TransportSecret → Option Kind} (updates : ∀ kind name material,
      (context kind).update name material = (update kind name material).map context)
    {Follows : SecretManager → Kind → Prop}
    (preserved : ∀ {manager kind}, Follows manager kind → ∀ name material,
      Follows (manager.insert name material) ((update kind name material).getD kind))
    (follows : Follows manager kind) (secrets : List Secret) :
    ∃ next, (TlsContext.receiveAll ⟨manager, context kind⟩ secrets).configurator = context next ∧
      Follows (TlsContext.receiveAll ⟨manager, context kind⟩ secrets).manager next := by
  apply TlsContext.receiveAll_invariant fun current => ∃ next, current.configurator =
    context next ∧ Follows current.manager next
  · rintro ⟨manager, _⟩ name material ⟨kind, rfl, follows⟩
    refine ⟨(update kind name material).getD kind, ?_, preserved follows name material⟩
    rw [updates]
    cases update kind name material <;> rfl
  · exact ⟨kind, rfl, follows⟩

/-- A context is as if all secrets had been known when it was built, exactly if the
certificates it names were known then, and the last ones fit. -/
theorem arrivalOrder_iff {config : TlsConfig} (bySds : config.BySds) {manager : SecretManager}
    {before after : List Secret} {configurator : Configurator}
    (built : ofConfig config (manager.receiveAll before) = some configurator) :
    (ofConfig config (manager.receiveAll (before ++ after))).map
          inUse =
        some (TlsContext.receiveAll ⟨manager.receiveAll before, configurator⟩
          after).configurator.inUse ↔
      (∀ name ∈ config.certificateNames,
        ((manager.receiveAll (before ++ after)).getCertificate name).isSome = true →
          ((manager.receiveAll before).getCertificate name).isSome = true) ∧
      ∀ name ∈ config.certificateNames, ∀ secret,
        (manager.receiveAll (before ++ after)).getCertificate name = some secret →
          config.CanUse (manager.receiveAll (before ++ after)) secret := by
  rw [receiveAll_append]
  generalize manager.receiveAll before = known at built ⊢
  have kept : ∀ name, (known.getCertificate name).isSome →
      ((known.receiveAll after).getCertificate name).isSome := fun _ present =>
    isSome_receiveAll present after
  have final := TlsContext.receiveAll_manager ⟨known, configurator⟩ after
  rw [← final] at kept ⊢
  cases config with
  | client config =>
    rcases Option.map_eq_some_iff.mp built with ⟨client, created, rfl⟩
    have follows := ClientConfigurator.follows_of_ofConfig bySds created
    rcases TlsContext.receiveAll_follows .client (fun _ _ _ => rfl)
      ClientConfigurator.Follows.update follows after with ⟨next, current, nextFollows⟩
    rw [current, ofConfig, Option.map_map]
    refine (nextFollows.same_iff bySds ?_).trans ?_
    · unfold ClientConfigurator.arrived
      cases config.certificateName with
      | none => exact id
      | some name => exact kept name
    · simp only [ClientConfigurator.arrived, TlsConfig.certificateNames, TlsConfig.CanUse]
      cases config.certificateName <;> simp
  | server config =>
    rcases bySds with ⟨names, bySds⟩
    rcases Option.map_eq_some_iff.mp built with ⟨server, created, rfl⟩
    rcases ServerConfigurator.follows_of_ofConfig bySds created with ⟨distinct, follows⟩
    rcases TlsContext.receiveAll_follows .server (fun _ _ _ => rfl)
      (ServerConfigurator.Follows.update distinct) follows after with ⟨next, current, nextFollows⟩
    rw [current, ofConfig, Option.map_map]
    have listed : (TlsConfig.server config).certificateNames = names := by
      simp only [TlsConfig.certificateNames, bySds]
    simp only [TlsConfig.CanUse, listed]
    exact nextFollows.same_iff bySds distinct kept

end

/-! ## A certificate that is late -/

def serverOfCertificate : TlsConfig :=
  .server ⟨false, ⟨{}, .sdsConfig ["cert".toList], some (.sdsConfig "ca".toList)⟩⟩

def clientOfCertificate : TlsConfig :=
  .client ⟨"upstream".toList, {}, some (.sdsConfig "cert".toList), some (.sdsConfig "ca".toList)⟩

def certificateSecret (chain : Bytes) : Secret :=
  ⟨"cert".toList, .tlsCertificate ⟨.inlineBytes chain, .inlineBytes [0]⟩⟩

def rootsSecret : Secret :=
  ⟨"ca".toList, .validationContext (.trustedCA (.inlineBytes [1]))⟩

attribute [local instance] inlineSecrets

/-- Roots may be late, and so may a newer certificate. -/
theorem late_roots_in_use :
    ∃ configurator, ofConfig serverOfCertificate
        (empty.receiveAll [certificateSecret [2]]) = some configurator ∧
      (ofConfig serverOfCertificate (empty.receiveAll
          ([certificateSecret [2]] ++ [rootsSecret, certificateSecret [3]]))).map
            inUse =
        some (TlsContext.receiveAll ⟨empty.receiveAll [certificateSecret [2]], configurator⟩
          [rootsSecret, certificateSecret [3]]).configurator.inUse := by
  have bySds : serverOfCertificate.BySds := ⟨_, rfl⟩
  refine ⟨_, rfl, (arrivalOrder_iff bySds rfl).mpr ⟨?_, ?_⟩⟩
  · intro name member _
    rw [mem_singleton.mp member]
    rfl
  · intro name _ secret _
    change ServerCert.Fits _ _
    unfold ServerCert.Fits
    split
    · rfl
    · exact fun _ => rfl

/-- A context that was built before a certificate arrived does not use it, one that is built
later does. -/
def IgnoresLateCertificate [TlsPlatform] (config : TlsConfig) : Prop :=
  config.BySds ∧ ∃ configurator,
    ofConfig config (empty.receiveAll []) = some configurator ∧
    (ofConfig config (empty.receiveAll
        ([] ++ [certificateSecret [2]]))).map inUse ≠
      some (TlsContext.receiveAll ⟨empty.receiveAll [], configurator⟩
        [certificateSecret [2]]).configurator.inUse

theorem late_certificate_not_used :
    IgnoresLateCertificate serverOfCertificate ∧ IgnoresLateCertificate clientOfCertificate := by
  constructor
  · exact ⟨⟨_, rfl⟩, _, rfl, by decide⟩
  · exact ⟨(fun _ impossible => by cases impossible), _, rfl, by decide⟩

end Orion.Tls
