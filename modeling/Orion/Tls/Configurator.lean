import Orion.Http.Message

/-! # TLS configurations

A configurator keeps what it needs to build a TLS configuration again when one
of its secrets changes.
-/

namespace Orion.Tls

open Foundation Http

/-! ## Secrets

Certificates and trust stores, given inline or kept by name as they arrive.
-/

abbrev Certificate := Bytes

abbrev RootCertStore := List Certificate

inductive DataSource where
  | path (path : Text)
  | inlineBytes (bytes : Bytes)
  | inlineString (text : Text)
  | environmentVariable (name : Text)
  deriving DecidableEq

inductive ValidationContext where
  | trustedCA (source : DataSource)
  | none
  deriving DecidableEq

structure TlsCertificate where
  certificateChain : DataSource
  privateKey : DataSource
  deriving DecidableEq

structure CertificateSecret where
  name : Option Text
  key : Bytes
  certs : List Certificate
  config : TlsCertificate
  deriving DecidableEq

structure CertStore where
  store : RootCertStore
  config : ValidationContext
  deriving DecidableEq

inductive TransportSecret where
  | certificate (secret : CertificateSecret)
  | validationContext (store : CertStore)
  deriving DecidableEq

inductive SecretType where
  | tlsCertificate (certificate : TlsCertificate)
  | validationContext (context : ValidationContext)
  deriving DecidableEq

structure Secret where
  name : Text
  kind : SecretType
  deriving DecidableEq

/-- What lies outside the repository: the file system and environment, the
certificate parsers, and `rustls` with its verifiers, which are taken to be
correct. -/
class TlsPlatform where
  read : DataSource → Option Bytes
  /-- The certificates of a PEM file, unless one of them cannot be parsed. -/
  parseCertificates : Bytes → Option (List Certificate)
  /-- Whether a certificate is accepted as a trust anchor. -/
  isTrustAnchor : Certificate → Bool
  /-- A certificate chain with its single private key, when both can be read. -/
  readCertificate : TlsCertificate → Option CertificateSecret
  /-- Whether a crypto provider is installed. -/
  hasProvider : Bool
  /-- Whether a private key can be loaded and fits the certificates. -/
  acceptsKey : List Certificate → Bytes → Bool
  /-- Whether a private key can be loaded, whatever certificates it is for. -/
  loadsKey : Bytes → Bool
  /-- Whether certificates may be served for a name. -/
  servesName : Text → List Certificate → Bool
  /-- Whether a peer's certificate is verified against trust anchors. -/
  verifies : RootCertStore → Certificate → Bool
  verifies_nothing : ∀ certificate, verifies [] certificate = false

variable [TlsPlatform]

def CertStore.ofContext (context : ValidationContext) : Option CertStore :=
  match context with
  | .trustedCA source => do
      let bytes ← TlsPlatform.read source
      let certificates ← TlsPlatform.parseCertificates bytes
      if certificates.isEmpty then
        none
      else if certificates.any fun certificate => !TlsPlatform.isTrustAnchor certificate then
        none
      else
        some ⟨certificates, context⟩
  | .none => some ⟨[], context⟩

structure SecretManager where
  certificateSecrets : Table Text CertificateSecret
  validationContexts : Table Text CertStore

namespace SecretManager

def empty : SecretManager := ⟨Table.empty, Table.empty⟩

def add (manager : SecretManager) (secret : Secret) : Option (SecretManager × TransportSecret) :=
  match secret.kind with
  | .tlsCertificate certificate =>
    (TlsPlatform.readCertificate certificate).map fun read =>
      ({ manager with
          certificateSecrets := manager.certificateSecrets.insert secret.name read },
        .certificate read)
  | .validationContext context =>
    (CertStore.ofContext context).map fun store =>
      ({ manager with
          validationContexts := manager.validationContexts.insert secret.name store },
        .validationContext store)

def getCertificate (manager : SecretManager) (name : Text) : Option CertificateSecret :=
  manager.certificateSecrets name

def getValidationContext (manager : SecretManager) (name : Text) : Option CertStore :=
  manager.validationContexts name

end SecretManager

/-! ## Configurators -/

open TlsPlatform

inductive TlsVersion where
  | tls12
  | tls13
  deriving DecidableEq

structure TlsParameters where
  minimumProtocolVersion : TlsVersion := .tls12
  maximumProtocolVersion : Option TlsVersion := none
  deriving DecidableEq

def TlsParameters.supportedVersion (parameters : TlsParameters) : List TlsVersion :=
  match parameters.minimumProtocolVersion with
  | .tls13 => [.tls13]
  | .tls12 =>
    match parameters.maximumProtocolVersion with
    | none | some .tls13 => [.tls12, .tls13]
    | some .tls12 => [.tls12]

inductive CommonTlsValidationContext where
  | sdsConfig (name : Text)
  | validationContext (context : ValidationContext)
  deriving DecidableEq

inductive Secrets where
  | sdsConfig (names : List Text)
  | certificates (certificates : List TlsCertificate)
  deriving DecidableEq

structure CommonTlsContext where
  parameters : TlsParameters
  secrets : Secrets
  validationContext : Option CommonTlsValidationContext
  deriving DecidableEq

structure TlsServerConfig where
  requireClientCertificate : Bool
  commonTlsContext : CommonTlsContext
  deriving DecidableEq

inductive TlsSecret where
  | sdsConfig (name : Text)
  | certificate (certificate : TlsCertificate)
  deriving DecidableEq

structure TlsClientConfig where
  sni : Text
  parameters : TlsParameters
  secret : Option TlsSecret
  validationContext : Option CommonTlsValidationContext
  deriving DecidableEq

/-! ## Builders -/

structure ClientCert where
  key : Bytes
  certs : List Certificate
  deriving DecidableEq

structure ServerCert where
  name : Text
  key : Bytes
  certs : List Certificate
  deriving DecidableEq

structure SecretHolder where
  name : Text
  serverCert : ServerCert
  deriving DecidableEq

structure WantsToBuildServer where
  supportedVersions : List TlsVersion
  validationContextSecretId : Option Text
  certificateStore : Option RootCertStore
  serverIdsAndCertificates : List SecretHolder
  requireClientCert : Bool
  deriving DecidableEq

structure WantsToBuildClient where
  supportedVersions : List TlsVersion
  validationContextSecretId : Option Text
  certificateStore : RootCertStore
  certificateSecretId : Option Text
  clientCertificate : Option ClientCert
  sni : Text
  deriving DecidableEq

def ClientCert.ofSecret (secret : CertificateSecret) : ClientCert :=
  ⟨secret.key, secret.certs⟩

def ServerCert.ofSecret (secret : CertificateSecret) : ServerCert :=
  ⟨secret.name.getD [], secret.key, secret.certs⟩

inductive ClientCertVerifier where
  | noClientAuth
  | webPki (roots : RootCertStore)
  | webPkiAllowUnauthenticated (roots : RootCertStore)
  deriving DecidableEq

inductive ServerCertVerifier where
  | webPki (roots : RootCertStore)
  | ignoreCert
  deriving DecidableEq

structure ServerConfig where
  supportedVersions : List TlsVersion
  verifier : ClientCertVerifier
  /-- The certificates offered, with the name each is offered for; a single
  certificate is offered whatever name is asked for. -/
  certificates : List (Option Text × List Certificate)
  deriving DecidableEq

structure ClientConfig where
  supportedVersions : List TlsVersion
  verifier : ServerCertVerifier
  clientAuth : Option ClientCert
  deriving DecidableEq

/-- Which client verifier is installed; `none` refuses to build. -/
def WantsToBuildServer.clientVerifier (builder : WantsToBuildServer) : Option ClientCertVerifier :=
  match builder.requireClientCert, builder.certificateStore with
  | true, none => none
  | true, some store => some (if store.isEmpty then .noClientAuth else .webPki store)
  | false, some store =>
    some (if store.isEmpty then .noClientAuth else .webPkiAllowUnauthenticated store)
  | false, none => some .noClientAuth

def WantsToBuildServer.withClientVerifier (builder : WantsToBuildServer)
    (verifier : ClientCertVerifier) : Option ServerConfig := do
  guard hasProvider
  match builder.serverIdsAndCertificates with
  | [⟨_, certificate⟩] =>
    guard (acceptsKey certificate.certs certificate.key)
    return ⟨builder.supportedVersions, verifier, [(none, certificate.certs)]⟩
  | holders =>
    -- Keys that cannot be loaded are left out; names that cannot be served fail.
    let loaded := holders.filter fun holder => loadsKey holder.serverCert.key
    guard (loaded.all fun holder =>
      servesName holder.serverCert.name holder.serverCert.certs)
    return ⟨builder.supportedVersions, verifier, loaded.map fun holder =>
      (some holder.serverCert.name, holder.serverCert.certs)⟩

def WantsToBuildServer.build (builder : WantsToBuildServer) : Option ServerConfig :=
  builder.clientVerifier.bind builder.withClientVerifier

def WantsToBuildClient.build (builder : WantsToBuildClient) : Option ClientConfig := do
  let verifier : ServerCertVerifier :=
    if builder.certificateStore.isEmpty then .ignoreCert
    else .webPki builder.certificateStore
  match builder.clientCertificate with
  | some certificate =>
    guard (acceptsKey certificate.certs certificate.key)
    return ⟨builder.supportedVersions, verifier, some certificate⟩
  | none => return ⟨builder.supportedVersions, verifier, none⟩

/-! ## Configurators -/

structure ServerConfigurator where
  contextBuilder : WantsToBuildServer
  config : ServerConfig
  deriving DecidableEq

structure ClientConfigurator where
  contextBuilder : WantsToBuildClient
  config : ClientConfig
  deriving DecidableEq

def WantsToBuildServer.configurator (builder : WantsToBuildServer) : Option ServerConfigurator :=
  builder.build.map fun config => ⟨builder, config⟩

def WantsToBuildClient.configurator (builder : WantsToBuildClient) : Option ClientConfigurator :=
  builder.build.map fun config => ⟨builder, config⟩

/-- The name under which a trust store is looked up, and the store. A store that
has not arrived yet is taken to be empty. -/
def createCertificateStore (manager : SecretManager) :
    Option CommonTlsValidationContext → Option (Option Text × Option RootCertStore)
  | some (.validationContext context) =>
    (CertStore.ofContext context).map fun store => (none, some store.store)
  | some (.sdsConfig name) =>
    match manager.getValidationContext name with
    | some store => some (some name, some store.store)
    | none => some (some name, some [])
  | none => some (none, none)

/-- Certificates that have not arrived yet are left out; a name must not occur
twice. -/
def serverCertificates (manager : SecretManager) : Secrets → Option (List SecretHolder)
  | .certificates certificates =>
    certificates.mapM fun certificate =>
      (readCertificate certificate).map fun secret =>
        ⟨[], .ofSecret secret⟩
  | .sdsConfig names =>
    names.foldlM (fun holders name =>
      match manager.getCertificate name with
      | none => some holders
      | some secret =>
        if holders.any fun holder => holder.name = name then
          none
        else
          some (holders ++ [⟨name, .ofSecret secret⟩])) []

def ServerConfigurator.ofConfig (config : TlsServerConfig) (manager : SecretManager) :
    Option ServerConfigurator := do
  let context := config.commonTlsContext
  let (secretId, store) ← createCertificateStore manager context.validationContext
  let certificates ← serverCertificates manager context.secrets
  -- Without a store there is no name either.
  WantsToBuildServer.configurator
    { supportedVersions := context.parameters.supportedVersion
      validationContextSecretId := if store.isSome then secretId else none
      certificateStore := store
      serverIdsAndCertificates := certificates
      requireClientCert := config.requireClientCertificate }

/-- The certificate that a client presents, and the name under which it arrives. -/
def clientCertificate (manager : SecretManager) :
    Option TlsSecret → Option (Option Text × Option ClientCert)
  | some (.certificate certificate) =>
    (readCertificate certificate).map fun secret =>
      (none, some (.ofSecret secret))
  | some (.sdsConfig name) =>
    some (some name, (manager.getCertificate name).map ClientCert.ofSecret)
  | none => some (none, none)

def ClientConfigurator.ofConfig (config : TlsClientConfig) (manager : SecretManager) :
    Option ClientConfigurator := do
  let (storeId, store) ← createCertificateStore manager config.validationContext
  let (secretId, certificate) ← clientCertificate manager config.secret
  WantsToBuildClient.configurator
    { supportedVersions := config.parameters.supportedVersion
      validationContextSecretId := storeId
      certificateStore := store.getD []
      -- A client without a certificate forgets the name of the one to come.
      certificateSecretId := if certificate.isSome then secretId else none
      clientCertificate := certificate
      sni := config.sni }

def ClientConfigurator.update (configurator : ClientConfigurator) (secretId : Text)
    (secret : TransportSecret) : Option ClientConfigurator :=
  let builder := configurator.contextBuilder
  match secret with
  | .certificate certificate =>
    if some secretId = builder.certificateSecretId then
      WantsToBuildClient.configurator
        { builder with clientCertificate := some (.ofSecret certificate) }
    else
      none
  | .validationContext store =>
    if some secretId = builder.validationContextSecretId then
      WantsToBuildClient.configurator
        { builder with
          certificateStore := store.store
          certificateSecretId :=
            if builder.clientCertificate.isSome then builder.certificateSecretId
            else none }
    else
      none

def replaceCertificate (name : Text) (certificate : ServerCert) :
    List SecretHolder → Option (List SecretHolder)
  | [] => none
  | holder :: holders =>
    if holder.name = name then
      some ({ holder with serverCert := certificate } :: holders)
    else
      (replaceCertificate name certificate holders).map (holder :: ·)

def ServerConfigurator.update (configurator : ServerConfigurator) (secretId : Text)
    (secret : TransportSecret) : Option ServerConfigurator :=
  let builder := configurator.contextBuilder
  match secret with
  | .certificate certificate => do
      let holders ← replaceCertificate secretId (.ofSecret certificate)
        builder.serverIdsAndCertificates
      WantsToBuildServer.configurator
        { builder with
          serverIdsAndCertificates := holders
          validationContextSecretId :=
            if builder.certificateStore.isSome then builder.validationContextSecretId
            else none }
  | .validationContext store =>
    if some secretId = builder.validationContextSecretId then
      WantsToBuildServer.configurator
        { builder with certificateStore := some store.store }
    else
      none

end Orion.Tls
