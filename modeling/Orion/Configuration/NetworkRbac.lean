import Orion.Configuration.RetryPolicy
import Orion.Listeners.FilterState

/-! # Role based access control for connections

Matching a server name may panic, which is the outcome `none`. -/

namespace Orion.Configuration.Network

open Foundation Listeners

inductive Action where
  | allow
  | deny
  deriving DecidableEq

inductive Permission where
  | any
  | destinationIp (net : IpNet)
  | destinationPort (port : Fin 65536)
  | destinationPortRange (first beyond : Fin 65536)
  | serverName (matcher : StringMatcher)
  deriving DecidableEq

inductive Principal where
  | any
  | downstreamRemoteIp (net : IpNet)
  deriving DecidableEq

structure Policy where
  permissions : List Permission
  principals : List Principal
  deriving DecidableEq

/-- The policies stand in the order of their names. -/
structure NetworkRbac where
  action : Action
  policies : List (Text × Policy)
  deriving DecidableEq

structure NetworkContext where
  destination : SocketAddr
  downstream : SocketAddr
  serverName : Option Text
  deriving DecidableEq

def Permission.isApplicable [RegexEngine] (permission : Permission) (context : NetworkContext) :
    Option Bool :=
  match permission with
  | .any => some true
  | .destinationIp net => some (net.contains context.destination.ip)
  | .destinationPort port => some (context.destination.port = port)
  | .destinationPortRange first beyond =>
    some (first ≤ context.destination.port ∧ context.destination.port < beyond)
  | .serverName matcher =>
    match context.serverName with
    | some name => matcher.matches name
    | none => some false

def Principal.hasPrincipal (principal : Principal) (context : NetworkContext) : Bool :=
  match principal with
  | .any => true
  | .downstreamRemoteIp net => net.contains context.downstream.ip

def Policy.enforce [RegexEngine] (policy : Policy) (context : NetworkContext) : Option Bool := do
  let hasPermission ← policy.permissions.anyM (·.isApplicable context)
  let hasPrincipal := policy.principals.any (·.hasPrincipal context)
  return hasPermission && hasPrincipal

def NetworkRbac.isPermitted [RegexEngine] (rbac : NetworkRbac) (context : NetworkContext) :
    Option (Bool × Option Text) := do
  let enforcedPolicy ← rbac.policies.findM? (·.2.enforce context)
  let permitted := match rbac.action with
    | .allow => enforcedPolicy.isSome
    | .deny => enforcedPolicy.isNone
  return (permitted, enforcedPolicy.map Prod.fst)

end Orion.Configuration.Network
