import Orion.Listeners.Upgrades
import Orion.ExtProc.Truncation
import Orion.ExtProc.Deadlock
import Orion.ExtProc.HeaderForwarding
import Orion.ExtProc.ModeOverrides
import Orion.Listeners.RateLimiter
import Orion.Listeners.RouteUpdate
import Orion.Listeners.ManagerSurvival
import Orion.Xds.Answers
import Orion.Xds.Subscriptions
import Orion.Xds.TrackedVersions
import Orion.Xds.SecretUpdate
import Orion.Xds.EndpointOrder
import Orion.Xds.ChecksInForce
import Orion.Listeners.UpdateDelivery
import Orion.Listeners.SpecificSelection
import Orion.Listeners.RemoteAddress
import Orion.Listeners.ActiveGauges
import Orion.AccessLogs.Logger
import Orion.AccessLogs.Transaction
import Orion.Health.CheckSpacing
import Orion.Clusters.AddressRoundTrip
import Orion.Clusters.Balancers.LeastLoaded
import Orion.Health.PayloadReading
import Orion.Clusters.Balancers.ExactLoad
import Orion.Clusters.Balancers.FairTurns
import Orion.Metrics.Sharded
import Orion.Transport.RetryTransmission
