import RmsGate.Go.Values
import RmsGate.Go.Scan
import RmsGate.Go.Float
import RmsGate.Go.Unicode
import RmsGate.LoadBalancer.Backend
import RmsGate.LoadBalancer.LatencyWindow
import RmsGate.LoadBalancer.History
import RmsGate.LoadBalancer.HistoryPersistence
import RmsGate.LoadBalancer.HistoryLoad
import RmsGate.LoadBalancer.BackendInvariant
import RmsGate.LoadBalancer.Strategy
import RmsGate.LoadBalancer.HealthScore
import RmsGate.LoadBalancer.SelectContract
import RmsGate.LoadBalancer.HealthCheck
import RmsGate.LoadBalancer.Probe
import RmsGate.LoadBalancer.Pool
import RmsGate.LoadBalancer.ConcurrentDial
import RmsGate.LoadBalancer.Orchestrator
import RmsGate.LoadBalancer.Lifecycle
import RmsGate.LoadBalancer.Accounting
import RmsGate.Protocol.VarInt
import RmsGate.Protocol.StatusPing
import RmsGate.DynamicServer.StartFlight
import RmsGate.DynamicServer.IdleShutdown
import RmsGate.DynamicServer.Readiness
import RmsGate.DynamicServer.PreConnect
import RmsGate.DynamicServer.Joining
import RmsGate.Command.Delay
import RmsGate.Command.AutoShutdown
import RmsGate.Command.LoadBalancer
import RmsGate.Permission.Cache
import RmsGate.Whitelist.Login
