import UpTransportDds.Framework.System
import UpTransportDds.Framework.Flow
import UpTransportDds.Framework.Linearizable
import UpTransportDds.Framework.Liveness
import UpTransportDds.Framework.Codec
import UpTransportDds.Runtime.Config
import UpTransportDds.Runtime.Wait
import UpTransportDds.Runtime.Health
import UpTransportDds.Runtime.Snapshot
import UpTransportDds.Runtime.Registry
import UpTransportDds.Runtime.Shared
import UpTransportDds.Runtime.Keys
import UpTransportDds.Runtime.Linear
import UpTransportDds.Runtime.InFlight
import UpTransportDds.Runtime.AlignedBytes
import UpTransportDds.Router.State
import UpTransportDds.Router.Step
import UpTransportDds.Router.Transitions
import UpTransportDds.Router.Serial
import UpTransportDds.Router.Barrier
import UpTransportDds.Router.Flow
import UpTransportDds.Router.Order
import UpTransportDds.Router.Accounting
import UpTransportDds.Router.Panics
import UpTransportDds.Router.Shutdown
import UpTransportDds.Router.Workers
import UpTransportDds.Router.Wedge
import UpTransportDds.Router.Quiesce
import UpTransportDds.Router.Termination
import UpTransportDds.Carriage.Sample
import UpTransportDds.Carriage.Classic
import UpTransportDds.Carriage.Owned
import UpTransportDds.Carriage.ZeroCopy
import UpTransportDds.Carriage.Frame
import UpTransportDds.Carriage.Simulation
import UpTransportDds.Carriage.Equivalence
import UpTransportDds.Carriage.Fleet
import UpTransportDds.Carriage.Factory
import UpTransportDds.Roles.Args
import UpTransportDds.Roles.Route
import UpTransportDds.Roles.Process
import UpTransportDds.Roles.Traffic
import UpTransportDds.Roles.Correlation
import UpTransportDds.Framework.Component
import UpTransportDds.Router.Blind
import UpTransportDds.Domain.Sender
import UpTransportDds.Domain.Network
import UpTransportDds.Domain.Projection
import UpTransportDds.Router.Calls
import UpTransportDds.Domain.Transit
import UpTransportDds.Domain.Delivery
import UpTransportDds.Domain.Health
import UpTransportDds.Framework.Memory
import UpTransportDds.Runtime.Loans
import UpTransportDds.Framework.Monitor
import UpTransportDds.Runtime.Monitors
import UpTransportDds.Roles.Echo
import UpTransportDds.Framework.Progress
import UpTransportDds.Router.Service
import UpTransportDds.Router.Attended
import UpTransportDds.Router.Returns
