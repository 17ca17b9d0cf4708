import Skywalking.RustStd.Text
import Skywalking.RustStd.Time
import Skywalking.RustStd.Sort
import Skywalking.RustStd.Net
import Skywalking.Codec.Base64
import Skywalking.Machine.Mailbox
import Skywalking.Machine.Run
import Skywalking.Machine.Forever
import Skywalking.Machine.Product
import Skywalking.Machine.Causality
import Skywalking.Machine.Delivery
import Skywalking.Machine.Ledger
import Skywalking.Machine.OrderedTree
import Skywalking.Core.Id
import Skywalking.Core.Span
import Skywalking.Core.SegmentRef
import Skywalking.Core.Context
import Skywalking.Core.SpanHistory
import Skywalking.Agent.Config
import Skywalking.Agent.Util
import Skywalking.Agent.ContextManager
import Skywalking.Agent.Reporter
import Skywalking.Agent.Worker
import Skywalking.Agent.Conservation
import Skywalking.Agent.Batching
import Skywalking.Agent.Shutdown
import Skywalking.Agent.Backoff
import Skywalking.Agent.Load
import Skywalking.Agent.Progress
import Skywalking.Agent.Finality
import Skywalking.Agent.Recovery
import Skywalking.Remote
import Skywalking.Header
import Skywalking.HeaderGrammar
import Skywalking.HeaderMeaning
import Skywalking.IdText
import Skywalking.AddressField
import Skywalking.Scope.Basic
import Skywalking.Scope.Simulation
import Skywalking.Scope.Invariant
import Skywalking.Scope.Linkage
import Skywalking.Scope.Parent
import Skywalking.Scope.Tree
import Skywalking.Scope.Propagation
import Skywalking.Identity
import Skywalking.Segment
import Skywalking.EndTime
import Skywalking.TimeNesting
import Skywalking.Process
import Skywalking.Isolation
import Skywalking.Loss
import Skywalking.Foreign
import Skywalking.Reporting
import Skywalking.Outage
import Skywalking.Wire
import Skywalking.Clones
import Skywalking.Arrival
import Skywalking.Deployment
import Skywalking.Trace
