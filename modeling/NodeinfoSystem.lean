import NodeinfoSystem.Database.Ports
import NodeinfoSystem.Database.Merge
import NodeinfoSystem.Database.Stability
import NodeinfoSystem.Database.Capacity
import NodeinfoSystem.Database.Search
import NodeinfoSystem.Database.Commute
import NodeinfoSystem.Database.TwoPorts
import NodeinfoSystem.Database.FirstFit
import NodeinfoSystem.Database.Attributes
import NodeinfoSystem.Database.Bounds
import NodeinfoSystem.Database.Resend
import NodeinfoSystem.Database.Atomicity
import NodeinfoSystem.Foundation.SizeCheck
import NodeinfoSystem.Wire.Layout
import NodeinfoSystem.Wire.Readers
import NodeinfoSystem.Wire.RoundTrip
import NodeinfoSystem.Wire.Messages
import NodeinfoSystem.Files.Text
import NodeinfoSystem.Files.Update
import NodeinfoSystem.Files.Determined
import NodeinfoSystem.Files.CrashSafety
import NodeinfoSystem.Collector.NodedataList
import NodeinfoSystem.Collector.Joins
import NodeinfoSystem.Collector.Duplicates
import NodeinfoSystem.Collector.Resize
import NodeinfoSystem.Collector.ListOperations
import NodeinfoSystem.Collector.Userid
import NodeinfoSystem.Collector.MyNodedata
import NodeinfoSystem.Exchange.Basic
import NodeinfoSystem.Exchange.Effect
import NodeinfoSystem.Exchange.Traffic
import NodeinfoSystem.Exchange.Token
import NodeinfoSystem.Exchange.Service
import NodeinfoSystem.Collector.Payload
import NodeinfoSystem.Collector.Transfer
import NodeinfoSystem.Collector.RelayRequests
import NodeinfoSystem.Collector.MemberRequests
import NodeinfoSystem.Collector.DatabaseReader
import NodeinfoSystem.Collector.Deliveries
import NodeinfoSystem.Collector.Acknowledgements
import NodeinfoSystem.Collector.Master
import NodeinfoSystem.Collector.Segments
import NodeinfoSystem.Collector.Rounds
import NodeinfoSystem.Collector.RelayTimeouts
import NodeinfoSystem.Collector.Member
import NodeinfoSystem.Collector.FilesAgree
import NodeinfoSystem.Relay.Basic
import NodeinfoSystem.Relay.Effect
import NodeinfoSystem.Relay.NetworkIds
import NodeinfoSystem.Relay.Serving
import NodeinfoSystem.Relay.Failures
import NodeinfoSystem.Relay.Sendable
import NodeinfoSystem.Lan.Basic
import NodeinfoSystem.Lan.Step
import NodeinfoSystem.Lan.Effect
import NodeinfoSystem.Lan.Members
import NodeinfoSystem.Lan.Mastership
import NodeinfoSystem.Lan.Welcome
import NodeinfoSystem.HugeCluster.Basic
import NodeinfoSystem.HugeCluster.Effect
import NodeinfoSystem.HugeCluster.Rounds
import NodeinfoSystem.HugeCluster.Order
import NodeinfoSystem.HugeCluster.Fetches
import NodeinfoSystem.HugeCluster.Directory
import NodeinfoSystem.Database.Agreement
import NodeinfoSystem.Relay.History
import NodeinfoSystem.HugeCluster.Agreement
import NodeinfoSystem.Lan.Databases
import NodeinfoSystem.Collector.RelayAddress
import NodeinfoSystem.Collector.Handoff
import NodeinfoSystem.Database.Recycling
import NodeinfoSystem.Resources.Member
import NodeinfoSystem.Resources.Master
import NodeinfoSystem.Resources.Relay
