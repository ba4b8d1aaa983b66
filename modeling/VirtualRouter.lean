import VirtualRouter.Address.Identifier
import VirtualRouter.Address.Ipv4
import VirtualRouter.Address.Mac
import VirtualRouter.Address.PortNumber
import VirtualRouter.Address.TextError
import VirtualRouter.Bench.Disk
import VirtualRouter.Bench.Log
import VirtualRouter.Bench.Script
import VirtualRouter.Bench.Trial
import VirtualRouter.Collection.OrderedSet
import VirtualRouter.Collection.Ranked
import VirtualRouter.Collection.Table
import VirtualRouter.Collection.Tally
import VirtualRouter.CommandLine.Arguments
import VirtualRouter.CommandLine.LogFilter
import VirtualRouter.CommandLine.Run
import VirtualRouter.Config.Document
import VirtualRouter.Config.File
import VirtualRouter.Config.Settings
import VirtualRouter.Controller.Collaboration
import VirtualRouter.Controller.Counters
import VirtualRouter.Controller.Event
import VirtualRouter.Controller.Lifecycle
import VirtualRouter.Controller.PacketArrival
import VirtualRouter.Controller.Resumption
import VirtualRouter.Controller.Turn
import VirtualRouter.Controller.Verdicts
import VirtualRouter.Daemon.Loop
import VirtualRouter.Datapath.Buffer
import VirtualRouter.Datapath.Error
import VirtualRouter.Datapath.Notice
import VirtualRouter.Datapath.RequestTally
import VirtualRouter.Document.Assembly
import VirtualRouter.Document.Names
import VirtualRouter.Document.Quoted
import VirtualRouter.Document.Reading
import VirtualRouter.Document.Scalar
import VirtualRouter.Document.Value
import VirtualRouter.Document.Writing
import VirtualRouter.Fault
import VirtualRouter.Flow.Action
import VirtualRouter.Flow.HeaderMatch
import VirtualRouter.Flow.Ledger
import VirtualRouter.Flow.Policy
import VirtualRouter.Flow.Rule
import VirtualRouter.Frame.Packet
import VirtualRouter.Frame.Reading
import VirtualRouter.Main
import VirtualRouter.Port.PortTable
import VirtualRouter.Port.VirtualPort
import VirtualRouter.PortSet.FanOut
import VirtualRouter.PortSet.LocalSlices
import VirtualRouter.PortSet.Participants
import VirtualRouter.Proofs.Buffers.Requests
import VirtualRouter.Proofs.Buffers.Settlement
import VirtualRouter.Proofs.Elements.Release
import VirtualRouter.Proofs.Flows.Coverage
import VirtualRouter.Proofs.Flows.LedgerContents
import VirtualRouter.Proofs.Flows.Resumption
import VirtualRouter.Proofs.Flows.Rewriting
import VirtualRouter.Proofs.Handling.Conclusion
import VirtualRouter.Proofs.Handling.Course
import VirtualRouter.Proofs.Handling.Trail
import VirtualRouter.Proofs.Run.History
import VirtualRouter.Proofs.Run.Waiting
import VirtualRouter.Resolution.Parking
import VirtualRouter.Text.Blank
import VirtualRouter.Text.Numeral
import VirtualRouter.Topology.BareTopology
import VirtualRouter.Topology.Verdict
import VirtualRouter.Tunnel.Header
import VirtualRouter.Tunnel.TunnelTable
import VirtualRouter.Proofs.Frames.Reading
import VirtualRouter.Proofs.Frames.LinkAddresses
import VirtualRouter.Proofs.Tunnels.Delivery
import VirtualRouter.Proofs.Tunnels.Masking
import VirtualRouter.Proofs.Daemon.Service
import VirtualRouter.Proofs.Daemon.Answers
import VirtualRouter.Proofs.Run.Decision
import VirtualRouter.Proofs.Resolution.OneShot
import VirtualRouter.Proofs.Resolution.Order
import VirtualRouter.Proofs.Elements.EarlyRelease
import VirtualRouter.Proofs.Observer.Notices
import VirtualRouter.Proofs.Run.Registries
import VirtualRouter.Proofs.Tunnels.Pairing
import VirtualRouter.Proofs.PortSets.Membership
import VirtualRouter.Proofs.PortSets.Targets
import VirtualRouter.Proofs.Handling.Counting
import VirtualRouter.Proofs.Resolution.Egress
import VirtualRouter.Proofs.Flows.Occasions
import VirtualRouter.Proofs.Flows.PacketMatches
import VirtualRouter.Proofs.Flows.Permanence
import VirtualRouter.Proofs.Failures.Isolation
import VirtualRouter.Proofs.Run.OnBench
import VirtualRouter.Proofs.Handling.Accounting
import VirtualRouter.Proofs.Ports.Attachment
import VirtualRouter.Proofs.Ports.Mirroring
import VirtualRouter.Proofs.Run.Accounts
import VirtualRouter.Proofs.Frames.BootRequests
import VirtualRouter.Proofs.Run.Dispatch
import VirtualRouter.Proofs.Flows.Economy
import VirtualRouter.Proofs.Flows.Precedence
import VirtualRouter.Proofs.Frames.Padding
import VirtualRouter.Proofs.Frames.Writing
import VirtualRouter.Proofs.Collection.Contents
import VirtualRouter.Proofs.Frames.Layers
import VirtualRouter.Proofs.Ports.Indexes
import VirtualRouter.Proofs.Tunnels.Bijection
import VirtualRouter.Proofs.Tunnels.Codec
import VirtualRouter.Proofs.Text.Numerals
import VirtualRouter.Proofs.Text.Pieces
import VirtualRouter.Proofs.Addresses.MacText
import VirtualRouter.Proofs.Addresses.Ipv4Text
import VirtualRouter.Proofs.Flows.MatchText
import VirtualRouter.Proofs.PortSets.Slices
import VirtualRouter.Proofs.Documents.Records
import VirtualRouter.Proofs.Config.Overlay
