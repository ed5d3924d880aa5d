import RelayBroker.Address
import RelayBroker.Address.Endpoint
import RelayBroker.Address.Parser
import RelayBroker.Address.Printer
import RelayBroker.Bridge.Catalog
import RelayBroker.Bridge.Fingerprint
import RelayBroker.Broker.Basic
import RelayBroker.Broker.Matching
import RelayBroker.Broker.Needs
import RelayBroker.Broker.Notices
import RelayBroker.Broker.Overview
import RelayBroker.Broker.Polling
import RelayBroker.Broker.Rescale
import RelayBroker.Broker.Traffic
import RelayBroker.Counters
import RelayBroker.Error
import RelayBroker.Fleet.Directory
import RelayBroker.Fleet.LoadHeap
import RelayBroker.Fleet.Mailbox
import RelayBroker.Fleet.Pools
import RelayBroker.Fleet.Proxy
import RelayBroker.Http.Message
import RelayBroker.Http.ProxyClient
import RelayBroker.Http.Reply
import RelayBroker.Http.Service
import RelayBroker.Json.Fault
import RelayBroker.Json.Numeral
import RelayBroker.Json.Record
import RelayBroker.Json.Skip
import RelayBroker.Json.Token
import RelayBroker.Json.Writer
import RelayBroker.Main
import RelayBroker.NatClass
import RelayBroker.Number.Binary64
import RelayBroker.Number.Natural
import RelayBroker.Number.Shortest
import RelayBroker.Session.Action
import RelayBroker.Session.Sessions
import RelayBroker.Settings
import RelayBroker.Simulation.Agenda
import RelayBroker.Simulation.Script
import RelayBroker.Simulation.Step
import RelayBroker.Simulation.World
import RelayBroker.Table
import RelayBroker.Text.Blank
import RelayBroker.Text.Hidden
import RelayBroker.Text.Keyword
import RelayBroker.Text.Quoted
import RelayBroker.Text.Utf8
import RelayBroker.Wire.ClientPoll
import RelayBroker.Wire.Decode
import RelayBroker.Wire.ProxyAnswer
import RelayBroker.Wire.ProxyPoll
import RelayBroker.Wire.RescaleOrder
import RelayBroker.Wire.SessionChange
import RelayBroker.Proofs.Fleet.HeapIndex
import RelayBroker.Proofs.Fleet.HeapOrder
import RelayBroker.Proofs.Fleet.HeapMap
import RelayBroker.Proofs.Fleet.PoolView
import RelayBroker.Proofs.Fleet.PoolChoice
import RelayBroker.Proofs.Broker.Relocation
import RelayBroker.Proofs.Broker.Agreement
import RelayBroker.Proofs.Traffic.Reachable
import RelayBroker.Proofs.Table.Count
import RelayBroker.Proofs.Traffic.Migration
import RelayBroker.Proofs.Broker.Balance
import RelayBroker.Proofs.Traffic.Load
import RelayBroker.Proofs.Fleet.DirectoryIndexes
import RelayBroker.Proofs.Traffic.Succession
import RelayBroker.Proofs.Traffic.Retirement
import RelayBroker.Proofs.Traffic.Settlement
import RelayBroker.Proofs.Traffic.Retry
import RelayBroker.Proofs.Traffic.Supersession
import RelayBroker.Proofs.Traffic.PollLife
import RelayBroker.Proofs.Traffic.Trace
import RelayBroker.Proofs.Traffic.Pairing
import RelayBroker.Proofs.Traffic.Listing
import RelayBroker.Proofs.Broker.Refusals
import RelayBroker.Proofs.Traffic.Accounts
import RelayBroker.Proofs.Traffic.Charges
import RelayBroker.Proofs.Traffic.Interleaving
import RelayBroker.Proofs.Text.Encoding
import RelayBroker.Proofs.Text.Lines
import RelayBroker.Proofs.Bridge.Listing
import RelayBroker.Proofs.Http.Rejection
import RelayBroker.Proofs.Traffic.Attendance
import RelayBroker.Proofs.Traffic.Waking
import RelayBroker.Proofs.Simulation.Standstill
import RelayBroker.Proofs.Http.Dispatch
import RelayBroker.Proofs.Simulation.Availability
import RelayBroker.Proofs.Fleet.HeapPlaces
import RelayBroker.Proofs.Traffic.Completion
import RelayBroker.Proofs.Broker.Stores
import RelayBroker.Proofs.Session.BindingOrder
import RelayBroker.Proofs.Session.SessionRuns
import RelayBroker.Proofs.Traffic.Bindings
import RelayBroker.Proofs.Traffic.Notices
import RelayBroker.Proofs.Traffic.Placement
import RelayBroker.Proofs.Traffic.Stranded
import RelayBroker.Proofs.Json.ReadBack
import RelayBroker.Proofs.Wire.RoundTrip
import RelayBroker.Proofs.Wire.TransferOrder
import RelayBroker.Proofs.Http.Dialects
import RelayBroker.Proofs.Fleet.LoadBalance
import RelayBroker.Proofs.Fleet.DirectoryRuns
import RelayBroker.Proofs.Fleet.MailboxRuns
import RelayBroker.Proofs.Traffic.Delivery
import RelayBroker.Proofs.Number.Digits
import RelayBroker.Proofs.Bridge.Spelling
import RelayBroker.Proofs.Bridge.Naming
import RelayBroker.Proofs.Address.Order
import RelayBroker.Proofs.Traffic.Overview
import RelayBroker.Proofs.Address.ReadBack
import RelayBroker.Proofs.Address.HostName
import RelayBroker.Proofs.Http.HostIdentity
import RelayBroker.Proofs.Text.Order
import RelayBroker.Proofs.Counters.Kinds
