import MallFabric.Assoc
import MallFabric.Cache
import MallFabric.Checkout
import MallFabric.Circuit.Basic
import MallFabric.Circuit.Window
import MallFabric.Clock
import MallFabric.Connection.Address
import MallFabric.Connection.Dialler
import MallFabric.Connection.Pool
import MallFabric.Context
import MallFabric.Digest.Sha256
import MallFabric.Dispatch.Table
import MallFabric.Document
import MallFabric.Fallback
import MallFabric.Fault
import MallFabric.Flow
import MallFabric.Gateway.Answer
import MallFabric.Gateway.Request
import MallFabric.Gateway.Route
import MallFabric.Grpc.Metadata
import MallFabric.Grpc.Status
import MallFabric.Grpc.Unary
import MallFabric.Json.Lexeme
import MallFabric.Json.Printer
import MallFabric.Json.Reader
import MallFabric.Json.Value
import MallFabric.Main
import MallFabric.Message.Catalogue
import MallFabric.Message.Decode
import MallFabric.Message.Document
import MallFabric.Message.Encode
import MallFabric.Message.Query
import MallFabric.Message.Schema
import MallFabric.Message.Wire
import MallFabric.Method
import MallFabric.Node.CommandLine
import MallFabric.Node.Program
import MallFabric.Node.RedisUrl
import MallFabric.Node.SocketAddress
import MallFabric.Node.Start
import MallFabric.Number.Decimal
import MallFabric.Number.Double
import MallFabric.Number.Numeral
import MallFabric.Number.Reading
import MallFabric.Number.Rounding
import MallFabric.Number.Single
import MallFabric.Proofs.Assoc
import MallFabric.Proofs.Cache.Bounded
import MallFabric.Proofs.Cache.Entries
import MallFabric.Proofs.Cache.Key
import MallFabric.Proofs.Cache.Run
import MallFabric.Proofs.Cache.Sharing
import MallFabric.Proofs.Checkout.Effects
import MallFabric.Proofs.Checkout.InTime
import MallFabric.Proofs.Checkout.Sequence
import MallFabric.Proofs.Circuit.Accuracy
import MallFabric.Proofs.Circuit.Balance
import MallFabric.Proofs.Circuit.Evidence
import MallFabric.Proofs.Circuit.Opening
import MallFabric.Proofs.Circuit.Overlap
import MallFabric.Proofs.Circuit.Retention
import MallFabric.Proofs.Circuit.Run
import MallFabric.Proofs.Circuit.Sleep
import MallFabric.Proofs.Circuit.Traffic
import MallFabric.Proofs.Circuit.Unrecorded
import MallFabric.Proofs.Connection.Apart
import MallFabric.Proofs.Connection.Closing
import MallFabric.Proofs.Connection.Run
import MallFabric.Proofs.Connection.Single
import MallFabric.Proofs.Connection.Turn
import MallFabric.Proofs.Connection.Undisturbed
import MallFabric.Proofs.Dispatch.Transparency
import MallFabric.Proofs.Flow
import MallFabric.Proofs.Gateway.Blame
import MallFabric.Proofs.Gateway.Plain
import MallFabric.Proofs.Grpc.Hop
import MallFabric.Proofs.Grpc.Timeout
import MallFabric.Proofs.Json.Grammar
import MallFabric.Proofs.Json.Text
import MallFabric.Proofs.Message.Constancy
import MallFabric.Proofs.Message.Document
import MallFabric.Proofs.Message.Reencoding
import MallFabric.Proofs.Message.Rewording
import MallFabric.Proofs.Message.RoundTrip
import MallFabric.Proofs.Message.Wire
import MallFabric.Proofs.Number.Numeral
import MallFabric.Proofs.Proxy.Accounting
import MallFabric.Proofs.Proxy.Awaiting
import MallFabric.Proofs.Proxy.Begun
import MallFabric.Proofs.Proxy.Cancellation
import MallFabric.Proofs.Proxy.Deadline
import MallFabric.Proofs.Proxy.Detached
import MallFabric.Proofs.Proxy.Failing
import MallFabric.Proofs.Proxy.Handling
import MallFabric.Proofs.Proxy.Headway
import MallFabric.Proofs.Proxy.InTime
import MallFabric.Proofs.Proxy.Life
import MallFabric.Proofs.Proxy.Move
import MallFabric.Proofs.Proxy.Origin
import MallFabric.Proofs.Proxy.Passage
import MallFabric.Proofs.Proxy.Provenance
import MallFabric.Proofs.Proxy.Release
import MallFabric.Proofs.Proxy.Retoken
import MallFabric.Proofs.Proxy.Run
import MallFabric.Proofs.Proxy.Unrecorded
import MallFabric.Proofs.Proxy.Uses
import MallFabric.Proofs.Proxy.Waiting
import MallFabric.Proofs.Registry.Abandoned
import MallFabric.Proofs.Registry.Change
import MallFabric.Proofs.Registry.Faithful
import MallFabric.Proofs.Registry.Fleet
import MallFabric.Proofs.Registry.Health
import MallFabric.Proofs.Registry.History
import MallFabric.Proofs.Registry.Lapse
import MallFabric.Proofs.Registry.Lasting
import MallFabric.Proofs.Registry.Latest
import MallFabric.Proofs.Registry.Punctual
import MallFabric.Proofs.Registry.Reaping
import MallFabric.Proofs.Registry.Refinement
import MallFabric.Proofs.Registry.Refusal
import MallFabric.Proofs.Registry.Registration
import MallFabric.Proofs.Registry.Renewal
import MallFabric.Proofs.Registry.Requests
import MallFabric.Proofs.Registry.Sweeping
import MallFabric.Proofs.Registry.Visible
import MallFabric.Proofs.Text.Utf8
import MallFabric.Proxy.Basic
import MallFabric.Proxy.Call
import MallFabric.Proxy.Step
import MallFabric.Registry.Reaper
import MallFabric.Registry.Registrar
import MallFabric.Registry.Store
import MallFabric.Rehearsal.Calls
import MallFabric.Rehearsal.Connections
import MallFabric.Rehearsal.Cue
import MallFabric.Rehearsal.Network
import MallFabric.Rehearsal.Peers
import MallFabric.Rehearsal.Registry
import MallFabric.Rehearsal.Report
import MallFabric.Rehearsal.Script
import MallFabric.Schedule
import MallFabric.Services
import MallFabric.Settings.Basic
import MallFabric.Settings.Environment
import MallFabric.Settings.Reading
import MallFabric.Settings.Setting
import MallFabric.Settings.Toml.Document
import MallFabric.Settings.Toml.Scalar
import MallFabric.Settings.Toml.Text
import MallFabric.Settings.Toml.Value
import MallFabric.Text.Blank
import MallFabric.Text.Escaped
import MallFabric.Text.Hex
import MallFabric.Text.Quoted
import MallFabric.Text.Scan
import MallFabric.Text.Shapeless
import MallFabric.Text.Utf8
import MallFabric.Timed
