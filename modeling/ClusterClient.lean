import ClusterClient.Agent
import ClusterClient.Client
import ClusterClient.Command.Arguments
import ClusterClient.Command.Basic
import ClusterClient.Command.Numeral
import ClusterClient.Command.Run
import ClusterClient.Dialog
import ClusterClient.Entry.Basic
import ClusterClient.Entry.Decode
import ClusterClient.Entry.Index
import ClusterClient.Entry.Query
import ClusterClient.Failure
import ClusterClient.Http.Basic
import ClusterClient.Http.Host
import ClusterClient.Http.Wire
import ClusterClient.Json.Basic
import ClusterClient.Json.Fault
import ClusterClient.Json.Reader
import ClusterClient.Main
import ClusterClient.Peer.Basic
import ClusterClient.Peer.Lists
import ClusterClient.Rows.Basic
import ClusterClient.Rows.Table
import ClusterClient.SelfReport
import ClusterClient.Settings.Basic
import ClusterClient.Settings.File
import ClusterClient.Tally
import ClusterClient.Text.Base64
import ClusterClient.Text.Basic
import ClusterClient.Text.Decimal
import ClusterClient.Text.Encoding
import ClusterClient.Text.Pattern
import ClusterClient.Text.Percent
import ClusterClient.Text.Quoted
import ClusterClient.Text.Similar
import ClusterClient.Yaml.Cursor
import ClusterClient.Yaml.Node
import ClusterClient.Yaml.Reader
import ClusterClient.Yaml.Scalar
import ClusterClient.Yaml.Token
import ClusterClient.Proofs.Agent
import ClusterClient.Proofs.Base64
import ClusterClient.Proofs.Blank
import ClusterClient.Proofs.Calls
import ClusterClient.Proofs.Collections
import ClusterClient.Proofs.Command.Arguments
import ClusterClient.Proofs.Command.Counted
import ClusterClient.Proofs.Command.Course
import ClusterClient.Proofs.Command.Exit
import ClusterClient.Proofs.Command.Get
import ClusterClient.Proofs.Command.Overrides
import ClusterClient.Proofs.Command.Start
import ClusterClient.Proofs.Command.Status
import ClusterClient.Proofs.Command.Table
import ClusterClient.Proofs.Command.Values
import ClusterClient.Proofs.Counters
import ClusterClient.Proofs.Decimal
import ClusterClient.Proofs.Dialog
import ClusterClient.Proofs.Elements
import ClusterClient.Proofs.Entry.Checks
import ClusterClient.Proofs.Entry.Counter
import ClusterClient.Proofs.Entry.Index
import ClusterClient.Proofs.Entry.Printed
import ClusterClient.Proofs.Entry.Query
import ClusterClient.Proofs.Entry.Recoded
import ClusterClient.Proofs.Entry.Strict
import ClusterClient.Proofs.Entry.Truncated
import ClusterClient.Proofs.Entry.WireForm
import ClusterClient.Proofs.HostName
import ClusterClient.Proofs.Json.Grammar
import ClusterClient.Proofs.Json.Members
import ClusterClient.Proofs.Json.Numeral
import ClusterClient.Proofs.Json.Outline
import ClusterClient.Proofs.Json.Parsed
import ClusterClient.Proofs.Json.Printing
import ClusterClient.Proofs.Json.Reading
import ClusterClient.Proofs.Json.Written
import ClusterClient.Proofs.Operations
import ClusterClient.Proofs.Path
import ClusterClient.Proofs.Pattern
import ClusterClient.Proofs.Peer.Address
import ClusterClient.Proofs.Peer.Listing
import ClusterClient.Proofs.Peer.Marking
import ClusterClient.Proofs.Peer.Pieces
import ClusterClient.Proofs.Percent
import ClusterClient.Proofs.Port
import ClusterClient.Proofs.RequestUrl
import ClusterClient.Proofs.Rounding
import ClusterClient.Proofs.Rows.Agreement
import ClusterClient.Proofs.Rows.Drain
import ClusterClient.Proofs.Rows.Fetches
import ClusterClient.Proofs.Rows.Finish
import ClusterClient.Proofs.Rows.Leader
import ClusterClient.Proofs.SelfReport
import ClusterClient.Proofs.Server
import ClusterClient.Proofs.Split
import ClusterClient.Proofs.Tally
import ClusterClient.Proofs.Unreadable
import ClusterClient.Proofs.Utf8
