import SelfCheck.Circulation
import SelfCheck.CommandLine.Arguments
import SelfCheck.CommandLine.Run
import SelfCheck.Hub
import SelfCheck.Json.Basic
import SelfCheck.Json.Parser
import SelfCheck.Json.Printer
import SelfCheck.Main
import SelfCheck.Message.Basic
import SelfCheck.Message.Frame
import SelfCheck.Reader.Command
import SelfCheck.Reader.Fault
import SelfCheck.Reader.Link
import SelfCheck.Reader.Response
import SelfCheck.Registry
import SelfCheck.Settings.Basic
import SelfCheck.Settings.File
import SelfCheck.Settings.Load
import SelfCheck.Settings.Override
import SelfCheck.Sip.Client
import SelfCheck.Sip.Connection
import SelfCheck.Sip.Fault
import SelfCheck.Sip.Pool
import SelfCheck.Sip.Reply
import SelfCheck.Sip.Request
import SelfCheck.Station.Barcode
import SelfCheck.Station.Ledger
import SelfCheck.Station.Phase
import SelfCheck.Station.Session
import SelfCheck.Station.Step
import SelfCheck.Station.Turn
import SelfCheck.Text.Blank
import SelfCheck.Text.Bytes
import SelfCheck.Text.CaseIgnorable
import SelfCheck.Text.Cased
import SelfCheck.Text.CharClass
import SelfCheck.Text.Combining
import SelfCheck.Text.Invisible
import SelfCheck.Text.Lowercase
import SelfCheck.Text.Quoted
import SelfCheck.Text.Split
import SelfCheck.Time.Duration
import SelfCheck.Time.Seconds
import SelfCheck.Time.Timestamp
import SelfCheck.Toml.Date
import SelfCheck.Toml.Number
import SelfCheck.Toml.Parser
import SelfCheck.Toml.Table
import SelfCheck.Toml.Text
import SelfCheck.Toml.Value
import SelfCheck.Web.Route
import SelfCheck.Wire.Line
import SelfCheck.Proofs.Station.Course
import SelfCheck.Proofs.Station.History
import SelfCheck.Proofs.Station.Outstanding
import SelfCheck.Proofs.Station.Owed
import SelfCheck.Proofs.Station.Authority
import SelfCheck.Proofs.Station.Conservation
import SelfCheck.Proofs.Station.Exchange
import SelfCheck.Proofs.Station.AlarmWait
import SelfCheck.Proofs.Station.Farewell
import SelfCheck.Proofs.Station.Grammar
import SelfCheck.Proofs.Station.Retry
import SelfCheck.Proofs.Station.ReportedItem
import SelfCheck.Proofs.Station.BatchEnd
import SelfCheck.Proofs.Station.Inert
import SelfCheck.Proofs.Station.Calls
import SelfCheck.Proofs.Station.Fatal
import SelfCheck.Proofs.Station.RecordedItem
import SelfCheck.Proofs.Station.Replies
import SelfCheck.Proofs.Reader.Frames
import SelfCheck.Proofs.Station.Renewal
import SelfCheck.Proofs.Station.ByteStream
import SelfCheck.Proofs.Reader.Stream
import SelfCheck.Proofs.Reader.LineEnds
import SelfCheck.Proofs.Station.Lifetime
import SelfCheck.Proofs.Station.Schedule
import SelfCheck.Proofs.Json.RoundTrip
import SelfCheck.Proofs.Message.RoundTrip
import SelfCheck.Proofs.Sip.OwnReplies
import SelfCheck.Proofs.Text.Boundaries
import SelfCheck.Proofs.Sip.ReplyParts
import SelfCheck.Proofs.Sip.ReplyFields
import SelfCheck.Proofs.Station.Arming
import SelfCheck.Proofs.Station.Recovery
import SelfCheck.Proofs.Text.ByteOrder
import SelfCheck.Proofs.Registry.History
import SelfCheck.Proofs.Registry.StopSignals
import SelfCheck.Proofs.Sip.Lending
import SelfCheck.Proofs.Sip.Loans
import SelfCheck.Proofs.Toml.Strings
import SelfCheck.Proofs.Toml.Integers
import SelfCheck.Proofs.Toml.Document
import SelfCheck.Proofs.Toml.Range
import SelfCheck.Proofs.Settings.Overrides
import SelfCheck.Proofs.Settings.Writable
import SelfCheck.Proofs.Settings.RoundTrip
import SelfCheck.Proofs.Settings.PingInterval
import SelfCheck.Proofs.Reader.Responses
import SelfCheck.Proofs.Station.WrittenTag
import SelfCheck.Proofs.Sip.Framing
import SelfCheck.Proofs.Json.Tokens
import SelfCheck.Proofs.Json.Grammar
import SelfCheck.Proofs.Json.Members
import SelfCheck.Proofs.Message.Rearranged
