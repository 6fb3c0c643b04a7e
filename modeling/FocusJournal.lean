import FocusJournal.Browser.Platform
import FocusJournal.Browser.View
import FocusJournal.Client.Arguments
import FocusJournal.Client.Command
import FocusJournal.Client.Dialogue
import FocusJournal.Client.Reply
import FocusJournal.Client.Run
import FocusJournal.Connection.Errand
import FocusJournal.Connection.Request
import FocusJournal.Connection.Service
import FocusJournal.Daemon.Basic
import FocusJournal.Daemon.Home
import FocusJournal.Daemon.Settings
import FocusJournal.Decimal.Binary64
import FocusJournal.Decimal.Shortest
import FocusJournal.Engine.Journaling
import FocusJournal.Engine.Rehearsed
import FocusJournal.Focus.Basic
import FocusJournal.Journal.AppName
import FocusJournal.Journal.Basic
import FocusJournal.Journal.Recorder
import FocusJournal.Journal.ServerName
import FocusJournal.Json.Basic
import FocusJournal.Json.Fault
import FocusJournal.Json.Format
import FocusJournal.Json.Mismatch
import FocusJournal.Json.Printer
import FocusJournal.Json.Reader
import FocusJournal.Json.Skip
import FocusJournal.Main
import FocusJournal.Message.Action
import FocusJournal.Message.Control
import FocusJournal.Message.Credentials
import FocusJournal.Message.Envelope
import FocusJournal.Message.Notification
import FocusJournal.Message.Refusal
import FocusJournal.Message.Response
import FocusJournal.Reporter.Basic
import FocusJournal.Reporter.Station
import FocusJournal.Table
import FocusJournal.Text.Blank
import FocusJournal.Text.CodeTable
import FocusJournal.Text.Composite
import FocusJournal.Text.Escaped
import FocusJournal.Text.Mark
import FocusJournal.Text.Normal
import FocusJournal.Text.Numeral
import FocusJournal.Text.Printable
import FocusJournal.Text.Utf8
import FocusJournal.Toml.Basic
import FocusJournal.Toml.Quoted
import FocusJournal.Toml.Reader
import FocusJournal.Toml.Scalar
import FocusJournal.Url.Address
import FocusJournal.Url.Authority
import FocusJournal.Url.Basic
import FocusJournal.Url.Direction
import FocusJournal.Url.Domain
import FocusJournal.Url.Host
import FocusJournal.Url.Joining
import FocusJournal.Url.Mapping
import FocusJournal.Url.Punycode
import FocusJournal.Proofs.Recorder.Upshot
import FocusJournal.Proofs.Recorder.Span
import FocusJournal.Proofs.Engine.Run
import FocusJournal.Proofs.Engine.Chronicle
import FocusJournal.Proofs.Engine.Alternation
import FocusJournal.Proofs.Reporter.Reaction
import FocusJournal.Proofs.Station.Run
import FocusJournal.Proofs.Station.Tracking
import FocusJournal.Proofs.Station.Consent
import FocusJournal.Proofs.Station.Ledger
import FocusJournal.Proofs.Station.Quiescence
import FocusJournal.Proofs.Reporter.Switching
import FocusJournal.Proofs.Station.Departure
import FocusJournal.Proofs.Station.Standing
import FocusJournal.Proofs.Station.Settlement
import FocusJournal.Proofs.Station.Polling
import FocusJournal.Proofs.Browser.Observation
import FocusJournal.Proofs.Browser.History
import FocusJournal.Proofs.Browser.Whereabouts
import FocusJournal.Proofs.Station.Course
import FocusJournal.Proofs.Station.Ticks
import FocusJournal.Proofs.Station.Answers
import FocusJournal.Proofs.Station.Registration
import FocusJournal.Proofs.Text.Utf8
import FocusJournal.Proofs.Json.Spelling
import FocusJournal.Proofs.Json.Reading
import FocusJournal.Proofs.Json.Records
import FocusJournal.Proofs.Message.Response
import FocusJournal.Proofs.Client.Reply
import FocusJournal.Proofs.Connection.Ending
import FocusJournal.Proofs.Message.Control
import FocusJournal.Proofs.Message.Credentials
import FocusJournal.Proofs.Message.Password
import FocusJournal.Proofs.Connection.Reads
import FocusJournal.Proofs.Connection.Overrun
import FocusJournal.Proofs.Station.Settling
import FocusJournal.Proofs.Station.Login
import FocusJournal.Proofs.Station.Redaction
import FocusJournal.Proofs.Client.Exchange
import FocusJournal.Proofs.Client.Login
import FocusJournal.Proofs.Json.Values
import FocusJournal.Proofs.Message.Notification
import FocusJournal.Proofs.Url.Authority
import FocusJournal.Proofs.Journal.AppName
import FocusJournal.Proofs.Journal.ServerName
import FocusJournal.Proofs.Engine.Answers
import FocusJournal.Proofs.Reporter.Meanwhile
import FocusJournal.Proofs.Reporter.Order
import FocusJournal.Proofs.Reporter.Provenance
import FocusJournal.Proofs.Reporter.Ambiguity
import FocusJournal.Proofs.Connection.Secrecy
