import BrowserRelay.CommandLine
import BrowserRelay.Config.Load
import BrowserRelay.Config.Sections
import BrowserRelay.Config.Settings
import BrowserRelay.Decimal.Binary64
import BrowserRelay.Decimal.Scaling
import BrowserRelay.Decimal.Shortest
import BrowserRelay.Failure
import BrowserRelay.Files.Outcomes
import BrowserRelay.Files.Path
import BrowserRelay.Files.Place
import BrowserRelay.Files.Refusal
import BrowserRelay.Files.Store
import BrowserRelay.Files.System
import BrowserRelay.Json.NumberText
import BrowserRelay.Json.Numeral
import BrowserRelay.Json.Printer
import BrowserRelay.Json.Reader
import BrowserRelay.Json.Value
import BrowserRelay.Main
import BrowserRelay.Message.ClientMessage
import BrowserRelay.Message.Envelope
import BrowserRelay.Message.RequestId
import BrowserRelay.Message.ServiceMessage
import BrowserRelay.Recording.Action
import BrowserRelay.Recording.ActionLog
import BrowserRelay.Recording.ActionText
import BrowserRelay.Recording.Emission
import BrowserRelay.Recording.ReplayStep
import BrowserRelay.Recording.Script
import BrowserRelay.Relay.EventLoop
import BrowserRelay.Relay.Exchange
import BrowserRelay.Relay.Gateway
import BrowserRelay.Relay.Inbox
import BrowserRelay.Relay.Launch
import BrowserRelay.Relay.Outside
import BrowserRelay.Relay.Supervisor
import BrowserRelay.RunLog.Event
import BrowserRelay.RunLog.Logger
import BrowserRelay.RunLog.Rotation
import BrowserRelay.Session.Programs
import BrowserRelay.Session.Service
import BrowserRelay.Session.Serving
import BrowserRelay.Session.Session
import BrowserRelay.Shell.Arithmetic
import BrowserRelay.Shell.Builtins
import BrowserRelay.Shell.Command
import BrowserRelay.Shell.Evaluation
import BrowserRelay.Shell.Expansion
import BrowserRelay.Shell.Filters
import BrowserRelay.Shell.Format
import BrowserRelay.Shell.Machine
import BrowserRelay.Shell.Pattern
import BrowserRelay.Shell.Programs
import BrowserRelay.Shell.Script
import BrowserRelay.Shell.Services
import BrowserRelay.Shell.Token
import BrowserRelay.Text.Blank
import BrowserRelay.Text.Digits
import BrowserRelay.Text.Lines
import BrowserRelay.Text.Reading
import BrowserRelay.Text.Sha256
import BrowserRelay.Text.Utf8
import BrowserRelay.Timers.Table
import BrowserRelay.Timers.Tasks
import BrowserRelay.Toml.Reader
import BrowserRelay.Toml.Scalar
import BrowserRelay.Toml.Tables
import BrowserRelay.Toml.Value
import BrowserRelay.ToolList
import BrowserRelay.Proofs.Run
import BrowserRelay.Proofs.Traffic
import BrowserRelay.Proofs.PassingOn
import BrowserRelay.Proofs.ServiceSide
import BrowserRelay.Proofs.Passage
import BrowserRelay.Proofs.Ledger
import BrowserRelay.Proofs.Answers
import BrowserRelay.Proofs.Stranded
import BrowserRelay.Proofs.Calls
import BrowserRelay.Proofs.Responses
import BrowserRelay.Proofs.Correlation
import BrowserRelay.Proofs.Tending
import BrowserRelay.Proofs.Deadlines
import BrowserRelay.Proofs.Lifecycle
import BrowserRelay.Proofs.Pending
import BrowserRelay.Proofs.Unanswered
import BrowserRelay.Proofs.Readiness
import BrowserRelay.Proofs.Recording
import BrowserRelay.Proofs.CatchingUp
import BrowserRelay.Proofs.Scripts
import BrowserRelay.Proofs.Rounding
import BrowserRelay.Proofs.Scaling
import BrowserRelay.Proofs.ShortestDecimal
import BrowserRelay.Proofs.JsonValues
import BrowserRelay.Proofs.NumberText
import BrowserRelay.Proofs.JsonText
import BrowserRelay.Proofs.ReadBack
import BrowserRelay.Proofs.UnreadText
import BrowserRelay.Proofs.RecordedText
import BrowserRelay.Proofs.StoreCases
import BrowserRelay.Proofs.WrittenFiles
import BrowserRelay.Proofs.Restart
import BrowserRelay.Proofs.Journal
import BrowserRelay.Proofs.Agreement
import BrowserRelay.Proofs.Replaced
import BrowserRelay.Proofs.Upkeep
import BrowserRelay.Proofs.Chores
import BrowserRelay.Proofs.Arms
import BrowserRelay.Proofs.Probes
import BrowserRelay.Proofs.LoopSteps
import BrowserRelay.Proofs.Shutdown
import BrowserRelay.Proofs.ArmedDeadlines
import BrowserRelay.Proofs.Mailbox
import BrowserRelay.Proofs.LeftOver
import BrowserRelay.Proofs.OneProcess
import BrowserRelay.Proofs.Pruning
import BrowserRelay.Proofs.CompactText
import BrowserRelay.Proofs.Comments
import BrowserRelay.Proofs.Framing
import BrowserRelay.Proofs.WrittenLines
import BrowserRelay.Proofs.Draining
import BrowserRelay.Proofs.Refusals
import BrowserRelay.Proofs.Retries
import BrowserRelay.Proofs.PathKeys
import BrowserRelay.Proofs.RotationNames
import BrowserRelay.Proofs.StoreChanges
import BrowserRelay.Proofs.LogFiles
import BrowserRelay.Proofs.DiskBound
import BrowserRelay.Proofs.Archive
import BrowserRelay.Proofs.OldestFirst
import BrowserRelay.Proofs.RejectedLines
import BrowserRelay.Proofs.ResponseOrder
import BrowserRelay.Proofs.LogCalls
import BrowserRelay.Proofs.MissedProbes
import BrowserRelay.Proofs.OwnTool
import BrowserRelay.Proofs.Replaying
import BrowserRelay.Proofs.ScriptText
import BrowserRelay.Proofs.Envelopes
import BrowserRelay.Proofs.MergedTools
import BrowserRelay.Proofs.TimerTasks
import BrowserRelay.Proofs.KeyedTimers
import BrowserRelay.Proofs.Trees
import BrowserRelay.Proofs.RotateAndPrune
import BrowserRelay.Proofs.CutPayloads
