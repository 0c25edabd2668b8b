import MatriXpost.Lib.Table
import MatriXpost.Lib.Sql
import MatriXpost.Lib.Loop
import MatriXpost.Lib.Trace
import MatriXpost.Lib.Select
import MatriXpost.Lib.Split
import MatriXpost.Core.Text
import MatriXpost.Core.Chrono
import MatriXpost.Core.Domain
import MatriXpost.Core.Request
import MatriXpost.Core.Json
import MatriXpost.Store.Schema
import MatriXpost.Store.Queue
import MatriXpost.Dispatch.Registry
import MatriXpost.Dispatch.Classify
import MatriXpost.Store.Jobs
import MatriXpost.Store.Articles
import MatriXpost.Store.Migrate
import MatriXpost.Lib.Prog
import MatriXpost.Lib.Dialogue
import MatriXpost.Lib.Simulation
import MatriXpost.Lib.Catalog
import MatriXpost.Lib.Pair
import MatriXpost.Store.Opening
import MatriXpost.Store.Versions
import MatriXpost.Store.VersionNine
import MatriXpost.Store.ConcurrentOpen
import MatriXpost.Queue.Run
import MatriXpost.Queue.FreshIds
import MatriXpost.Queue.Exclusive
import MatriXpost.Queue.Completion
import MatriXpost.Queue.ArticleRun
import MatriXpost.Queue.ArticleAccount
import MatriXpost.Queue.Independent
import MatriXpost.Queue.Readable
import MatriXpost.Queue.Due
import MatriXpost.Lib.Base64
import MatriXpost.Lib.Lease
import MatriXpost.Process.Calls
import MatriXpost.Process.Tick
import MatriXpost.Process.Quiet
import MatriXpost.Process.Claims
import MatriXpost.Process.Crash
import MatriXpost.Process.Drain
import MatriXpost.Process.Entry
import MatriXpost.Process.Publish
import MatriXpost.Runner.TerminalQrPng
import MatriXpost.Runner.TerminalQrAttempts
import MatriXpost.Runner.TerminalQrLeases
import MatriXpost.Runner.TerminalQrAccounting
import MatriXpost.Lib.SortedMap
import MatriXpost.Runner.Config
import MatriXpost.Lifecycle.Model
import MatriXpost.Lifecycle.Store
import MatriXpost.Lifecycle.Run
import MatriXpost.Lifecycle.Invariant
import MatriXpost.Lifecycle.Readable
import MatriXpost.Lifecycle.Register
import MatriXpost.Runner.Protocol
import MatriXpost.Runner.Client
import MatriXpost.Lib.TwoRuns
import MatriXpost.Runner.Routing
import MatriXpost.Runner.Loopback
import MatriXpost.WebDriver.Protocol
import MatriXpost.WebDriver.Profiles
import MatriXpost.WebDriver.Interaction
import MatriXpost.WebDriver.Actions
import MatriXpost.WebDriver.Publish
import MatriXpost.WebDriver.Sessions
import MatriXpost.WebDriver.Attempted
import MatriXpost.WebDriver.FinalAction
import MatriXpost.WebDriver.Acknowledgement
import MatriXpost.Daemon.ChangeData
import MatriXpost.Batch.Manifest
import MatriXpost.Batch.Conservation
import MatriXpost.Runner.PublishEndToEnd
import MatriXpost.Dispatch.FanOut
import MatriXpost.Runner.Staging
import MatriXpost.Runner.StagedFiles
import MatriXpost.Runner.StagedPublication
import MatriXpost.Queue.RoundTrip
import MatriXpost.Lib.LastGiven
import MatriXpost.Upstream.Dto
import MatriXpost.Upstream.Merge
import MatriXpost.Upstream.WechatLink
import MatriXpost.Lib.Checked
import MatriXpost.Runner.TerminalQrPngChecked
import MatriXpost.Cli.TerminalQr
import MatriXpost.WebDriver.EffectiveTexts
import MatriXpost.Batch.Tags
import MatriXpost.Daemon.Statements
import MatriXpost.Batch.RowNumbers
import MatriXpost.Desktop.Accounts
import MatriXpost.Store.Histories
import MatriXpost.Lifecycle.Chronology
import MatriXpost.Cli.HistoryQuery
import MatriXpost.Lifecycle.Wire
import MatriXpost.Lifecycle.FrontEnds
import MatriXpost.Lifecycle.Handlers
import MatriXpost.Lifecycle.Documents
import MatriXpost.Cli.Accounts
import MatriXpost.Process.Answers
import MatriXpost.Runner.TerminalQrSessions
import MatriXpost.Lib.Connection
import MatriXpost.Store.Redaction
