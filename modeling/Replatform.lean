import Replatform.Analysis
import Replatform.Answer.Analysis
import Replatform.Answer.Code
import Replatform.Answer.Data
import Replatform.Answer.Plan
import Replatform.Answer.Review
import Replatform.Config.Basic
import Replatform.Config.Document
import Replatform.Config.Scope
import Replatform.Decimal
import Replatform.Graph
import Replatform.Imports
import Replatform.Json.Decode
import Replatform.Json.Fault
import Replatform.Json.Lookup
import Replatform.Json.Source
import Replatform.Json.Value
import Replatform.Markdown.Blocks
import Replatform.Markdown.Container
import Replatform.Markdown.Cursor
import Replatform.Markdown.Definition
import Replatform.Markdown.Html
import Replatform.Markdown.Info
import Replatform.Markdown.Reference
import Replatform.Markdown.Start
import Replatform.Match
import Replatform.Migration.Error
import Replatform.Migration.Event
import Replatform.Migration.Generation
import Replatform.Migration.Orchestrator
import Replatform.Migration.Outcome
import Replatform.Migration.Prompt
import Replatform.Migration.Session
import Replatform.Migration.StaticCheck
import Replatform.Migration.Telling
import Replatform.Migration.Verification
import Replatform.Names
import Replatform.Path
import Replatform.Plan.Context
import Replatform.Plan.Mapper
import Replatform.Plan.Pattern
import Replatform.Plan.Priority
import Replatform.Plan.Schedule
import Replatform.Progress
import Replatform.Proofs.Answer.Code
import Replatform.Proofs.Answer.Encoded
import Replatform.Proofs.Answer.Fields
import Replatform.Proofs.Answer.Places
import Replatform.Proofs.Answer.Plan
import Replatform.Proofs.Answer.Prose
import Replatform.Proofs.Config.RoundTrip
import Replatform.Proofs.Config.Spelling
import Replatform.Proofs.Graph.Build
import Replatform.Proofs.Graph.Lookup
import Replatform.Proofs.Graph.Search
import Replatform.Proofs.Imports.Source
import Replatform.Proofs.Json.Members
import Replatform.Proofs.Json.Numerals
import Replatform.Proofs.Json.Records
import Replatform.Proofs.Json.RoundTrip
import Replatform.Proofs.Json.Span
import Replatform.Proofs.Json.Strings
import Replatform.Proofs.Markdown.Fenced
import Replatform.Proofs.Markdown.Kinds
import Replatform.Proofs.Markdown.Start
import Replatform.Proofs.Markdown.Suffix
import Replatform.Proofs.Migration.Caching
import Replatform.Proofs.Migration.Coherence
import Replatform.Proofs.Migration.History
import Replatform.Proofs.Migration.Isolation
import Replatform.Proofs.Migration.Merging
import Replatform.Proofs.Migration.Outcome
import Replatform.Proofs.Migration.Phases
import Replatform.Proofs.Migration.Planned
import Replatform.Proofs.Migration.Readiness
import Replatform.Proofs.Migration.Regeneration
import Replatform.Proofs.Migration.Rereading
import Replatform.Proofs.Migration.Settling
import Replatform.Proofs.Migration.Streaming
import Replatform.Proofs.Migration.WriteBack
import Replatform.Proofs.Path
import Replatform.Proofs.Path.Normal
import Replatform.Proofs.Plan.Budget
import Replatform.Proofs.Plan.Dependencies
import Replatform.Proofs.Plan.Emission
import Replatform.Proofs.Plan.Glob
import Replatform.Proofs.Plan.Greedy
import Replatform.Proofs.Plan.Layout
import Replatform.Proofs.Plan.Meaning
import Replatform.Proofs.Plan.Named
import Replatform.Proofs.Plan.Omission
import Replatform.Proofs.Plan.Order
import Replatform.Proofs.Rounding
import Replatform.Proofs.Service.Exchanges
import Replatform.Proofs.Service.Sweeps
import Replatform.Proofs.Session.Drivers
import Replatform.Proofs.Session.Handed
import Replatform.Proofs.Session.Report
import Replatform.Proofs.Table
import Replatform.Proofs.Text
import Replatform.Proofs.Toml.Document
import Replatform.Proofs.Toml.Numbers
import Replatform.Proofs.Toml.Strings
import Replatform.Proofs.Tree.Basic
import Replatform.Proofs.Tree.Built
import Replatform.Proofs.Tree.Canonical
import Replatform.Proofs.Tree.Change
import Replatform.Proofs.Tree.Each
import Replatform.Proofs.Tree.Kinds
import Replatform.Proofs.Tree.Refill
import Replatform.Proofs.Tree.Rooted
import Replatform.Proofs.Tree.Search
import Replatform.Proofs.Tree.Valid
import Replatform.Proofs.Verification.Corrections
import Replatform.Proofs.Verification.Dangling
import Replatform.Proofs.Verification.Passes
import Replatform.Proofs.Verification.Reported
import Replatform.Proofs.Verification.Unresolved
import Replatform.Proofs.Verification.Verdict
import Replatform.Proofs.Wire.RoundTrip
import Replatform.Proofs.Work.Calls
import Replatform.Proofs.Work.Ending
import Replatform.Rehearsal.Echo
import Replatform.Rehearsal.Scene
import Replatform.Rehearsal.Script
import Replatform.Rehearsal.Shelf
import Replatform.Rehearsal.Shop
import Replatform.Rehearsal.Stage
import Replatform.Rehearsal.Wire
import Replatform.Repository.Basic
import Replatform.Repository.Cache
import Replatform.Repository.Error
import Replatform.Service.Basic
import Replatform.Service.Error
import Replatform.Service.Http
import Replatform.Service.Message
import Replatform.Service.Policy
import Replatform.Service.RateLimit
import Replatform.Service.Signal
import Replatform.Sort
import Replatform.Table
import Replatform.Text.Blank
import Replatform.Text.Lowercase
import Replatform.Text.Quoted
import Replatform.Text.Ranges
import Replatform.Text.Search
import Replatform.Text.Word
import Replatform.Time.Date
import Replatform.Time.Duration
import Replatform.Time.Timestamp
import Replatform.Toml.Document
import Replatform.Toml.Fields
import Replatform.Toml.Layout
import Replatform.Toml.Number
import Replatform.Toml.Quoted
import Replatform.Toml.Value
import Replatform.Tree.Build
import Replatform.Tree.Lookup
import Replatform.Tree.Node
import Replatform.Tree.Valid
import Replatform.Wire.Analysis
import Replatform.Wire.Answer
import Replatform.Wire.Config
import Replatform.Wire.Event
import Replatform.Wire.Plan
import Replatform.Wire.Run
import Replatform.Wire.Service
import Replatform.Wire.Tree
import Replatform.Work.Basic
import Replatform.Work.Call
import Replatform.Work.Retry
import Replatform.Work.World
