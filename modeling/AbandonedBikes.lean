import AbandonedBikes.Attempt
import AbandonedBikes.Audit.Entry
import AbandonedBikes.Audit.Fact
import AbandonedBikes.Audit.Log
import AbandonedBikes.Database.Dialogue
import AbandonedBikes.Database.EventLog
import AbandonedBikes.Database.Query
import AbandonedBikes.Database.Reply
import AbandonedBikes.Database.Row
import AbandonedBikes.Database.Schema
import AbandonedBikes.Database.Statement
import AbandonedBikes.Database.Store
import AbandonedBikes.Database.Wire
import AbandonedBikes.Digest.Sha256
import AbandonedBikes.Failure
import AbandonedBikes.Geo.Bounds
import AbandonedBikes.Geo.Cell
import AbandonedBikes.Geo.Distance
import AbandonedBikes.Geo.Longitude
import AbandonedBikes.Geo.Point
import AbandonedBikes.Geo.Trigonometry
import AbandonedBikes.Group.BikeGroup
import AbandonedBikes.Group.DuplicateGroup
import AbandonedBikes.Group.IdSet
import AbandonedBikes.Json.Reader
import AbandonedBikes.Json.Value
import AbandonedBikes.Json.Writer
import AbandonedBikes.Locks
import AbandonedBikes.Main
import AbandonedBikes.Number.Binary64
import AbandonedBikes.Number.Literal
import AbandonedBikes.Number.Positional
import AbandonedBikes.Proofs.Audit.ReadBack
import AbandonedBikes.Proofs.Database.CandidateCondition
import AbandonedBikes.Proofs.Database.Columns
import AbandonedBikes.Proofs.Database.Conversation
import AbandonedBikes.Proofs.Database.Course
import AbandonedBikes.Proofs.Database.Heedless
import AbandonedBikes.Proofs.Database.MergePlan
import AbandonedBikes.Proofs.Database.Merging
import AbandonedBikes.Proofs.Database.Recounting
import AbandonedBikes.Proofs.Database.Refinement
import AbandonedBikes.Proofs.Database.Requests
import AbandonedBikes.Proofs.Database.StatusChange
import AbandonedBikes.Proofs.Geo.Circle
import AbandonedBikes.Proofs.Json.ReadBack
import AbandonedBikes.Proofs.Locks.Consistency
import AbandonedBikes.Proofs.Locks.Exclusion
import AbandonedBikes.Proofs.Lookups
import AbandonedBikes.Proofs.Recompute.Run
import AbandonedBikes.Proofs.Replay.Bounds
import AbandonedBikes.Proofs.Replay.Causality
import AbandonedBikes.Proofs.Replay.Chronology
import AbandonedBikes.Proofs.Replay.Growth
import AbandonedBikes.Proofs.Replay.Permutation
import AbandonedBikes.Proofs.Replay.Positions
import AbandonedBikes.Proofs.Replay.Renaming
import AbandonedBikes.Proofs.Replay.Rule
import AbandonedBikes.Proofs.Report.Duplicates
import AbandonedBikes.Proofs.Report.Identity
import AbandonedBikes.Proofs.Report.Keys
import AbandonedBikes.Proofs.Report.Matching
import AbandonedBikes.Proofs.Report.Tags
import AbandonedBikes.Proofs.Service.Agreement
import AbandonedBikes.Proofs.Service.Calls
import AbandonedBikes.Proofs.Service.Filing
import AbandonedBikes.Proofs.Service.Listing
import AbandonedBikes.Proofs.Service.World
import AbandonedBikes.Proofs.Session.Basic
import AbandonedBikes.Proofs.Session.Continuity
import AbandonedBikes.Proofs.Session.Counters
import AbandonedBikes.Proofs.Session.Filings
import AbandonedBikes.Proofs.Session.Happenings
import AbandonedBikes.Proofs.Session.Healing
import AbandonedBikes.Proofs.Session.Indifference
import AbandonedBikes.Proofs.Session.Memberships
import AbandonedBikes.Proofs.Session.Merging
import AbandonedBikes.Proofs.Session.Pointers
import AbandonedBikes.Proofs.Session.Prefilter
import AbandonedBikes.Proofs.Session.Refusals
import AbandonedBikes.Proofs.Session.Statuses
import AbandonedBikes.Proofs.Session.Strengths
import AbandonedBikes.Proofs.Session.Trail
import AbandonedBikes.Proofs.Settings.Environment
import AbandonedBikes.Proofs.Signal.Arrangement
import AbandonedBikes.Proofs.Signal.Triage
import AbandonedBikes.Proofs.Spans
import AbandonedBikes.Proofs.Store.Frame
import AbandonedBikes.Proofs.Store.Merging
import AbandonedBikes.Proofs.Store.Numbering
import AbandonedBikes.Proofs.Store.Operations
import AbandonedBikes.Recompute.Arguments
import AbandonedBikes.Recompute.Command
import AbandonedBikes.Recompute.Tally
import AbandonedBikes.Report.Candidates
import AbandonedBikes.Report.Duplicates
import AbandonedBikes.Report.Matching
import AbandonedBikes.Report.Named
import AbandonedBikes.Report.Report
import AbandonedBikes.Report.Reporter
import AbandonedBikes.Report.Score
import AbandonedBikes.Report.Source
import AbandonedBikes.Report.Status
import AbandonedBikes.Report.Strength
import AbandonedBikes.Sample
import AbandonedBikes.Service.Basic
import AbandonedBikes.Service.Filing
import AbandonedBikes.Service.Operators
import AbandonedBikes.Settings
import AbandonedBikes.Signal.Classification
import AbandonedBikes.Signal.Replay
import AbandonedBikes.Signal.Timeline
import AbandonedBikes.Signal.Triage
import AbandonedBikes.Sorting.Adaptive
import AbandonedBikes.Sorting.Insertion
import AbandonedBikes.Sorting.Merge
import AbandonedBikes.Sorting.Quick
import AbandonedBikes.Sorting.Runs
import AbandonedBikes.Sorting.Short
import AbandonedBikes.Store.Interface
import AbandonedBikes.Store.PublicId
import AbandonedBikes.Store.Tables
import AbandonedBikes.Text.Blank
import AbandonedBikes.Text.Hex
import AbandonedBikes.Text.Printable
import AbandonedBikes.Text.Quoted
import AbandonedBikes.Text.Terminal
import AbandonedBikes.Time.Calendar
import AbandonedBikes.Time.Instant
import AbandonedBikes.Time.Rfc3339
import AbandonedBikes.Wire.Field
import AbandonedBikes.Wire.Report
import AbandonedBikes.Wire.View
import AbandonedBikes.Proofs.Time.Calendar
import AbandonedBikes.Proofs.Time.Rfc3339
import AbandonedBikes.Proofs.Timeline.Anonymity
import AbandonedBikes.Proofs.Timeline.Entries
import AbandonedBikes.Proofs.Timeline.Summary
import AbandonedBikes.Proofs.Wire.ReadBack
