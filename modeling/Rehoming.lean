import Rehoming.Access
import Rehoming.Answer.Basic
import Rehoming.Application.Basic
import Rehoming.Application.Status
import Rehoming.Audit
import Rehoming.Batch
import Rehoming.Collection.Dictionary
import Rehoming.Collection.Tally
import Rehoming.Collection.TextSet
import Rehoming.Contact
import Rehoming.Decision
import Rehoming.Demo.Arguments
import Rehoming.Demo.Cast
import Rehoming.Demo.Script
import Rehoming.Document
import Rehoming.Edit
import Rehoming.FieldError
import Rehoming.Http.Handler
import Rehoming.Http.Media
import Rehoming.Http.Message
import Rehoming.Http.Problem
import Rehoming.Http.Route
import Rehoming.Http.Target
import Rehoming.Ids
import Rehoming.Json.Basic
import Rehoming.Json.Decode
import Rehoming.Json.Printer
import Rehoming.Json.Reader
import Rehoming.LogFilter
import Rehoming.Main
import Rehoming.Number.Double
import Rehoming.Number.Natural
import Rehoming.Number.RealText
import Rehoming.Number.Shortest
import Rehoming.Policy
import Rehoming.Proofs.Service.Discipline
import Rehoming.Proofs.Service.Looking
import Rehoming.Proofs.Service.Request
import Rehoming.Proofs.Store.Records
import Rehoming.Question.Basic
import Rehoming.Question.Registry
import Rehoming.Question.Report
import Rehoming.Reference.Backfill
import Rehoming.Reference.Basic
import Rehoming.Reference.Update
import Rehoming.Search.Criteria
import Rehoming.Search.Filters
import Rehoming.Service.Batch
import Rehoming.Service.Check
import Rehoming.Service.Commit
import Rehoming.Service.Decide
import Rehoming.Service.Edit
import Rehoming.Service.Program
import Rehoming.Service.Read
import Rehoming.Service.Refusal
import Rehoming.Service.Submit
import Rehoming.Settings.Address
import Rehoming.Settings.Basic
import Rehoming.Statistics
import Rehoming.Store.Directory
import Rehoming.Store.Error
import Rehoming.Store.Records
import Rehoming.Submission
import Rehoming.Text.Ascii
import Rehoming.Text.Blank
import Rehoming.Text.CaseTable
import Rehoming.Text.LetterTable
import Rehoming.Text.Lowercase
import Rehoming.Text.Substring
import Rehoming.Text.Utf8
import Rehoming.Time.Calendar
import Rehoming.Time.Instant
import Rehoming.Time.Rfc3339
import Rehoming.Timeline.Activity
import Rehoming.Timeline.Event
import Rehoming.Timeline.Query
import Rehoming.Wire.Answer
import Rehoming.Wire.Application
import Rehoming.Wire.Directory
import Rehoming.Wire.Mark
import Rehoming.Wire.Report
import Rehoming.Wire.Request
import Rehoming.Wire.Search
import Rehoming.Wire.Settings
import Rehoming.Wire.Timeline
import Rehoming.World.Basic
import Rehoming.World.Disturbance
import Rehoming.Proofs.Service.Amendment
import Rehoming.Proofs.Service.Transaction
import Rehoming.Proofs.Service.Mutation
import Rehoming.Proofs.Service.Writing
import Rehoming.Proofs.Sharing.Effect
import Rehoming.Proofs.Sharing.Alone
import Rehoming.Proofs.Sharing.Serial
import Rehoming.Proofs.Service.Course
import Rehoming.Proofs.Time.Instant
import Rehoming.Proofs.Sharing.Uniqueness
import Rehoming.Proofs.Store.Constraint
import Rehoming.Proofs.Service.Lifecycle
import Rehoming.Proofs.Sharing.Lifecycle
import Rehoming.Proofs.Sharing.Finality
import Rehoming.Proofs.Http.Changes
import Rehoming.Proofs.Performing.Authority
import Rehoming.Proofs.Performing.Mutation
import Rehoming.Proofs.Search.Scope
import Rehoming.Proofs.Sharing.Timeline
import Rehoming.Proofs.Performing.Books
import Rehoming.Proofs.Performing.Session
import Rehoming.Proofs.Performing.Deletion
import Rehoming.Proofs.Performing.Alike
import Rehoming.Proofs.Performing.Strangers
import Rehoming.Proofs.Performing.Retelling
import Rehoming.Proofs.Performing.Auditing
import Rehoming.Proofs.Sharing.Forms
import Rehoming.Proofs.Number.Natural
import Rehoming.Proofs.Reference.Slots
import Rehoming.Proofs.Settings.Bounds
import Rehoming.Proofs.Service.Slots
import Rehoming.Proofs.Sharing.Slots
import Rehoming.Proofs.Service.Heedless
import Rehoming.Proofs.Sharing.Outage
import Rehoming.Proofs.Collection.Counting
import Rehoming.Proofs.Search.Statistics
import Rehoming.Proofs.Collection.Ordered
import Rehoming.Proofs.Timeline.Numbers
import Rehoming.Proofs.Http.Bodies
import Rehoming.Proofs.Json.Decode
import Rehoming.Proofs.Json.Scalar
import Rehoming.Proofs.Json.Shape
import Rehoming.Proofs.Json.Text
import Rehoming.Proofs.Performing.Activity
import Rehoming.Proofs.Wire.Answer
import Rehoming.Proofs.Wire.Record
import Rehoming.Proofs.Wire.RoundTrip
import Rehoming.Proofs.Sharing.Contest
import Rehoming.Proofs.Performing.Batches
import Rehoming.Proofs.Performing.Deciding
import Rehoming.Proofs.Performing.Submitting
import Rehoming.Proofs.Reference.Backfill
import Rehoming.Proofs.Performing.Checking
import Rehoming.Proofs.Search.Order
import Rehoming.Proofs.Search.Partition
import Rehoming.Proofs.Text.Sigma
import Rehoming.Proofs.Search.Verbatim
import Rehoming.Proofs.Reference.Listed
import Rehoming.Proofs.Question.Numbers
import Rehoming.Proofs.Question.Report
import Rehoming.Proofs.Timeline.Pages
import Rehoming.Proofs.Contact.Formats
import Rehoming.Proofs.Http.Kinds
import Rehoming.Proofs.Reference.Naming
