import TaskBoard.Api.FilterRequest
import TaskBoard.Api.Handler
import TaskBoard.Api.Limits
import TaskBoard.Api.Page
import TaskBoard.Api.Problem
import TaskBoard.Api.Route
import TaskBoard.Api.TaskQuery
import TaskBoard.Api.WorkspaceId
import TaskBoard.Auth.Gate
import TaskBoard.Auth.Issue
import TaskBoard.Auth.SessionToken
import TaskBoard.Auth.TokenHeader
import TaskBoard.Auth.WebKey
import TaskBoard.Calendar.Date
import TaskBoard.Calendar.Timestamp
import TaskBoard.CommandLine.Flag
import TaskBoard.CommandLine.Invocation
import TaskBoard.CommandLine.Usage
import TaskBoard.Digest.Sha256
import TaskBoard.Digest.SipHash
import TaskBoard.Filter.Condition
import TaskBoard.Filter.Definition
import TaskBoard.Filter.Field
import TaskBoard.Filter.Literal
import TaskBoard.Filter.Match
import TaskBoard.Filter.Operator
import TaskBoard.Filter.Overrides
import TaskBoard.Filter.Query
import TaskBoard.Filter.Test
import TaskBoard.Http.Cookie
import TaskBoard.Http.MediaType
import TaskBoard.Http.Message
import TaskBoard.Http.Origins
import TaskBoard.Http.Target
import TaskBoard.Json.Basic
import TaskBoard.Json.Decoder
import TaskBoard.Json.Document
import TaskBoard.Json.Printer
import TaskBoard.Json.Reader
import TaskBoard.Main
import TaskBoard.Number.Double
import TaskBoard.Number.Shortest
import TaskBoard.Numeral
import TaskBoard.Postgres.Connection
import TaskBoard.Postgres.Row
import TaskBoard.Postgres.Schema
import TaskBoard.Postgres.Session
import TaskBoard.Postgres.Statement
import TaskBoard.Postgres.Store
import TaskBoard.Postgres.Upgrade
import TaskBoard.Program
import TaskBoard.Proofs.Api.Fetching
import TaskBoard.Proofs.Api.FilterIds
import TaskBoard.Proofs.Api.Freshness
import TaskBoard.Proofs.Api.Guarded
import TaskBoard.Proofs.Api.IdSet
import TaskBoard.Proofs.Api.Listing
import TaskBoard.Proofs.Api.Orderly
import TaskBoard.Proofs.Api.Overlap
import TaskBoard.Proofs.Api.Privacy
import TaskBoard.Proofs.Api.Refusals
import TaskBoard.Proofs.Api.Sizes
import TaskBoard.Proofs.Api.SmallCalls
import TaskBoard.Proofs.Api.Stages
import TaskBoard.Proofs.Api.Thread
import TaskBoard.Proofs.Api.Thresholds
import TaskBoard.Proofs.Api.Withdrawal
import TaskBoard.Proofs.Api.WorkspaceId
import TaskBoard.Proofs.Auth.Identity
import TaskBoard.Proofs.Auth.Origin
import TaskBoard.Proofs.Auth.Token
import TaskBoard.Proofs.Calendar.Date
import TaskBoard.Proofs.Calendar.Timestamp
import TaskBoard.Proofs.Filter.Acceptance
import TaskBoard.Proofs.Filter.Dates
import TaskBoard.Proofs.Filter.Evaluation
import TaskBoard.Proofs.Filter.Literal
import TaskBoard.Proofs.Filter.Meaning
import TaskBoard.Proofs.Filter.Outline
import TaskBoard.Proofs.Filter.Overrides
import TaskBoard.Proofs.Filter.Placeholders
import TaskBoard.Proofs.Filter.Reading
import TaskBoard.Proofs.Filter.Regrouping
import TaskBoard.Proofs.Filter.Resaving
import TaskBoard.Proofs.Filter.Saving
import TaskBoard.Proofs.Filter.Sizes
import TaskBoard.Proofs.Filter.WhereClause
import TaskBoard.Proofs.Json.Decoding
import TaskBoard.Proofs.Json.Lexeme
import TaskBoard.Proofs.Json.Printing
import TaskBoard.Proofs.Json.Values
import TaskBoard.Proofs.Numeral
import TaskBoard.Proofs.Postgres.Arguments
import TaskBoard.Proofs.Postgres.Bootstrap
import TaskBoard.Proofs.Postgres.Calls
import TaskBoard.Proofs.Postgres.Catalog
import TaskBoard.Proofs.Postgres.Checks
import TaskBoard.Proofs.Postgres.Contention
import TaskBoard.Proofs.Postgres.Database
import TaskBoard.Proofs.Postgres.Lifetime
import TaskBoard.Proofs.Postgres.Marks
import TaskBoard.Proofs.Postgres.Paging
import TaskBoard.Proofs.Postgres.Rivalry
import TaskBoard.Proofs.Postgres.Sizes
import TaskBoard.Proofs.Postgres.Tables
import TaskBoard.Proofs.Postgres.Transaction
import TaskBoard.Proofs.Postgres.Written
import TaskBoard.Proofs.Program
import TaskBoard.Proofs.Settings.Files
import TaskBoard.Proofs.Settings.Layering
import TaskBoard.Proofs.Settings.Soundness
import TaskBoard.Proofs.Shutdown
import TaskBoard.Proofs.Sql.Evaluation
import TaskBoard.Proofs.Sql.Expression
import TaskBoard.Proofs.Sql.Fragment
import TaskBoard.Proofs.Sql.Reader
import TaskBoard.Proofs.Sql.Token
import TaskBoard.Proofs.Sql.Truth
import TaskBoard.Proofs.Storage.Cache
import TaskBoard.Proofs.Storage.Loading
import TaskBoard.Proofs.Storage.Sweeping
import TaskBoard.Proofs.Storage.TimedMap
import TaskBoard.Proofs.Text.Blank
import TaskBoard.Proofs.Text.Lowercase
import TaskBoard.Proofs.Text.Pieces
import TaskBoard.Proofs.Text.Utf8
import TaskBoard.Settings.Layer
import TaskBoard.Settings.Resolved
import TaskBoard.Shutdown
import TaskBoard.Sql.Template
import TaskBoard.Storage.Board
import TaskBoard.Storage.Cache
import TaskBoard.Storage.Call
import TaskBoard.Storage.Error
import TaskBoard.Storage.SavedFilter
import TaskBoard.Storage.Sweeper
import TaskBoard.Text.Alphanumeric
import TaskBoard.Text.Base64
import TaskBoard.Text.Blank
import TaskBoard.Text.Lowercase
import TaskBoard.Text.Percent
import TaskBoard.Text.Utf8
import TaskBoard.Uri.Basic
import TaskBoard.Uri.Ip
