import Storefront.AccessToken
import Storefront.Account
import Storefront.Address
import Storefront.Address.Alphabet
import Storefront.Address.International
import Storefront.Address.Label
import Storefront.Address.Literal
import Storefront.Address.Reader
import Storefront.Address.Reference
import Storefront.Body
import Storefront.Catalog
import Storefront.Client
import Storefront.Cookies
import Storefront.Credentials
import Storefront.Customer
import Storefront.Delivery
import Storefront.Endpoint
import Storefront.ErrorDocument
import Storefront.Exchange
import Storefront.Failure
import Storefront.Flow
import Storefront.Headers
import Storefront.Json.Body
import Storefront.Json.Display
import Storefront.Json.Reader
import Storefront.Json.Token
import Storefront.Json.Value
import Storefront.Json.Writer
import Storefront.Log.Level
import Storefront.Log.Line
import Storefront.Log.Registry
import Storefront.Loop.Run
import Storefront.Loop.Start
import Storefront.Loop.State
import Storefront.Number.Binary64
import Storefront.Number.Layout
import Storefront.Number.Reader
import Storefront.Number.Shortest
import Storefront.Operation
import Storefront.Order
import Storefront.Pairs
import Storefront.Reason
import Storefront.Request
import Storefront.Schema.Issue
import Storefront.Schema.Nested
import Storefront.Schema.Scalar
import Storefront.Schema.Shape
import Storefront.Schema.Whole
import Storefront.Server
import Storefront.Session
import Storefront.Settings
import Storefront.Settings.Variables
import Storefront.Signature
import Storefront.Status
import Storefront.Text.Base64
import Storefront.Text.Blank
import Storefront.Text.Case
import Storefront.Text.Charset
import Storefront.Text.Composition
import Storefront.Text.Digit
import Storefront.Text.Direction
import Storefront.Text.Hex
import Storefront.Text.Joining
import Storefront.Text.Lines
import Storefront.Text.Mark
import Storefront.Text.Percent
import Storefront.Text.Pieces
import Storefront.Text.Printable
import Storefront.Text.Punycode
import Storefront.Text.Quoted
import Storefront.Text.Script
import Storefront.Text.Str
import Storefront.Text.Table
import Storefront.Text.Utf8
import Storefront.Time.Instant
import Storefront.Time.Reader
import Storefront.Time.Writer
import Storefront.Proofs.Steps
import Storefront.Proofs.Jobs
import Storefront.Proofs.Ledger
import Storefront.Proofs.Entries
import Storefront.Proofs.Turns
import Storefront.Proofs.Runs
import Storefront.Proofs.Lasting
import Storefront.Proofs.Awaiting
import Storefront.Proofs.Once
import Storefront.Proofs.Wakeups
import Storefront.Proofs.Delivered
import Storefront.Proofs.Contract
import Storefront.Proofs.TokenHeader
import Storefront.Proofs.Transport
import Storefront.Proofs.History
import Storefront.Proofs.Strings
import Storefront.Proofs.Reading
import Storefront.Proofs.Checks
import Storefront.Proofs.Accepted
import Storefront.Proofs.Documents
import Storefront.Proofs.Login
import Storefront.Proofs.Written
import Storefront.Proofs.Binding
import Storefront.Proofs.Items
import Storefront.Proofs.Asking
import Storefront.Proofs.Policy
import Storefront.Proofs.Conduct
import Storefront.Proofs.Compliance
import Storefront.Proofs.Openings
import Storefront.Proofs.Cancellation
import Storefront.Proofs.Sparing
import Storefront.Proofs.Outcomes
import Storefront.Proofs.Redirects
import Storefront.Proofs.Chain
import Storefront.Proofs.Tallies
import Storefront.Proofs.Requests
import Storefront.Proofs.Sent
import Storefront.Proofs.Propagation
import Storefront.Proofs.Plays
import Storefront.Proofs.Undisturbed
import Storefront.Proofs.CookieSources
import Storefront.Proofs.Isolation
import Storefront.Proofs.Concurrency
import Storefront.Proofs.Likeness
import Storefront.Proofs.LikeRequests
import Storefront.Proofs.LikeFlows
import Storefront.Proofs.LikeStarts
import Storefront.Proofs.LikeLoops
import Storefront.Proofs.LikeRuns
import Storefront.Proofs.Secrecy
import Storefront.Proofs.Announcements
import Storefront.Proofs.OneTimeTokens
import Storefront.Proofs.Answering
import Storefront.Proofs.Returns
import Storefront.Proofs.Classification
import Storefront.Proofs.Encodings
import Storefront.Proofs.Nesting
import Storefront.Proofs.Recovery
import Storefront.Proofs.Blanks
import Storefront.Proofs.Paths
import Storefront.Proofs.Readback
import Storefront.Proofs.Containment
import Storefront.Proofs.Overrides
import Storefront.Proofs.Unwritable
import Storefront.Proofs.Bodies
import Storefront.Proofs.Refusals
import Storefront.Proofs.Matching
import Storefront.Proofs.Leaves
import Storefront.Proofs.ErrorTexts
import Storefront.Proofs.BlankErrors
import Storefront.Proofs.Records
import Storefront.Proofs.Merging
import Storefront.Proofs.Moments
import Storefront.Proofs.Finite
import Storefront.Proofs.Reloading
import Storefront.Proofs.FaithfulFields
import Storefront.Proofs.Persistence
import Storefront.Proofs.Words
import Storefront.Proofs.Rereading
import Storefront.Proofs.Echoes
import Storefront.Proofs.OrderLists
import Storefront.Proofs.Models
import Storefront.Proofs.RecordBodies
import Storefront.Proofs.Insertions
import Storefront.Proofs.Outlines
import Storefront.Proofs.Tolerance
import Storefront.Proofs.NewMembers
import Storefront.Proofs.Setups
import Storefront.Proofs.ConsoleLevel
import Storefront.Proofs.LogFiles
import Storefront.Proofs.Hosts
import Storefront.Proofs.Custody
import Storefront.Proofs.OutcomeLines
import Storefront.Proofs.PasswordWrites
import Storefront.Proofs.LateCancels
import Storefront.Proofs.Advice
