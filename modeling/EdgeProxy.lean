import EdgeProxy.Certificate.Basic
import EdgeProxy.Certificate.Der
import EdgeProxy.Certificate.Report
import EdgeProxy.Certificate.Status
import EdgeProxy.Change.Application
import EdgeProxy.Change.Edit
import EdgeProxy.Change.Environment
import EdgeProxy.Change.Host
import EdgeProxy.Change.Provider
import EdgeProxy.Command.Basic
import EdgeProxy.Command.Form
import EdgeProxy.Command.Help
import EdgeProxy.Command.Parse
import EdgeProxy.Command.Print
import EdgeProxy.Command.Run
import EdgeProxy.Command.Switch
import EdgeProxy.Fault
import EdgeProxy.File.Path
import EdgeProxy.File.Tree
import EdgeProxy.Hostname.Label
import EdgeProxy.Json.Basic
import EdgeProxy.Json.Reader
import EdgeProxy.Json.Nesting
import EdgeProxy.Json.Writer
import EdgeProxy.Logging.Setup
import EdgeProxy.Main
import EdgeProxy.Number.Binary64
import EdgeProxy.Number.Shortest
import EdgeProxy.Operation.Answer
import EdgeProxy.Operation.Commit
import EdgeProxy.Operation.Run
import EdgeProxy.Operation.World
import EdgeProxy.Proofs.Change.Edit
import EdgeProxy.Proofs.Change.Faults
import EdgeProxy.Proofs.Change.Identifiers
import EdgeProxy.Proofs.Change.Keeping
import EdgeProxy.Proofs.Edge.Compile
import EdgeProxy.Proofs.Edge.Declared
import EdgeProxy.Proofs.Edge.Handler
import EdgeProxy.Proofs.Edge.Range
import EdgeProxy.Proofs.Edge.Serve
import EdgeProxy.Proofs.File.Replace
import EdgeProxy.Proofs.Hostname.Label
import EdgeProxy.Proofs.Json.Distinct
import EdgeProxy.Proofs.Json.Fields
import EdgeProxy.Proofs.Json.Finite
import EdgeProxy.Proofs.Json.Numeral
import EdgeProxy.Proofs.Json.Nesting
import EdgeProxy.Proofs.Json.Quotation
import EdgeProxy.Proofs.Json.RoundTrip
import EdgeProxy.Proofs.Json.Writable
import EdgeProxy.Proofs.Number.Rounding
import EdgeProxy.Proofs.Number.Shortest
import EdgeProxy.Proofs.Operation.Admitted
import EdgeProxy.Proofs.Operation.Answered
import EdgeProxy.Proofs.Operation.Apply
import EdgeProxy.Proofs.Operation.BaseDomain
import EdgeProxy.Proofs.Operation.Change
import EdgeProxy.Proofs.Operation.Changes
import EdgeProxy.Proofs.Operation.Coverage
import EdgeProxy.Proofs.Operation.Entities
import EdgeProxy.Proofs.Operation.Faults
import EdgeProxy.Proofs.Operation.History
import EdgeProxy.Proofs.Operation.Identifiers
import EdgeProxy.Proofs.Operation.Live
import EdgeProxy.Proofs.Operation.Names
import EdgeProxy.Proofs.Operation.Obtained
import EdgeProxy.Proofs.Operation.Once
import EdgeProxy.Proofs.Operation.Outcome
import EdgeProxy.Proofs.Operation.Patterns
import EdgeProxy.Proofs.Operation.References
import EdgeProxy.Proofs.Operation.Reported
import EdgeProxy.Proofs.Operation.RuleIds
import EdgeProxy.Proofs.Operation.Stable
import EdgeProxy.Proofs.Operation.Token
import EdgeProxy.Proofs.Operation.Valid
import EdgeProxy.Proofs.Proxy.Address
import EdgeProxy.Proofs.Registry.Decoded
import EdgeProxy.Proofs.Registry.Field
import EdgeProxy.Proofs.Registry.Layout
import EdgeProxy.Proofs.Registry.Mark
import EdgeProxy.Proofs.Registry.Migration
import EdgeProxy.Proofs.Registry.Outline
import EdgeProxy.Proofs.Registry.Patterns
import EdgeProxy.Proofs.Registry.References
import EdgeProxy.Proofs.Registry.RoundTrip
import EdgeProxy.Proofs.Registry.Shape
import EdgeProxy.Proofs.Registry.Stems
import EdgeProxy.Proofs.Registry.Steps
import EdgeProxy.Proofs.Registry.Supply
import EdgeProxy.Proofs.Registry.Targets
import EdgeProxy.Proofs.Registry.Unknown
import EdgeProxy.Proofs.Registry.Validity
import EdgeProxy.Proofs.Registry.WellFormed
import EdgeProxy.Proofs.Registry.Writable
import EdgeProxy.Proofs.Request.Faults
import EdgeProxy.Proofs.Request.Names
import EdgeProxy.Proofs.Result
import EdgeProxy.Proofs.Route.RuleId
import EdgeProxy.Proofs.Route.Stored
import EdgeProxy.Proofs.Store.Clients
import EdgeProxy.Proofs.Store.Legible
import EdgeProxy.Proofs.Store.Load
import EdgeProxy.Proofs.Store.RoundTrip
import EdgeProxy.Proofs.Store.Save
import EdgeProxy.Proofs.Text.Decimal
import EdgeProxy.Proofs.Text.Utf8
import EdgeProxy.Proxy.Address
import EdgeProxy.Proxy.Control
import EdgeProxy.Proxy.Exchange
import EdgeProxy.Registry.Basic
import EdgeProxy.Registry.Decode
import EdgeProxy.Registry.Encode
import EdgeProxy.Registry.Issue
import EdgeProxy.Registry.Migration
import EdgeProxy.Registry.Scalar
import EdgeProxy.Registry.Supply
import EdgeProxy.Registry.Target
import EdgeProxy.Registry.Validity
import EdgeProxy.Report.Check
import EdgeProxy.Report.Health
import EdgeProxy.Request.Field
import EdgeProxy.Request.Payload
import EdgeProxy.Request.Rejection
import EdgeProxy.Rest.Resource
import EdgeProxy.Rest.Serve
import EdgeProxy.Route.Basic
import EdgeProxy.Route.Config
import EdgeProxy.Route.Handler
import EdgeProxy.Route.Login
import EdgeProxy.Route.Tls
import EdgeProxy.Settings.Basic
import EdgeProxy.Settings.Decode
import EdgeProxy.Settings.Load
import EdgeProxy.Settings.Locate
import EdgeProxy.Store.Error
import EdgeProxy.Store.File
import EdgeProxy.Text.Blank
import EdgeProxy.Text.CaseTable
import EdgeProxy.Text.Control
import EdgeProxy.Text.Digit
import EdgeProxy.Text.LowerCase
import EdgeProxy.Text.Numeral
import EdgeProxy.Text.Percent
import EdgeProxy.Text.Printable
import EdgeProxy.Text.Quoted
import EdgeProxy.Text.Search
import EdgeProxy.Text.Utf8
import EdgeProxy.Time.Instant
import EdgeProxy.Yaml.Construct
import EdgeProxy.Yaml.Cursor
import EdgeProxy.Yaml.Reader
import EdgeProxy.Yaml.Scalar
import EdgeProxy.Yaml.Value
import EdgeProxy.Proofs.Store.Race
import EdgeProxy.Proofs.Hostname.Grammar
import EdgeProxy.Proofs.Operation.Hostnames
import EdgeProxy.Proofs.Operation.Toggle
import EdgeProxy.Proofs.Change.Frame
import EdgeProxy.Proofs.Store.Identified
import EdgeProxy.Proofs.Operation.Frame
import EdgeProxy.Proofs.Keys
import EdgeProxy.Proofs.Text.Trimmed
import EdgeProxy.Proofs.Request.Reread
import EdgeProxy.Proofs.Change.Again
import EdgeProxy.Proofs.File.Again
import EdgeProxy.Proofs.Operation.Unchanged
import EdgeProxy.Proofs.Operation.Undone
import EdgeProxy.Proofs.Operation.Again
import EdgeProxy.Proofs.Operation.Plain
import EdgeProxy.Proofs.Operation.Reread
import EdgeProxy.Proofs.Route.Reading
import EdgeProxy.Proofs.Route.Places
import EdgeProxy.Proofs.Proxy.Lost
import EdgeProxy.Proofs.Proxy.Wire
import EdgeProxy.Proofs.Operation.Converged
import EdgeProxy.Proofs.Operation.Strategy
import EdgeProxy.Proofs.Store.Lone
import EdgeProxy.Proofs.Certificate.Pool
import EdgeProxy.Proofs.Certificate.Report
import EdgeProxy.Proofs.Hostname.Productions
import EdgeProxy.Proofs.Request.Accepted
import EdgeProxy.Proofs.Store.Held
import EdgeProxy.Proofs.Registry.Documented
import EdgeProxy.Proofs.Request.Targets
import EdgeProxy.Proofs.Operation.Dialable
import EdgeProxy.Proofs.Text.Percent
import EdgeProxy.Proofs.Text.Query
import EdgeProxy.Proofs.Route.Login
import EdgeProxy.Proofs.Registry.Collisions
import EdgeProxy.Proofs.Yaml.Pairs
import EdgeProxy.Proofs.Settings.Legible
import EdgeProxy.Proofs.Request.Merge
