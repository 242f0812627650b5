import FormEngine.Clock.Time
import FormEngine.Clock.Timers
import FormEngine.Condition
import FormEngine.Dependency
import FormEngine.Event
import FormEngine.Fault
import FormEngine.Form.Agenda
import FormEngine.Form.Check
import FormEngine.Form.Edit
import FormEngine.Form.Run
import FormEngine.Form.Session
import FormEngine.Form.State
import FormEngine.Form.Work
import FormEngine.Host.Basic
import FormEngine.Host.Construct
import FormEngine.Host.Script
import FormEngine.Input.Email
import FormEngine.Input.Number
import FormEngine.Input.Password
import FormEngine.Logging
import FormEngine.Number.Binary64
import FormEngine.Number.Shortest
import FormEngine.Number.Word
import FormEngine.Options.Address
import FormEngine.Options.Loader
import FormEngine.Options.Request
import FormEngine.Options.Transport
import FormEngine.Parsed
import FormEngine.Pattern.Basic
import FormEngine.Pattern.Reader
import FormEngine.Pattern.Search
import FormEngine.Pattern.Token
import FormEngine.Proofs.Clock.Time
import FormEngine.Proofs.Condition.Comparison
import FormEngine.Proofs.Condition.Footprint
import FormEngine.Proofs.Except
import FormEngine.Proofs.Form.Combination
import FormEngine.Proofs.Form.Complaints
import FormEngine.Proofs.Form.Exchange
import FormEngine.Proofs.Form.Excuse
import FormEngine.Proofs.Form.Faults
import FormEngine.Proofs.Form.Frame
import FormEngine.Proofs.Form.Fresh
import FormEngine.Proofs.Form.History
import FormEngine.Proofs.Form.Silence
import FormEngine.Proofs.Form.Twin
import FormEngine.Proofs.Form.Visibility
import FormEngine.Proofs.Input.Address
import FormEngine.Proofs.Input.Entry
import FormEngine.Proofs.Input.Number
import FormEngine.Proofs.Input.Step
import FormEngine.Proofs.Input.Suggestion
import FormEngine.Proofs.Number.Arithmetic
import FormEngine.Proofs.Number.Comparison
import FormEngine.Proofs.Number.Exact
import FormEngine.Proofs.Number.Range
import FormEngine.Proofs.Options.Cache
import FormEngine.Proofs.Options.Overlap
import FormEngine.Proofs.Options.Retry
import FormEngine.Proofs.Options.Source
import FormEngine.Proofs.Options.Specimen
import FormEngine.Proofs.Pattern.Language
import FormEngine.Proofs.Pattern.Search
import FormEngine.Proofs.Render.Containment
import FormEngine.Proofs.Render.Registry
import FormEngine.Proofs.Rule.Address
import FormEngine.Proofs.Rule.Limits
import FormEngine.Proofs.Rule.Making
import FormEngine.Proofs.Rule.Presence
import FormEngine.Proofs.Rule.Wording
import FormEngine.Proofs.Schema.Acceptance
import FormEngine.Proofs.Schema.Closure
import FormEngine.Proofs.Schema.Coherence
import FormEngine.Proofs.Schema.Cycles
import FormEngine.Proofs.Schema.Dependents
import FormEngine.Proofs.Schema.Indifference
import FormEngine.Proofs.Schema.Isolation
import FormEngine.Proofs.Schema.Loading
import FormEngine.Proofs.Schema.Parsing
import FormEngine.Proofs.Schema.Repeats
import FormEngine.Proofs.Schema.Respelling
import FormEngine.Proofs.Schema.Reversal
import FormEngine.Proofs.Schema.Search
import FormEngine.Proofs.Schema.Sources
import FormEngine.Proofs.Schema.Specimen
import FormEngine.Proofs.Schema.Spelling
import FormEngine.Proofs.Session.Agreement
import FormEngine.Proofs.Session.Batch
import FormEngine.Proofs.Session.Display
import FormEngine.Proofs.Session.Errands
import FormEngine.Proofs.Session.Escape
import FormEngine.Proofs.Session.Exclusion
import FormEngine.Proofs.Session.Failures
import FormEngine.Proofs.Session.Findings
import FormEngine.Proofs.Session.Freshness
import FormEngine.Proofs.Session.Handover
import FormEngine.Proofs.Session.Hiding
import FormEngine.Proofs.Session.Independence
import FormEngine.Proofs.Session.Inquiry
import FormEngine.Proofs.Session.Integrity
import FormEngine.Proofs.Session.Law
import FormEngine.Proofs.Session.Lifecycle
import FormEngine.Proofs.Session.LightCheck
import FormEngine.Proofs.Session.Lockstep
import FormEngine.Proofs.Session.Optimism
import FormEngine.Proofs.Session.Reach
import FormEngine.Proofs.Session.Renewal
import FormEngine.Proofs.Session.Replacement
import FormEngine.Proofs.Session.Repose
import FormEngine.Proofs.Session.Restore
import FormEngine.Proofs.Session.Shift
import FormEngine.Proofs.Session.Specimen
import FormEngine.Proofs.Session.Submission
import FormEngine.Proofs.Session.Supersession
import FormEngine.Proofs.Session.Tasks
import FormEngine.Proofs.Session.Twin
import FormEngine.Proofs.Session.Upkeep
import FormEngine.Proofs.Session.Validation
import FormEngine.Proofs.Session.Verdict
import FormEngine.Proofs.Store.Delivery
import FormEngine.Proofs.Store.History
import FormEngine.Proofs.Store.Subscription
import FormEngine.Proofs.Table
import FormEngine.Proofs.Text.Blank
import FormEngine.Proofs.Text.Case
import FormEngine.Proofs.Text.Numeral
import FormEngine.Proofs.Value.Order
import FormEngine.Proofs.Value.Record
import FormEngine.Render.Component
import FormEngine.Render.Node
import FormEngine.Render.Registry
import FormEngine.Render.Renderer
import FormEngine.Render.Script
import FormEngine.Rule.Basic
import FormEngine.Rule.Calendar
import FormEngine.Rule.Compile
import FormEngine.Rule.Datatype
import FormEngine.Rule.Email
import FormEngine.Rule.Explicit
import FormEngine.Rule.Temporal
import FormEngine.Rule.TypeText
import FormEngine.Schema.Checked
import FormEngine.Schema.Document
import FormEngine.Schema.FieldType
import FormEngine.Schema.Load
import FormEngine.Schema.Model
import FormEngine.Schema.Operator
import FormEngine.Schema.Scalar
import FormEngine.Schema.Wellformed
import FormEngine.Settings
import FormEngine.Store.Bridge
import FormEngine.Store.Observable
import FormEngine.Table
import FormEngine.Text.Blank
import FormEngine.Text.Case
import FormEngine.Text.CharacterName
import FormEngine.Text.Digit
import FormEngine.Text.DomainName
import FormEngine.Text.Encoding
import FormEngine.Text.Folding
import FormEngine.Text.Identifier
import FormEngine.Text.Letter
import FormEngine.Text.Numeral
import FormEngine.Text.Percent
import FormEngine.Text.Printable
import FormEngine.Text.Punycode
import FormEngine.Text.Ranges
import FormEngine.Text.Utf8
import FormEngine.Value.Basic
import FormEngine.Value.Display
import FormEngine.Value.Equality
import FormEngine.Value.Json
import FormEngine.Value.Order
