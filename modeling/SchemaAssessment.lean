import SchemaAssessment.Assessment.Attributes
import SchemaAssessment.Assessment.Configuration
import SchemaAssessment.Assessment.Delivery
import SchemaAssessment.Assessment.Diagnostic
import SchemaAssessment.Assessment.Finish
import SchemaAssessment.Assessment.Frame
import SchemaAssessment.Assessment.Identifiers
import SchemaAssessment.Assessment.Run
import SchemaAssessment.Assessment.Start
import SchemaAssessment.Assessment.Validator
import SchemaAssessment.Command.Arguments
import SchemaAssessment.Command.Basic
import SchemaAssessment.Command.Form
import SchemaAssessment.Command.Report
import SchemaAssessment.Command.Survey
import SchemaAssessment.Content.Expression
import SchemaAssessment.Content.Model
import SchemaAssessment.Failure
import SchemaAssessment.Grammar.Basic
import SchemaAssessment.Grammar.Registry
import SchemaAssessment.Identity.Compile
import SchemaAssessment.Identity.Engine
import SchemaAssessment.Identity.Store
import SchemaAssessment.Json.Basic
import SchemaAssessment.Json.Component
import SchemaAssessment.Json.Printer
import SchemaAssessment.Json.Reader
import SchemaAssessment.Main
import SchemaAssessment.Markup.Event
import SchemaAssessment.Markup.Fault
import SchemaAssessment.Markup.Reader
import SchemaAssessment.Markup.Reference
import SchemaAssessment.Markup.Tag
import SchemaAssessment.Markup.Token
import SchemaAssessment.Name.Expanded
import SchemaAssessment.Name.Lexical
import SchemaAssessment.Name.Scope
import SchemaAssessment.Number.Binary
import SchemaAssessment.Number.Bytes
import SchemaAssessment.Number.Decimal
import SchemaAssessment.Number.Digits
import SchemaAssessment.Number.Shortest
import SchemaAssessment.Path.Basic
import SchemaAssessment.Path.Matcher
import SchemaAssessment.Path.Reader
import SchemaAssessment.Regex.Class
import SchemaAssessment.Regex.Flags
import SchemaAssessment.Regex.Lexer
import SchemaAssessment.Regex.Match
import SchemaAssessment.Regex.Pattern
import SchemaAssessment.Regex.Reader
import SchemaAssessment.Regex.Size
import SchemaAssessment.Resource.FileTree
import SchemaAssessment.Resource.Limits
import SchemaAssessment.Resource.Loader
import SchemaAssessment.Resource.Location
import SchemaAssessment.Schema.Attribute
import SchemaAssessment.Schema.Component
import SchemaAssessment.Schema.Decoding
import SchemaAssessment.Schema.Derivation
import SchemaAssessment.Schema.Encoding
import SchemaAssessment.Schema.Group
import SchemaAssessment.Schema.Identity
import SchemaAssessment.Schema.Occurs
import SchemaAssessment.Schema.Wildcard
import SchemaAssessment.SimpleType.Basic
import SchemaAssessment.SimpleType.Facet
import SchemaAssessment.Text.Blank
import SchemaAssessment.Text.Digit
import SchemaAssessment.Text.Lossy
import SchemaAssessment.Text.Quoted
import SchemaAssessment.Time.Calendar
import SchemaAssessment.Time.Lexical
import SchemaAssessment.Time.Moment
import SchemaAssessment.Unicode.Addition
import SchemaAssessment.Unicode.Age
import SchemaAssessment.Unicode.Binary
import SchemaAssessment.Unicode.Break
import SchemaAssessment.Unicode.Category
import SchemaAssessment.Unicode.CodeMap
import SchemaAssessment.Unicode.CodeSet
import SchemaAssessment.Unicode.Direction
import SchemaAssessment.Unicode.Folding
import SchemaAssessment.Unicode.Normal
import SchemaAssessment.Unicode.Property
import SchemaAssessment.Unicode.Script
import SchemaAssessment.Url.Address
import SchemaAssessment.Url.Authority
import SchemaAssessment.Url.Basic
import SchemaAssessment.Url.Domain
import SchemaAssessment.Url.Mapping
import SchemaAssessment.Url.Path
import SchemaAssessment.Url.Punycode
import SchemaAssessment.Url.Reader
import SchemaAssessment.Value.Basic
import SchemaAssessment.Value.Datatype
import SchemaAssessment.Value.Fault
import SchemaAssessment.Value.Lexical
import SchemaAssessment.Value.WhiteSpace
import SchemaAssessment.Proofs.Assessment.Afresh
import SchemaAssessment.Proofs.Assessment.AttributeFindings
import SchemaAssessment.Proofs.Assessment.AttributeOrder
import SchemaAssessment.Proofs.Assessment.AttributeVerdict
import SchemaAssessment.Proofs.Assessment.Bindings
import SchemaAssessment.Proofs.Assessment.Containment
import SchemaAssessment.Proofs.Assessment.ContentVerdict
import SchemaAssessment.Proofs.Assessment.Defaults
import SchemaAssessment.Proofs.Assessment.Findings
import SchemaAssessment.Proofs.Assessment.FixedValues
import SchemaAssessment.Proofs.Assessment.Governing
import SchemaAssessment.Proofs.Assessment.Hints
import SchemaAssessment.Proofs.Assessment.Identification
import SchemaAssessment.Proofs.Assessment.InStep
import SchemaAssessment.Proofs.Assessment.Nested
import SchemaAssessment.Proofs.Assessment.Nesting
import SchemaAssessment.Proofs.Assessment.Phrasing
import SchemaAssessment.Proofs.Assessment.Quiet
import SchemaAssessment.Proofs.Assessment.Reachable
import SchemaAssessment.Proofs.Assessment.References
import SchemaAssessment.Proofs.Assessment.Repetition
import SchemaAssessment.Proofs.Assessment.Respelling
import SchemaAssessment.Proofs.Assessment.Restoration
import SchemaAssessment.Proofs.Assessment.Rules
import SchemaAssessment.Proofs.Assessment.Shown
import SchemaAssessment.Proofs.Assessment.Sources
import SchemaAssessment.Proofs.Assessment.Spelling
import SchemaAssessment.Proofs.Assessment.Steps
import SchemaAssessment.Proofs.Assessment.Stretch
import SchemaAssessment.Proofs.Assessment.Supplies
import SchemaAssessment.Proofs.Assessment.Switches
import SchemaAssessment.Proofs.Assessment.Transparency
import SchemaAssessment.Proofs.Assessment.Tuples
import SchemaAssessment.Proofs.Assessment.Values
import SchemaAssessment.Proofs.Content.Absence
import SchemaAssessment.Proofs.Content.Counting
import SchemaAssessment.Proofs.Content.Exactness
import SchemaAssessment.Proofs.Content.Foresight
import SchemaAssessment.Proofs.Content.Language
import SchemaAssessment.Proofs.Content.Omission
import SchemaAssessment.Proofs.Content.Places
import SchemaAssessment.Proofs.Sequences
import SchemaAssessment.Proofs.Faults
import SchemaAssessment.Proofs.Grammar.Derivation
import SchemaAssessment.Proofs.Grammar.Registered
import SchemaAssessment.Proofs.Grammar.SimpleTypes
import SchemaAssessment.Proofs.Grammar.Substitution
import SchemaAssessment.Proofs.Identity.Bearer
import SchemaAssessment.Proofs.Identity.Nested
import SchemaAssessment.Proofs.Identity.OpenElements
import SchemaAssessment.Proofs.Identity.Operations
import SchemaAssessment.Proofs.Identity.Progress
import SchemaAssessment.Proofs.Identity.References
import SchemaAssessment.Proofs.Identity.Reports
import SchemaAssessment.Proofs.Identity.Selected
import SchemaAssessment.Proofs.Identity.Sightings
import SchemaAssessment.Proofs.Identity.Table
import SchemaAssessment.Proofs.Identity.Tags
import SchemaAssessment.Proofs.Identity.Tree
import SchemaAssessment.Proofs.Identity.Tuples
import SchemaAssessment.Proofs.Identity.Verdict
import SchemaAssessment.Proofs.Identity.Wording
import SchemaAssessment.Proofs.Json.Records
import SchemaAssessment.Proofs.Markup.Brackets
import SchemaAssessment.Proofs.Markup.Prefixes
import SchemaAssessment.Proofs.Markup.Roots
import SchemaAssessment.Proofs.Number.Decimals
import SchemaAssessment.Proofs.Number.Figures
import SchemaAssessment.Proofs.Path.Notation
import SchemaAssessment.Proofs.Path.Reading
import SchemaAssessment.Proofs.Path.Selection
import SchemaAssessment.Proofs.Path.Trees
import SchemaAssessment.Proofs.Schema.ReadBack
import SchemaAssessment.Proofs.Schema.Regular
import SchemaAssessment.Proofs.Schema.RoundTrip
import SchemaAssessment.Proofs.Schema.Uses
import SchemaAssessment.Proofs.Text.Pieces
import SchemaAssessment.Proofs.Time.Days
import SchemaAssessment.Proofs.Time.Forms
import SchemaAssessment.Proofs.Time.Instants
import SchemaAssessment.Proofs.Time.Ranges
import SchemaAssessment.Proofs.Time.Reading
import SchemaAssessment.Proofs.Time.Texts
import SchemaAssessment.Proofs.Time.Years
import SchemaAssessment.Proofs.Value.Bounds
import SchemaAssessment.Proofs.Value.Derivation
import SchemaAssessment.Proofs.Value.Printing
import SchemaAssessment.Proofs.Value.Sameness
import SchemaAssessment.Proofs.Value.WhiteSpace
import SchemaAssessment.Proofs.Value.Words
import SchemaAssessment.Proofs.Number.Numerals
import SchemaAssessment.Proofs.Value.Digits
import SchemaAssessment.Proofs.Identity.TupleSets
import SchemaAssessment.Proofs.Value.Hexadecimal
import SchemaAssessment.Proofs.Identity.Bookkeeping
import SchemaAssessment.Proofs.Value.NormalForms
