import Stencil.Text.Class
import Stencil.Text.CaseTable
import Stencil.Text.Cased
import Stencil.Text.ColumnTable
import Stencil.Text.Search
import Stencil.Text.Markup
import Stencil.Text.Quoted
import Stencil.Span
import Stencil.Text.Lowercase
import Stencil.Text.Columns
import Stencil.Text.Wrap
import Stencil.Decimal.Layout
import Stencil.Decimal.Reader
import Stencil.Value
import Stencil.Template
import Stencil.Rendering
import Stencil.Fixture.Filters
import Stencil.Fixture.Article
import Stencil.Report
import Stencil.Json.Reader
import Stencil.Toml.Reader
import Stencil.Log.Filter
import Stencil.Settings.Decode
import Stencil.Engine
import Stencil.Conversion
import Stencil.Fixture.Probe
import Stencil.Proofs.Placement
import Stencil.Proofs.TagMatch
import Stencil.Proofs.Tiling
import Stencil.Proofs.Acceptance
import Stencil.Proofs.Location
import Stencil.Proofs.SpanFidelity
import Stencil.Proofs.Scoping
import Stencil.Proofs.Operands
import Stencil.Proofs.Traversal
import Stencil.Proofs.Indices
import Stencil.Proofs.Failure
import Stencil.Proofs.Blame
import Stencil.Proofs.Escaping
import Stencil.Proofs.Entities
import Stencil.Proofs.Lines
import Stencil.Proofs.Windows
import Stencil.Proofs.Excerpts
import Stencil.Proofs.Wrapping
import Stencil.Proofs.Headers
import Stencil.Proofs.Rows
import Stencil.Proofs.Reports
import Stencil.Proofs.Labels
import Stencil.Proofs.LocatedReports
import Stencil.Proofs.OperandOrder
import Stencil.Proofs.Leniency
import Stencil.Proofs.Lookups
import Stencil.Proofs.Privacy
import Stencil.Proofs.Accessors
import Stencil.Proofs.Steps
import Stencil.Proofs.Shift
import Stencil.Proofs.ShiftedRender
import Stencil.Proofs.Prelude
import Stencil.Proofs.ScopeStack
import Stencil.Proofs.ContextReads
import Stencil.Proofs.Quotation
import Stencil.Proofs.Numerals
import Stencil.Proofs.FilterChains
import Stencil.Proofs.TextListings
import Stencil.Proofs.ValueListings
import Stencil.Proofs.ShortestDigits
import Stencil.Proofs.DecimalTexts
import Stencil.Proofs.TagWords
import Stencil.Proofs.Equality
import Stencil.Proofs.NumberLiterals
import Stencil.Proofs.NumberEquality
import Stencil.Proofs.Addresses
import Stencil.Proofs.Products
import Stencil.Proofs.Repetition
import Stencil.Proofs.Documents
import Stencil.Proofs.Configuration
