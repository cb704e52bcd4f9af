import Gridded.Attributes
import Gridded.Axis.Array
import Gridded.Axis.Basic
import Gridded.Axis.Draft
import Gridded.Axis.Kind
import Gridded.Axis.Listing
import Gridded.Axis.Search
import Gridded.Axis.Selection
import Gridded.Axis.Subset
import Gridded.Axis.Timed
import Gridded.Axis.Word
import Gridded.Calendar.Date
import Gridded.Calendar.Instant
import Gridded.Calendar.Reader
import Gridded.Calendar.Scale
import Gridded.Closeness
import Gridded.Data.Dataset
import Gridded.Data.Sample
import Gridded.Data.Synthetic
import Gridded.Data.Tensor
import Gridded.Data.Variable
import Gridded.Decimal.Double
import Gridded.Decimal.Layout
import Gridded.Decimal.Numeral
import Gridded.Decimal.Shortest
import Gridded.Dictionary
import Gridded.Document
import Gridded.Document.Json
import Gridded.Error
import Gridded.Extent
import Gridded.Interval
import Gridded.Measure
import Gridded.Outcome
import Gridded.Proofs.Axis.Accessing
import Gridded.Proofs.Axis.Ascending
import Gridded.Proofs.Axis.Building
import Gridded.Proofs.Axis.Cells
import Gridded.Proofs.Axis.Dates
import Gridded.Proofs.Axis.Directions
import Gridded.Proofs.Axis.Extents
import Gridded.Proofs.Axis.Following
import Gridded.Proofs.Axis.Locating
import Gridded.Proofs.Axis.Missing
import Gridded.Proofs.Axis.Overflow
import Gridded.Proofs.Axis.Rebuilding
import Gridded.Proofs.Axis.Searching
import Gridded.Proofs.Axis.Single
import Gridded.Proofs.Axis.Taking
import Gridded.Proofs.Axis.Words
import Gridded.Proofs.Calendar.Days
import Gridded.Proofs.Calendar.Fields
import Gridded.Proofs.Calendar.Instants
import Gridded.Proofs.Calendar.Milliseconds
import Gridded.Proofs.Calendar.Scales
import Gridded.Proofs.Calendar.Zulu
import Gridded.Proofs.Checking
import Gridded.Proofs.Data.Fullness
import Gridded.Proofs.Data.Indexing
import Gridded.Proofs.Doubles
import Gridded.Proofs.Extremes
import Gridded.Proofs.Lookups
import Gridded.Proofs.Numbers
import Gridded.Proofs.Outcomes
import Gridded.Proofs.Rounding
import Gridded.Proofs.Slice.Association
import Gridded.Proofs.Slice.Composition
import Gridded.Proofs.Slice.Origins
import Gridded.Proofs.Slice.Overflow
import Gridded.Proofs.Slice.Views
import Gridded.Proofs.System.Acceptance
import Gridded.Proofs.System.Alignment
import Gridded.Proofs.System.Consistency
import Gridded.Proofs.System.Dependents
import Gridded.Proofs.System.Generations
import Gridded.Proofs.System.Joining
import Gridded.Proofs.System.Provenance
import Gridded.Proofs.System.Reordering
import Gridded.Proofs.System.Repeating
import Gridded.Proofs.System.Selecting
import Gridded.Proofs.System.Tracking
import Gridded.Proofs.System.Untouched
import Gridded.Proofs.System.Words
import Gridded.Proofs.Text.Lowercase
import Gridded.Proofs.Text.Readers
import Gridded.Proofs.Text.Words
import Gridded.Proofs.Tolerances
import Gridded.Proofs.Vertical.Answering
import Gridded.Proofs.Vertical.Bounds
import Gridded.Proofs.Vertical.Curves
import Gridded.Proofs.Vertical.Entries
import Gridded.Proofs.Vertical.Equations
import Gridded.Proofs.Vertical.Formulas
import Gridded.Proofs.Vertical.Grammar
import Gridded.Proofs.Vertical.Homogeneity
import Gridded.Proofs.Vertical.Joining
import Gridded.Proofs.Vertical.Locality
import Gridded.Proofs.Vertical.Making
import Gridded.Proofs.Vertical.Masking
import Gridded.Proofs.Vertical.Names
import Gridded.Proofs.Vertical.Nesting
import Gridded.Proofs.Vertical.Offsets
import Gridded.Proofs.Vertical.Profiles
import Gridded.Proofs.Vertical.ReadErrors
import Gridded.Proofs.Vertical.Reexpressing
import Gridded.Proofs.Vertical.Revaluing
import Gridded.Proofs.Vertical.Shapes
import Gridded.Proofs.Vertical.Terms
import Gridded.Proofs.Vertical.Units
import Gridded.Proofs.Vertical.WaterColumns
import Gridded.Proofs.Vertical.Windows
import Gridded.Proofs.Vertical.Words
import Gridded.Scalar
import Gridded.Slice
import Gridded.Slice.Basic
import Gridded.Slice.Word
import Gridded.System.Basic
import Gridded.System.Horizontal
import Gridded.System.Subset
import Gridded.System.Word
import Gridded.Text.Blank
import Gridded.Text.CaseTable
import Gridded.Text.EscapeTable
import Gridded.Text.Listing
import Gridded.Text.Lowercase
import Gridded.Text.Quoted
import Gridded.Vertical.Catalog
import Gridded.Vertical.Column
import Gridded.Vertical.Formula
import Gridded.Vertical.FormulaTerms
import Gridded.Vertical.Recipe
import Gridded.Vertical.Settings
import Gridded.Vertical.Source
import Gridded.Vertical.Transform
import Gridded.Vertical.Word
