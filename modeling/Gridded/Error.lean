import Gridded.Axis.Kind
import Gridded.Slice.Basic
import Gridded.Text.Listing

/-!
# Errors

What can go wrong, by cause. A cause carries what the message has to name.

* `Error`: the errors, grouped as the callers tell them apart;
* `Error.name`, `Error.message`: the name and the wording;
* `Error.category`: the broad classes of errors.

A cause `stated` is an error that a caller puts into its own words.
-/

namespace Gridded

/-- Why a slice is refused. -/
inductive RangeFault
  | lastBeforeFirst (last first : Nat)
  | zeroStride
  | beyondParent (sub : Slice) (length : Nat)
  | beyondDimension (slice : Slice) (length : Nat)
  | emptySubset (axis : String)
  | wrongLength (slice : Slice) (axis : String) (count : Nat)
  | stated (text : String)
  deriving DecidableEq, Repr

/-- Why an argument is refused. -/
inductive ArgumentFault
  | noSpacing (axis : String)
  | untypedIndependent (axis : String)
  | dependentWithoutParents (axis : String)
  | noCoordinates (axis : String)
  | scalarCount (axis : String) (count : Nat)
  | regularWithValues (axis : String)
  | regularNotFinite (axis : String)
  | noValues (spacing : Spacing) (axis : String)
  | searchForNaN (axis : String)
  | searchForInterval (axis interval : String)
  | notDependentOn (axis parent : String)
  | notTimeAxis (axis : String) (kind : AxisKind)
  | wrongRole (axis : String) (kind : Option AxisKind) (role : Role)
  | duplicateName (axis : String)
  | sharedRole (first second : String) (role : Role)
  | undatedRole (role : Role) (axis : String)
  | unknownParent (axis parent : String)
  | noAxis (role : Role)
  | dimensionNames (var : String) (names rank : Nat)
  | scalarVariable (var : String)
  | noVariable (name : String)
  | unequalTimes (transform term : String) (found expected : Nat)
  | noFields
  | variableWithoutTerm (text var : String)
  | emptyTerm (text : String)
  | termWithoutVariable (text term : String)
  | notPressureUnit (unit : String)
  | stated (text : String)
  deriving DecidableEq, Repr

/-- Why a request does not fit what it is addressed to. -/
inductive StateFault
  | horizontalAxis (axis : String) (kind : AxisKind)
  | emptyAxis (axis : String)
  | stated (text : String)
  deriving DecidableEq, Repr

/-- Why a time cannot be read. -/
inductive TimeFault
  | notDateUnit (text : String)
  | unknownPeriod (text : String)
  | axisWithoutUnits (axis : String)
  | stated (text : String)
  deriving DecidableEq, Repr

/-- Why no vertical transform is known for a coordinate. -/
inductive NamingFault
  | unnamed (coordinate : String)
  | stated (name : String)
  deriving DecidableEq, Repr

/-- What can go wrong. -/
inductive Error
  | indexOutOfRange (index length : Nat)
  | invalidArgument (fault : ArgumentFault)
  | invalidRange (fault : RangeFault)
  | shapeMismatch (name : String) (expected found : List Nat)
  | invalidState (fault : StateFault)
  | missingTerm (transform term : String)
  | unresolvedTerm (transform term var : String)
  | unknownTransform (fault : NamingFault)
  | invalidTimeIndex (index times : Nat)
  | invalidTime (fault : TimeFault)
  | read (text : String)
  deriving DecidableEq, Repr

/-- Broad classes of errors. -/
inductive ErrorCategory
  | invalidArgument | invalidState | unresolvableFormula | read
  deriving DecidableEq, Repr

/-- The name of a class of errors. -/
def ErrorCategory.name : ErrorCategory → String
  | invalidArgument => "InvalidArgument"
  | invalidState => "InvalidState"
  | unresolvableFormula => "UnresolvableFormula"
  | read => "Read"

/-- The wording for a slice that reaches beyond the one it is taken from. -/
def RangeFault.beyondParentText (written : String) (length : Nat) : String :=
  s!"subset range {written} exceeds parent length {length}"

/-- The wording for a slice that reaches beyond a dimension. -/
def RangeFault.beyondDimensionText (written : String) (length : Nat) : String :=
  s!"range {written} exceeds dimension length {length}"

/-- The wording for a range that does not have an index for each coordinate. -/
def RangeFault.wrongLengthText (written axis : String) (count : Nat) : String :=
  s!"range {written} of axis '{axis}' does not match {count} coordinates"

/-- The wording of a refused slice. -/
def RangeFault.message : RangeFault → String
  | lastBeforeFirst last first => s!"last ({last}) must be >= first ({first})"
  | zeroStride => "stride must be > 0"
  | beyondParent sub length => beyondParentText sub.text length
  | beyondDimension slice length => beyondDimensionText slice.text length
  | emptySubset axis => s!"empty subset range for axis '{axis}'"
  | wrongLength slice axis count => wrongLengthText slice.text axis count
  | stated text => text

/-- The wording of a refused argument. -/
def ArgumentFault.message : ArgumentFault → String
  | noSpacing axis => s!"axis '{axis}' has no spacing"
  | untypedIndependent axis => s!"independent axis '{axis}' must have an axis type"
  | dependentWithoutParents axis => s!"dependent axis '{axis}' must name the axes it depends on"
  | noCoordinates axis => s!"axis '{axis}' must have at least one coordinate"
  | scalarCount axis count => s!"scalar axis '{axis}' has {count} coordinates"
  | regularWithValues axis => s!"regular axis '{axis}' must not have values"
  | regularNotFinite axis => s!"regular axis '{axis}' needs a finite start and resolution"
  | noValues spacing axis => s!"{spacing.name} axis '{axis}' has no values"
  | searchForNaN axis => s!"cannot search axis '{axis}' for NaN"
  | searchForInterval axis interval => s!"cannot search axis '{axis}' for interval {interval}"
  | notDependentOn axis parent => s!"axis '{axis}' does not depend on '{parent}'"
  | notTimeAxis axis kind => s!"axis '{axis}' of type {kind.name} is not a time axis"
  | wrongRole axis kind role =>
    s!"axis '{axis}' of type {Listing.optional AxisKind.name kind} cannot be the {role.name} axis"
  | duplicateName axis => s!"duplicate axis name '{axis}'"
  | sharedRole first second role => s!"axes '{first}' and '{second}' both have the {role.name} role"
  | undatedRole role axis => s!"{role.name} axis '{axis}' has no calendar date unit"
  | unknownParent axis parent => s!"axis '{axis}' depends on unknown axis '{parent}'"
  | noAxis role => s!"no {role.name} axis"
  | dimensionNames var names rank =>
    s!"variable '{var}' has {names} dimension names for a rank {rank} shape"
  | scalarVariable var => s!"variable '{var}' is a scalar and has no time dimension"
  | noVariable name => s!"no variable named '{name}'"
  | unequalTimes transform term found expected =>
    s!"{transform}: term '{term}' has {found} time steps, expected {expected}"
  | noFields => "no horizontal field terms"
  | variableWithoutTerm text var => s!"formula_terms '{text}': variable '{var}' has no term"
  | emptyTerm text => s!"formula_terms '{text}': empty term name"
  | termWithoutVariable text term => s!"formula_terms '{text}': term '{term}' has no variable"
  | notPressureUnit unit => s!"output_pressure_unit '{unit}' is not a pressure unit"
  | stated text => text

/-- The wording of a request that does not fit. -/
def StateFault.message : StateFault → String
  | horizontalAxis axis kind =>
    s!"horizontal axis '{axis}' ({kind.name}) must be subset through its horizontal coordinate system"
  | emptyAxis axis => s!"axis '{axis}' has no coordinates"
  | stated text => text

/-- The wording of an unreadable time. -/
def TimeFault.message : TimeFault → String
  | notDateUnit text => s!"not a date unit: '{text}'"
  | unknownPeriod text => s!"unknown time period in '{text}'"
  | axisWithoutUnits axis => s!"time axis '{axis}' has no units"
  | stated text => text

/-- The wording of an unknown transform. -/
def NamingFault.message : NamingFault → String
  | unnamed coordinate => s!"{coordinate}: no transform_type or standard_name attribute"
  | stated name => name

namespace Error

/-- The wording of an error. A failure to read is passed on in the words of the reader. -/
def message : Error → String
  | indexOutOfRange index length => s!"Index {index} out of range [0, {length})"
  | invalidArgument fault => "Invalid argument: " ++ fault.message
  | invalidRange fault => "Invalid range: " ++ fault.message
  | shapeMismatch name expected found =>
    s!"Shape mismatch for '{name}': expected {Listing.counts expected}, found {Listing.counts found}"
  | invalidState fault => "Invalid state: " ++ fault.message
  | missingTerm transform term =>
    s!"Vertical transform '{transform}' is missing formula term '{term}'"
  | unresolvedTerm transform term var =>
    s!"Formula term '{term}' of '{transform}' names variable '{var}' which is not in the dataset"
  | unknownTransform fault => "Unknown vertical transform: " ++ fault.message
  | invalidTimeIndex index times => s!"Time index {index} out of bounds for {times} time steps"
  | invalidTime fault => "Invalid time specification: " ++ fault.message
  | read text => text

/-- The name of an error. -/
def name : Error → String
  | indexOutOfRange .. => "IndexOutOfRange"
  | invalidArgument _ => "InvalidArgument"
  | invalidRange _ => "InvalidRange"
  | shapeMismatch .. => "ShapeMismatch"
  | invalidState _ => "InvalidState"
  | missingTerm .. => "MissingFormulaTerm"
  | unresolvedTerm .. => "UnresolvedFormulaTerm"
  | unknownTransform _ => "UnknownTransform"
  | invalidTimeIndex .. => "InvalidTimeIndex"
  | invalidTime _ => "InvalidTime"
  | read _ => "Read"

/-- The class of an error. -/
def category : Error → ErrorCategory
  | indexOutOfRange .. | invalidArgument _ | invalidRange _ | shapeMismatch ..
  | invalidTimeIndex .. | invalidTime _ => .invalidArgument
  | invalidState _ => .invalidState
  | missingTerm .. | unresolvedTerm .. | unknownTransform _ => .unresolvableFormula
  | read _ => .read

end Error

end Gridded
