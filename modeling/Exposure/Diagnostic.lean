import Exposure.Syntax.Item
import Exposure.Text.Quoted

namespace Exposure

/-- What is wrong with the parameters of a signature. -/
inductive SignatureFault where
  | duplicateName | orderingViolation | defaultOrderingViolation | positionalOnlyConflict | unknownParameter
  | missingParameter
  deriving DecidableEq, Repr

/-- What is wrong with a field. -/
inductive MemberFault where
  | missingType | duplicateName | frozenSetter
  deriving DecidableEq, Repr

/-- What is wrong with an enumeration. -/
inductive EnumFault where
  | payloadVariant | duplicateVariant | emptyEnum
  deriving DecidableEq, Repr

/-- What is wrong with a block of methods. -/
inductive MethodFault where
  | setterWithoutGetter | duplicateName | conflictingMarkers
  deriving DecidableEq, Repr

/-- The word for a fault in a signature. -/
def SignatureFault.text : SignatureFault → String
  | duplicateName => "duplicate_name"
  | orderingViolation => "ordering_violation"
  | defaultOrderingViolation => "default_ordering_violation"
  | positionalOnlyConflict => "positional_only_conflict"
  | unknownParameter => "unknown_parameter"
  | missingParameter => "missing_parameter"

/-- The word for a fault in a field. -/
def MemberFault.text : MemberFault → String
  | missingType => "missing_type"
  | duplicateName => "duplicate_name"
  | frozenSetter => "frozen_setter"

/-- The word for a fault in an enumeration. -/
def EnumFault.text : EnumFault → String
  | payloadVariant => "payload_variant"
  | duplicateVariant => "duplicate_variant"
  | emptyEnum => "empty_enum"

/-- The word for a fault in a block of methods. -/
def MethodFault.text : MethodFault → String
  | setterWithoutGetter => "setter_without_getter"
  | duplicateName => "duplicate_name"
  | conflictingMarkers => "conflicting_markers"

/-- The part of the program that reports. -/
inductive Family where
  | parse | unsupported | unknownOption | repeatedOption | malformedOption | signature | member | enumeration | method
  deriving DecidableEq, Repr

/-- What a diagnostic reports. -/
inductive Cause where
  | unexpectedCharacter (char : Char)
  | unexpectedToken (text : String)
  | unexpectedEnd
  | itemCount (found : Nat)
  | traitBlock (trait : String)
  | misplacedTag (tag kind name : String)
  | conflictingTags (first second : String)
  | unknownOption (key : String)
  | repeatedOption (key : String)
  | notAnOption (text : String)
  | needlessValue (key : String)
  | missingValue (key : String)
  | notAString (key : String)
  | malformedValue (key : String)
  | malformedEntry (key text : String)
  | unknownRule (rule : String)
  | notASingleName (marker : String)
  | signature (fault : SignatureFault) (name : String)
  | member (fault : MemberFault) (name : String)
  | enumeration (fault : EnumFault) (name : String)
  | method (fault : MethodFault) (name : String)
  | accessorMismatch (name reads takes : String)
  deriving DecidableEq, Repr

namespace Cause

/-- The part of the program that reports a cause. -/
def family : Cause → Family
  | unexpectedCharacter _ => .parse
  | unexpectedToken _ => .parse
  | unexpectedEnd => .parse
  | itemCount _ => .parse
  | traitBlock _ => .unsupported
  | misplacedTag .. => .unsupported
  | conflictingTags .. => .unsupported
  | unknownOption _ => .unknownOption
  | repeatedOption _ => .repeatedOption
  | notAnOption _ => .malformedOption
  | needlessValue _ => .malformedOption
  | missingValue _ => .malformedOption
  | notAString _ => .malformedOption
  | malformedValue _ => .malformedOption
  | malformedEntry .. => .malformedOption
  | unknownRule _ => .malformedOption
  | notASingleName _ => .malformedOption
  | signature .. => .signature
  | member .. => .member
  | enumeration .. => .enumeration
  | method .. => .method
  | accessorMismatch .. => .method

/-- The kind of a cause, words joined by underscores. -/
def kind : Cause → String
  | signature fault _ => fault.text
  | member fault _ => fault.text
  | enumeration fault _ => fault.text
  | method fault _ => fault.text
  | accessorMismatch .. => "property_type_mismatch"
  | other =>
    match other.family with
    | .unsupported => "unsupported_item"
    | .unknownOption => "unrecognized_option"
    | .repeatedOption => "duplicate_option"
    | .malformedOption => "malformed_option"
    | _ => "parse_error"

/-- The text that a cause is about. -/
def ident : Cause → String
  | unexpectedCharacter char => String.ofList [char]
  | unexpectedToken text => text
  | unexpectedEnd => "<eof>"
  | itemCount _ => ""
  | traitBlock trait => trait
  | misplacedTag _ _ name => name
  | conflictingTags _ second => second
  | unknownOption key => key
  | repeatedOption key => key
  | notAnOption text => text
  | needlessValue key => key
  | missingValue key => key
  | notAString key => key
  | malformedValue key => key
  | malformedEntry key _ => key
  | unknownRule _ => "rename_all"
  | notASingleName marker => marker
  | signature _ name => name
  | member _ name => name
  | enumeration _ name => name
  | method _ name => name
  | accessorMismatch name _ _ => name

/-- Put a text between grave accents. -/
def ticked (text : String) : String := "`" ++ text ++ "`"

/-- The message of a cause without one of its own: its kind in words, and what it is about. -/
def defaultMessage (cause : Cause) : String :=
  " ".intercalate (Text.splitAt '_' cause.kind) ++ ": " ++ ticked cause.ident

/-- The message of a cause. -/
def message (cause : Cause) : String :=
  match cause with
  | unexpectedCharacter char => "unexpected character " ++ Text.shown (String.ofList [char])
  | unexpectedToken text => "unexpected token " ++ Text.shown text
  | unexpectedEnd => "unexpected end of input"
  | itemCount found => "expected one item, found " ++ toString found
  | traitBlock _ => "#[pymethods] cannot be used on trait impls"
  | misplacedTag tag kind name => "#[" ++ tag ++ "] cannot be applied to " ++ kind ++ " " ++ ticked name
  | conflictingTags first second => "#[" ++ second ++ "] conflicts with #[" ++ first ++ "]"
  | notAnOption text => "expected an option name, found " ++ ticked text
  | needlessValue key => ticked key ++ " takes no value"
  | missingValue key => ticked key ++ " needs a value"
  | notAString key => ticked key ++ " expects a string literal"
  | malformedEntry _ text => "malformed signature entry " ++ ticked text
  | unknownRule rule => "unknown rename rule " ++ ticked rule
  | notASingleName marker => ticked marker ++ " takes a single name"
  | accessorMismatch name reads takes =>
    "property " ++ ticked name ++ " reads " ++ ticked reads ++ " but its setter takes " ++ ticked takes
  | other => other.defaultMessage

end Cause

/-- A cause and the place that it is reported at. -/
structure Diagnostic where
  cause : Cause
  place : Place
  deriving DecidableEq, Repr

namespace Diagnostic

/-- The message of a diagnostic. -/
def message (diagnostic : Diagnostic) : String := diagnostic.cause.message

/-- Line and column of a diagnostic. -/
def location (diagnostic : Diagnostic) : String :=
  toString diagnostic.place.lineNumber ++ ":" ++ toString diagnostic.place.columnNumber

/-- The message of a diagnostic behind its place, when the place is known. -/
def text (diagnostic : Diagnostic) : String :=
  if diagnostic.place.lineNumber = 0 then diagnostic.message
  else
    "line " ++ toString diagnostic.place.lineNumber ++ ", column " ++ toString diagnostic.place.columnNumber ++ ": " ++
      diagnostic.message

end Diagnostic

/-- Why a text has no descriptors: a diagnostic, or a literal that stands for nothing that can be written. -/
inductive Fault where
  | diagnostic (report : Diagnostic)
  | codePoint (value : Nat)
  | numeral
  deriving DecidableEq, Repr

/-- A result, or why there is none. -/
abbrev Outcome : Type → Type := Except Fault

namespace Outcome

/-- Report a cause at a place. -/
def report {value : Type} (place : Place) (cause : Cause) : Outcome value := .error (.diagnostic ⟨cause, place⟩)

end Outcome

end Exposure
