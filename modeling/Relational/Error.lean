import Relational.TableRef
import Relational.Attribute
import Relational.Text.Numeral

/-!
# Errors and notices

Errors are told apart by their cause. Those that the library itself detects have a message; faults
that arise below it have none. Notices report what went on without stopping.
-/

namespace Relational

/-- The operators that only restrict other relations. -/
inductive Standalone where
  | union
  | negation
  deriving DecidableEq, Repr

/-- The operations that take attribute specifications. -/
inductive SpecUse where
  | pro
  | aggr
  | fetchOne
  | fetchColumns
  deriving DecidableEq, Repr

/-- The failures that a database connection reports. -/
inductive DriverFault where
  | programming
  | data
  | integrity
  | notSupported
  | operational
  | interface
  | internal
  | database
  | pool
  | general
  deriving DecidableEq, Repr

/-- Failures caused by the statement rather than by the server. -/
def DriverFault.isUserFault : DriverFault → Bool
  | .programming | .data | .integrity | .notSupported => true
  | _ => false

/-- What can be wrong with the text of a configuration. -/
inductive ConfigFault where
  | missingSectionHeader
  | unreadableLine
  | duplicateSection
  | duplicateOption
  | badReference
  | missingReference
  | deepReference
  deriving DecidableEq, Repr

/-- Faults that come without a message. -/
inductive Fault where
  | missingKey
  | wrongType
  | badValue
  | badIndex
  | overflow
  | exhausted
  | missingMember
  | invalidOperation
  | divisionByZero
  | runtime
  | driver (fault : DriverFault)
  | config (fault : ConfigFault)
  deriving DecidableEq, Repr

/-- Everything that can go wrong, by cause. -/
inductive Error where
  | invalidStandalone (operator : Standalone)
  | duplicateAttribute (name : String)
  | unknownAttribute (name : String) (available : List String)
  | typeMismatch (name : String) (left right : ColumnType)
  | blobJoinKey (names : List String)
  | aggregateRequiresComputation
  | blobInRestriction (name : String)
  | nonScalarLiteral (name shown expected : String)
  | arityMismatch (requested : Int) (provided : Nat)
  | notScalar (tuples : Nat)
  | restrictionShape (shown reason : String)
  | emptySpec
  | emptyTableName
  | noSuchTable (table : TableRef)
  | noRecords
  | shortUnion
  | notSingleEntry (count : Nat)
  | specsNotText (use : SpecUse)
  | noAttributes (use : SpecUse)
  | wildcardRefused (use : SpecUse)
  | frozenSet
  | frozenRemove
  | unresolvedAliases
  | strayMarker
  | statementFailed (fault : DriverFault) (time statement reason : String)
  | noConfigSection
  | incompleteConfig
  | noConfigFile (path : String)
  | noConnectionArguments
  | fault (fault : Fault)
  deriving DecidableEq

/-- The operator's name in messages. -/
def Standalone.name : Standalone → String
  | .union => "union"
  | .negation => "negation"

/-- The operation's name in messages. -/
def SpecUse.name : SpecUse → String
  | .pro => "pro"
  | .aggr => "aggr"
  | .fetchOne => "fetch1"
  | .fetchColumns => "fetchn"

/-- The wording of an error; faults have none. -/
def Error.message : Error → Option String
  | .invalidStandalone operator =>
    some ("The " ++ operator.name ++ " operator can only be used as a restriction")
  | .duplicateAttribute name => some ("Duplicate attribute '" ++ name ++ "'")
  | .unknownAttribute name [] => some ("Attribute '" ++ name ++ "' does not exist")
  | .unknownAttribute name available =>
    some ("Attribute '" ++ name ++ "' does not exist. Available attributes: " ++
      Text.joinWith ", " available)
  | .typeMismatch name left right =>
    some ("Cannot join on attribute '" ++ name ++ "': types " ++ left.title ++ " and " ++
      right.title ++ " are incompatible")
  | .blobJoinKey names =>
    some ("Join cannot be done on blob attributes: " ++ Text.joinWith ", " names)
  | .aggregateRequiresComputation =>
    some "Aggregate operators must define at least one computation"
  | .blobInRestriction name =>
    some ("Restrictions must not include blob attribute '" ++ name ++ "'")
  | .nonScalarLiteral name shown expected =>
    some ("Value for '" ++ name ++ "' must be a " ++ expected ++ ", but was " ++ shown)
  | .arityMismatch requested provided =>
    some ("The number of outputs (" ++ Text.signedDecimal requested ++
      ") must match the number of requested attributes (" ++ Text.decimal provided ++ ")")
  | .notScalar tuples =>
    some ("Expected exactly one tuple, but the relation contains " ++ Text.decimal tuples)
  | .restrictionShape shown reason =>
    some ("Cannot interpret restriction " ++ shown ++
      (if reason = "" then "" else ": " ++ reason))
  | .emptySpec => some "Attribute specification must not be empty"
  | .emptyTableName => some "Table name is required"
  | .noSuchTable table => some ("Table " ++ table.qualifiedName ++ " does not exist")
  | .noRecords => some "At least one record is required"
  | .shortUnion => some "Union requires at least two operands"
  | .notSingleEntry count =>
    some ("Dictionary must contain exactly 1 entry, not " ++ Text.decimal count)
  | .specsNotText use => some (use.name ++ "() requires attribute specifications as strings")
  | .noAttributes use => some (use.name ++ "() requires at least one attribute")
  | .wildcardRefused use => some ("\"*\" is not allowed in " ++ use.name ++ "()")
  | .frozenSet => some "Cannot set frozendict entries after creation"
  | .frozenRemove => some "Cannot remove frozendict entries after creation"
  | .unresolvedAliases => some "Aliases must be resolved before restriction"
  | .strayMarker => some "Unknown restriction type: NOT"
  | .statementFailed _ time statement reason =>
    some (Text.joinWith "\n" ["At " ++ time, "For query:", statement, "Message:", reason])
  | .noConfigSection => some "Malformed MySQL config file: no [MYSQL] section found."
  | .incompleteConfig =>
    some ("Malformed MySQL config file: " ++
      "'User' and 'Database' keys are required in the [MYSQL] section.")
  | .noConfigFile path => some ("Config file was given, but does not exist: " ++ path)
  | .noConnectionArguments =>
    some "Connection arguments or config file are required to connect to MySQL"
  | .fault _ => none

/-- The reference with the given name and schema. -/
def TableRef.make (name schema : String) : Except Error TableRef :=
  match TableRef.make? name schema with
  | some t => .ok t
  | none => .error .emptyTableName

/-- Read a name that may be qualified by a schema. An explicit schema takes precedence. -/
def TableRef.parse (text : String) (schema : Option String) : Except Error TableRef :=
  match TableRef.parse? text schema with
  | some t => .ok t
  | none => .error .emptyTableName

/-- Something worth reporting that does not stop the work. -/
inductive Notice where
  | longRestriction (records : Nat)
  | repeatedColumns
  | skippedUnhashable (kind : String)
  | emptyTruth
  | scalarOfArray
  | zonedTick
  | wrappedInteger (n : Int) (type : IntegerType)
  | narrowedOverflow
  deriving DecidableEq, Repr

/-- What a notice is about: the use of the library, a long restriction, a use that will stop
working, or arithmetic. -/
inductive NoticeKind where
  | use
  | longRestriction
  | deprecation
  | arithmetic
  deriving DecidableEq, Repr

/-- What a notice is about. -/
def Notice.kind : Notice → NoticeKind
  | .longRestriction _ => .longRestriction
  | .repeatedColumns | .skippedUnhashable _ => .use
  | .emptyTruth | .scalarOfArray | .zonedTick | .wrappedInteger .. => .deprecation
  | .narrowedOverflow => .arithmetic

/-- The wording of a notice. -/
def Notice.message : Notice → String
  | .longRestriction records =>
    "Restriction by " ++ Text.decimal records ++ " tuples. Consider replacing the long list of " ++
      "tuples by a more succinct condition or a restriction by another relation"
  | .repeatedColumns => "DataFrame columns are not unique, some columns will be omitted."
  | .skippedUnhashable kind => "Unhashable type, skipping: <class '" ++ kind ++ "'>"
  | .emptyTruth =>
    "The truth value of an empty array is ambiguous. Returning False, but in future this will " ++
      "result in an error. Use `array.size > 0` to check that an array is not empty."
  | .scalarOfArray =>
    "Conversion of an array with ndim > 0 to a scalar is deprecated, and will error in future. " ++
      "Ensure you extract a single element from your array before performing this operation. " ++
      "(Deprecated NumPy 1.25.)"
  | .zonedTick =>
    "parsing timezone aware datetimes is deprecated; this will raise an error in the future"
  | .wrappedInteger n type =>
    "NumPy will stop allowing conversion of out-of-bound Python integers to integer arrays.  " ++
      "The conversion of " ++ Text.signedDecimal n ++ " to " ++ type.name ++
      " will fail in the future.\nFor the old behavior, usually:\n    " ++
      "np.array(value).astype(dtype)\nwill give the desired result (the cast overflows)."
  | .narrowedOverflow => "overflow encountered in cast"

end Relational
