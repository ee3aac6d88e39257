import RowFilter.Value.Kind
import RowFilter.Vocabulary.Comparator
import RowFilter.Vocabulary.Sign

/-!
# Errors

An error is a cause. Where it arose, which class it belongs to and how it reads are functions of the
cause. Trees and expressions appear in a cause by their canonical text.
-/

namespace RowFilter

/-- The part of the library in which an error arises. -/
inductive ErrorOrigin where
  | compile
  | canonicalize
  | evaluate
  | model
  | serialize
  | config
deriving DecidableEq, Repr

namespace ErrorOrigin

/-- All origins, in the order of declaration. -/
def all : List ErrorOrigin := [compile, canonicalize, evaluate, model, serialize, config]

/-- Name of an origin. -/
def label : ErrorOrigin → String
  | compile => "Translate"
  | canonicalize => "Canonicalize"
  | evaluate => "Evaluate"
  | model => "Model"
  | serialize => "Serialize"
  | config => "Config"

/-- Lowercase name of an origin, as it heads a message. -/
def slug : ErrorOrigin → String
  | compile => "translate"
  | canonicalize => "canonicalize"
  | evaluate => "evaluate"
  | model => "model"
  | serialize => "serialize"
  | config => "config"

end ErrorOrigin

/-- The class of an error. -/
inductive ErrorClass where
  | unsupportedShape
  | invalidOperator
  | outOfRange
  | notImplemented
  | unknownMember
  | serialize
  | config
deriving DecidableEq, Repr

namespace ErrorClass

/-- All classes, in the order of declaration. -/
def all : List ErrorClass :=
  [unsupportedShape, invalidOperator, outOfRange, notImplemented, unknownMember, serialize, config]

/-- Name of a class as callers see it; what fails in transport is internal to them. -/
def label : ErrorClass → String
  | unsupportedShape => "UnsupportedShape"
  | invalidOperator => "InvalidOperator"
  | outOfRange => "OutOfRange"
  | notImplemented => "NotImplemented"
  | unknownMember => "UnknownMember"
  | serialize => "Internal"
  | config => "Config"

/-- Lowercase name of a class, as it heads a message. -/
def slug : ErrorClass → String
  | unsupportedShape => "unsupported_expression_shape"
  | invalidOperator => "invalid_operator_usage"
  | outOfRange => "argument_out_of_range"
  | notImplemented => "not_implemented"
  | unknownMember => "unknown_member"
  | serialize => "serialize"
  | config => "config"

end ErrorClass

/-- Why bytes do not decode. -/
inductive DecodeError where
  /-- More bytes than the limit admits. -/
  | tooLong (length limit : Nat)
  /-- The bytes do not encode a tree of the wanted type. -/
  | malformed
  /-- A float is not finite. -/
  | nonFinite (type shown : String)
  /-- A comparison has a right side that its comparator does not take. -/
  | notCanonical (comparator : Comparator)
deriving DecidableEq, Repr

namespace DecodeError

/-- Reading of a failure to decode. -/
def message : DecodeError → String
  | tooLong length limit =>
    s!"deserialize size limit exceeded: {length} bytes (limit {limit})"
  | malformed => "deserialize error: malformed input"
  | nonFinite type shown => s!"deserialize error: invalid {type} value: {shown}"
  | notCanonical comparator =>
    s!"deserialize error: decoded comparator {comparator.label} does not match its right side"

/-- Name of the kind of a failure to decode. -/
def slug : DecodeError → String
  | tooLong _ _ => "deserialize_size_limit_exceeded"
  | _ => "deserialize"

end DecodeError

/-- The cause of an error. -/
inductive Error where
  /-- A constant is an infinity or a not-a-number. -/
  | nonFiniteConstant (shown : String)
  /-- A sign that joins nothing stands between two operands. -/
  | signJoinsNothing (sign : Sign)
  /-- A sign that applies to no text stands before one operand. -/
  | signAppliesToNothing (sign : Sign)
  /-- A sign for texts is applied to another kind. -/
  | operandNotText (sign : Sign) (kind : Kind) (shown : String)
  /-- An argument of a sign is no integer. -/
  | argumentNotInteger (sign : Sign) (kind : Kind) (shown : String)
  /-- A sign has more arguments than it takes. -/
  | tooManyArguments (sign : Sign) (count : Nat)
  /-- An expression has no counterpart in filters. -/
  | unsupportedShape (shown : String)
  /-- An expression nests deeper than the configured bound. -/
  | nestingTooDeep (limit : Nat) (shown : String)
  /-- Folding constants leaves the range of their kind. -/
  | constantOutOfRange (shown : String)
  /-- A constant list has no item at a position. -/
  | indexOutOfRange (position : Int) (length : Nat) (shown : String)
  /-- An owner has no member of a name, as found by the part of the library given first. -/
  | unknownMember (origin : ErrorOrigin) (owner member : String)
  /-- No entity is registered under a path. -/
  | unknownEntity (path : String)
  /-- Another entity is registered under a path. -/
  | entityConflict (path : String)
  /-- A comparator has a right side and takes none. -/
  | rightSideNotTaken (comparator : Comparator) (shown : String)
  /-- A comparator has a value on its right and takes none. -/
  | valueNotTaken (comparator : Comparator) (shown : String)
  /-- An operation is not defined on the values at hand. -/
  | notImplemented (shown : String)
  /-- A computed result leaves the range of its kind. -/
  | resultOutOfRange (shown : String)
  /-- Bytes do not decode. -/
  | decode (cause : DecodeError)
  /-- The text of a configuration cannot be read. -/
  | malformedConfig
  /-- The configured depth is zero. -/
  | depthZero
  /-- The configured wildcard is blank. -/
  | blankWildcard
deriving DecidableEq, Repr

namespace Error

/-- The class of an error. -/
def category : Error → ErrorClass
  | unsupportedShape _ | nestingTooDeep _ _ => .unsupportedShape
  | signJoinsNothing _ | signAppliesToNothing _ | operandNotText _ _ _ | argumentNotInteger _ _ _
  | entityConflict _ | rightSideNotTaken _ _ | valueNotTaken _ _ => .invalidOperator
  | nonFiniteConstant _ | tooManyArguments _ _ | constantOutOfRange _ | indexOutOfRange _ _ _
  | resultOutOfRange _ => .outOfRange
  | notImplemented _ => .notImplemented
  | unknownMember _ _ _ | unknownEntity _ => .unknownMember
  | decode _ => .serialize
  | malformedConfig | depthZero | blankWildcard => .config

/-- The part of the library in which an error arises. -/
def origin : Error → ErrorOrigin
  | nonFiniteConstant _ | signJoinsNothing _ | signAppliesToNothing _ | operandNotText _ _ _
  | argumentNotInteger _ _ _ | tooManyArguments _ _ | unsupportedShape _ | nestingTooDeep _ _
  | constantOutOfRange _ | indexOutOfRange _ _ _ => .compile
  | unknownMember origin _ _ => origin
  | unknownEntity _ | entityConflict _ => .model
  | rightSideNotTaken _ _ | valueNotTaken _ _ => .canonicalize
  | notImplemented _ | resultOutOfRange _ => .evaluate
  | decode _ => .serialize
  | malformedConfig | depthZero | blankWildcard => .config

/-- Reading of an error. -/
def message : Error → String
  | nonFiniteConstant shown => s!"float constant {shown} is not finite"
  | signJoinsNothing sign => s!"sign {sign.label} cannot join a left and a right operand"
  | signAppliesToNothing sign => s!"sign {sign.label} does not apply to a single operand"
  | operandNotText sign kind shown =>
    s!"sign {sign.label} requires a Text operand, found {kind.label} in {shown}"
  | argumentNotInteger sign kind shown =>
    s!"sign {sign.label} takes integer arguments, found {kind.label} in {shown}"
  | tooManyArguments sign count =>
    s!"sign {sign.label} takes at most {sign.maxArguments} arguments, got {count}"
  | unsupportedShape shown => s!"unsupported expression shape: {shown}"
  | nestingTooDeep limit shown => s!"expression nesting exceeds {limit}: {shown}"
  | constantOutOfRange shown => s!"constant out of range in {shown}"
  | indexOutOfRange position length shown =>
    s!"index {position} outside list of {length} in {shown}"
  | unknownMember _ owner member => s!"unknown member '{member}' on '{owner}'"
  | unknownEntity path => s!"entity '{path}' not registered"
  | entityConflict path => s!"entity '{path}' already registered with a different model"
  | rightSideNotTaken comparator shown =>
    s!"comparator {comparator.label} does not take a right side, got {shown}"
  | valueNotTaken comparator shown =>
    s!"comparator {comparator.label} does not take a value, got {shown}"
  | notImplemented shown => s!"not implemented: {shown}"
  | resultOutOfRange shown => s!"result out of range in {shown}"
  | decode cause => cause.message
  | malformedConfig => "malformed configuration"
  | depthZero => "max_depth must be at least 1"
  | blankWildcard => "wildcard must not be whitespace"

/-- Reading of an error under its origin and class. -/
def fullMessage (e : Error) : String :=
  e.origin.slug ++ ":" ++ e.category.slug ++ ": " ++ e.message

end Error

/-- What is left of an error once its cause is forgotten. -/
structure ErrorReport where
  /-- The class of the error. -/
  category : ErrorClass
  /-- The part of the library in which it arose. -/
  origin : ErrorOrigin
  /-- How it reads. -/
  message : String
deriving DecidableEq, Repr

/-- The report of an error. -/
def Error.toReport (e : Error) : ErrorReport := ⟨e.category, e.origin, e.message⟩

end RowFilter
