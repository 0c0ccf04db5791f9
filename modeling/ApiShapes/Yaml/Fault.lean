import ApiShapes.Calendar
import ApiShapes.Json.Fault
import ApiShapes.Text.Piece

/-!
# Faults of YAML texts

A text can be malformed, and a well-formed scalar can denote something that does not exist, such
as the thirtieth of February.  A node that holds itself denotes a value without end, which no
document has.
-/

namespace ApiShapes.Yaml

/-- Where a text departs from the grammar. -/
inductive Malformation where
  | character
  | indentation
  | simpleKey
  | misplacedEntry
  | directive
  | anchor
  | tag
  | blockScalar
  | quotedScalar
  | escape
  | token
  | unexpectedToken
  | manyDocuments
  | undefinedAlias
  | repeatedAnchor
  | unknownTag
  | wrongKind
  | unhashableKey
  | mergeValue
  | binary
  deriving DecidableEq

def Malformation.message : Malformation → String
  | .character => "special characters are not allowed"
  | .indentation => "the indentation is wrong"
  | .simpleKey => "could not find expected ':'"
  | .misplacedEntry => "an entry is not allowed here"
  | .directive => "a directive is malformed"
  | .anchor => "an anchor or alias is malformed"
  | .tag => "a tag is malformed"
  | .blockScalar => "the header of a block scalar is malformed"
  | .quotedScalar => "a quoted scalar does not end"
  | .escape => "an escape sequence is unknown"
  | .token => "found a character that cannot start any token"
  | .unexpectedToken => "found an unexpected token"
  | .manyDocuments => "expected a single document in the stream"
  | .undefinedAlias => "found an undefined alias"
  | .repeatedAnchor => "found a duplicate anchor"
  | .unknownTag => "could not determine the meaning of a tag"
  | .wrongKind => "a node does not have the kind that its tag demands"
  | .unhashableKey => "found a key that is a collection"
  | .mergeValue => "expected a mapping or list of mappings for merging"
  | .binary => "failed to decode binary data"

/-- A scalar whose tag promises a value that its text does not denote. -/
inductive Misfit where
  | calendar (fault : CalendarFault)
  | oversizedInteger (digits : Nat)
  | integer (base : Nat) (text : String)
  | float (text : String)
  | tooManyPlaces
  | truth (text : String)
  | emptyNumber
  | timestamp
  | mappedTimestamp
  | codePoint
  | hugeCodePoint
  deriving DecidableEq

def Misfit.message : Misfit → String
  | .calendar fault => fault.message
  | .oversizedInteger digits => Json.oversizedMessage digits
  | .integer base text =>
    quoted text ++ " is no integer in base " ++ String.ofList (Decimal.digits base)
  | .float text => quoted text ++ " is no number"
  | .tooManyPlaces => "a number has too many places in sixties"
  | .truth text => quoted text ++ " is no truth value"
  | .emptyNumber => "a number has no digits"
  | .timestamp => "a timestamp is malformed"
  | .mappedTimestamp => "a mapping stands where a timestamp is wanted"
  | .codePoint => "an escape names no character"
  | .hugeCodePoint => "an escape does not fit a signed word"

inductive Fault where
  | malformed (what : Malformation)
  | misfit (what : Misfit)
  | endless
  deriving DecidableEq

end ApiShapes.Yaml
