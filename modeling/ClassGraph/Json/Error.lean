import ClassGraph.Json.Writer
import ClassGraph.Text.Pieces
import ClassGraph.Text.Visible

/-!
# What can be wrong with a JSON text

A cause is either a fault of the text or a value that does not fit what is read from it. A cause in
the text has a position: the line, from one, and the bytes consumed on that line.
-/

set_option autoImplicit false

namespace ClassGraph.Json

/-- A value that was found where another kind was expected. -/
inductive Found where
  | null
  | bool (value : Bool)
  | number (value : Number)
  | str (value : String)
  | list
  | object
  | variantName

/-- How a found value is named in a message. -/
def Found.describe : Found → String
  | .null => "null"
  | .bool b => "boolean `" ++ String.ofList (writeBool b) ++ "`"
  | .number (.int n) => "integer `" ++ String.ofList (writeInt n) ++ "`"
  | .number (.float x) => "floating point `" ++ String.ofList (writeFloat x) ++ "`"
  | .str s => "string " ++ Text.quoted s
  | .list => "sequence"
  | .object => "map"
  | .variantName => "unit variant"

/-- The value as something found. -/
def Found.ofJson : Json → Found
  | .null => .null
  | .bool b => .bool b
  | .num n => .number n
  | .str s => .str s
  | .arr _ => .list
  | .obj _ => .object

/-- A fault of the text, or a value that does not fit. -/
inductive Cause where
  | eofValue
  | eofList
  | eofObject
  | eofString
  | expectedValue
  | expectedIdent
  | expectedColon
  | expectedListEnd
  | expectedObjectEnd
  | keyNotString
  | trailingComma
  | trailingCharacters
  | invalidNumber
  | numberOutOfRange
  | invalidEscape
  | controlCharacter
  | loneSurrogate
  | endOfHexEscape
  | tooDeep
  | missingField (name : String)
  | duplicateField (name : String)
  | wrongType (found : Found) (expected : String)
  | wrongValue (found : Found) (expected : String)
  | unknownVariant (name : String) (known : List String)
  | wrongLength (length : Nat) (expected : String)
  | noShape (name : String)

/-- What is said about a cause. -/
def Cause.message : Cause → String
  | .eofValue => "EOF while parsing a value"
  | .eofList => "EOF while parsing a list"
  | .eofObject => "EOF while parsing an object"
  | .eofString => "EOF while parsing a string"
  | .expectedValue => "expected value"
  | .expectedIdent => "expected ident"
  | .expectedColon => "expected `:`"
  | .expectedListEnd => "expected `,` or `]`"
  | .expectedObjectEnd => "expected `,` or `\x7d`"
  | .keyNotString => "key must be a string"
  | .trailingComma => "trailing comma"
  | .trailingCharacters => "trailing characters"
  | .invalidNumber => "invalid number"
  | .numberOutOfRange => "number out of range"
  | .invalidEscape => "invalid escape"
  | .controlCharacter => "control character (\\u0000-\\u001F) found while parsing a string"
  | .loneSurrogate => "lone leading surrogate in hex escape"
  | .endOfHexEscape => "unexpected end of hex escape"
  | .tooDeep => "recursion limit exceeded"
  | .missingField name => "missing field `" ++ name ++ "`"
  | .duplicateField name => "duplicate field `" ++ name ++ "`"
  | .wrongType found expected => "invalid type: " ++ found.describe ++ ", expected " ++ expected
  | .wrongValue found expected => "invalid value: " ++ found.describe ++ ", expected " ++ expected
  | .unknownVariant name known =>
    "unknown variant `" ++ name ++ "`, expected "
      ++ Text.joinWith " or " (known.map fun k => "`" ++ k ++ "`")
  | .wrongLength length expected =>
    "invalid length " ++ toString length ++ ", expected " ++ expected
  | .noShape name => "data did not match any variant of untagged enum " ++ name

/-- A line, counted from one, and the bytes consumed on it. -/
structure Position where
  line : Nat
  column : Nat
deriving DecidableEq, Repr

/-- A cause, with its place in the text where it has one. -/
structure Error where
  cause : Cause
  place : Option Position

/-- The cause followed by its place. -/
def Error.message (e : Error) : String :=
  match e.place with
  | none => e.cause.message
  | some p =>
    e.cause.message ++ " at line " ++ toString p.line ++ " column " ++ toString p.column

end ClassGraph.Json
