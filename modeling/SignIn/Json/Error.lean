import SignIn.Number.Shortest
import SignIn.Text.Quoted

/-!
# What can be wrong with a JSON text

Two kinds of error: the text is not JSON at some byte, or it is and a value in it is not what the
reader asked for. The wording is one function, `Error.message`. Where in the text the error was
found is not kept track of; a message that tells it goes on with the `place`.
-/

namespace SignIn.Json

/-- What stands in a text in place of what was asked for. -/
inductive Found where
  | null
  | bool (b : Bool)
  | integer (n : Int)
  | float (x : Binary64)
  | string (s : String)
  | list
  | object
  deriving DecidableEq, Repr

/-- How an error names what it found. -/
def Found.name : Found → String
  | .null => "null"
  | .bool true => "boolean `true`"
  | .bool false => "boolean `false`"
  | .integer n => "integer `" ++ Decimal.ofInt n ++ "`"
  | .float x => "floating point `" ++ Shortest.text x ++ "`"
  | .string s => "string " ++ Quoted.text s
  | .list => "sequence"
  | .object => "map"

/-- Why a text is not the JSON that was asked for. -/
inductive Error where
  | endInValue
  | endInString
  | endInList
  | endInObject
  | expectedColon
  | expectedListSeparator
  | expectedObjectSeparator
  | expectedWord
  | expectedValue
  | invalidEscape
  | invalidNumber
  | numberOutOfRange
  | invalidUtf8
  | controlCharacter
  | keyNotString
  | loneSurrogate
  | unpairedSurrogate
  | trailingComma
  | trailingText
  | tooDeep
  /-- A value of the wrong kind. -/
  | wrongType (found : Found) (expected : String)
  /-- An integer outside the expected range. -/
  | wrongValue (n : Int) (expected : String)
  /-- A list in place of a record, with too few elements. -/
  | wrongLength (length : Nat) (expected : String)
  | missingField (key : String)
  | duplicateField (key : String)
  /-- A value of the right kind that its reader refuses, with the reason. -/
  | refused (reason : String)
  deriving DecidableEq, Repr

def Error.message : Error → String
  | .endInValue => "EOF while parsing a value"
  | .endInString => "EOF while parsing a string"
  | .endInList => "EOF while parsing a list"
  | .endInObject => "EOF while parsing an object"
  | .expectedColon => "expected `:`"
  | .expectedListSeparator => "expected `,` or `]`"
  | .expectedObjectSeparator => "expected `,` or `\x7d`"
  | .expectedWord => "expected ident"
  | .expectedValue => "expected value"
  | .invalidEscape => "invalid escape"
  | .invalidNumber => "invalid number"
  | .numberOutOfRange => "number out of range"
  | .invalidUtf8 => "invalid unicode code point"
  | .controlCharacter => "control character (\\u0000-\\u001F) found while parsing a string"
  | .keyNotString => "key must be a string"
  | .loneSurrogate => "lone leading surrogate in hex escape"
  | .unpairedSurrogate => "unexpected end of hex escape"
  | .trailingComma => "trailing comma"
  | .trailingText => "trailing characters"
  | .tooDeep => "recursion limit exceeded"
  | .wrongType found expected => "invalid type: " ++ found.name ++ ", expected " ++ expected
  | .wrongValue n expected =>
    "invalid value: integer `" ++ Decimal.ofInt n ++ "`, expected " ++ expected
  | .wrongLength length expected =>
    "invalid length " ++ Decimal.ofNat length ++ ", expected " ++ expected
  | .missingField key => "missing field `" ++ key ++ "`"
  | .duplicateField key => "duplicate field `" ++ key ++ "`"
  | .refused reason => reason

/-- What follows a message that tells where the error was found. -/
def place (line column : Nat) : String :=
  " at line " ++ Decimal.ofNat line ++ " column " ++ Decimal.ofNat column

end SignIn.Json
