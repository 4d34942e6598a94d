import Sidebar.Decimal.Notation
import Sidebar.Text.Quoted
/-!
# Errors of reading JSON

The errors of `serde_json::from_str` and their messages, as `PanelConfig::from_json_str`
reports them.

Reading a document stops at the first problem: a fault in the text itself (`Malformed`), a
value of the wrong kind or out of range for the field that reads it, or a field given twice.
A problem is reported with the line and the column where it arose; lines count from 1 and
columns count bytes of UTF-8 from the last line break, so a column may fall inside a
multi-byte character.
-/

namespace Sidebar
namespace Json

/-- A fault in the JSON text. -/
inductive Malformed where
  | eofInList
  | eofInObject
  | eofInString
  | eofInValue
  | expectedColon
  | expectedListCommaOrEnd
  | expectedObjectCommaOrEnd
  | expectedIdent
  | expectedValue
  | invalidEscape
  | invalidNumber
  | numberOutOfRange
  | controlCharacterInString
  | keyMustBeString
  | loneLeadingSurrogate
  | trailingComma
  | trailingCharacters
  | unexpectedEndOfHexEscape
  | recursionLimitExceeded
  deriving DecidableEq, Repr

/-- The text that names a fault in the text. -/
def Malformed.message : Malformed → String
  | .eofInList => "EOF while parsing a list"
  | .eofInObject => "EOF while parsing an object"
  | .eofInString => "EOF while parsing a string"
  | .eofInValue => "EOF while parsing a value"
  | .expectedColon => "expected `:`"
  | .expectedListCommaOrEnd => "expected `,` or `]`"
  | .expectedObjectCommaOrEnd => "expected `,` or `\x7d`"
  | .expectedIdent => "expected ident"
  | .expectedValue => "expected value"
  | .invalidEscape => "invalid escape"
  | .invalidNumber => "invalid number"
  | .numberOutOfRange => "number out of range"
  | .controlCharacterInString => "control character (\\u0000-\\u001F) found while parsing a string"
  | .keyMustBeString => "key must be a string"
  | .loneLeadingSurrogate => "lone leading surrogate in hex escape"
  | .trailingComma => "trailing comma"
  | .trailingCharacters => "trailing characters"
  | .unexpectedEndOfHexEscape => "unexpected end of hex escape"
  | .recursionLimitExceeded => "recursion limit exceeded"

/-- A value that a reader found where it wanted another kind or range. -/
inductive Found where
  | null
  | bool (b : Bool)
  | unsigned (n : Nat)
  | signed (n : Int)
  /-- A binary64 number, by its bit pattern. -/
  | float (bits : UInt64)
  | string (s : String)
  | sequence
  | map
  deriving DecidableEq, Repr

/-- The notation of numbers in messages: the decimal point stays in the text for point
positions from -4 to 16, an exponent carries its sign, and a tie between two shortest
candidates goes to the even one. -/
def messageNotation : Decimal.Notation := ⟨-4, 16, true, .toEven⟩

/-- How a found value is named in a message. -/
def Found.describe : Found → String
  | .null => "null"
  | .bool b => "boolean `" ++ toString b ++ "`"
  | .unsigned n => "integer `" ++ toString n ++ "`"
  | .signed n => "integer `" ++ toString n ++ "`"
  | .float bits => "floating point `" ++ messageNotation.ofBits Decimal.Format.binary64 bits.toNat ++ "`"
  | .string s => "string " ++ Text.quoted s
  | .sequence => "sequence"
  | .map => "map"

/-- What went wrong. -/
inductive Problem where
  | malformed (e : Malformed)
  /-- A value of another kind than `expected`. -/
  | invalidType (found : Found) (expected : String)
  /-- A value of the right kind out of the range of `expected`. -/
  | invalidValue (found : Found) (expected : String)
  | duplicateField (name : String)
  deriving DecidableEq, Repr

/-- The text of a problem. -/
def Problem.message : Problem → String
  | .malformed e => e.message
  | .invalidType f e => "invalid type: " ++ f.describe ++ ", expected " ++ e
  | .invalidValue f e => "invalid value: " ++ f.describe ++ ", expected " ++ e
  | .duplicateField n => "duplicate field `" ++ n ++ "`"

/-- A problem and the point where it arose, given as the number of bytes of input after
that point. -/
structure Fault where
  problem : Problem
  remaining : Nat
  deriving DecidableEq, Repr

/-- A problem at a line and a column of a document. -/
structure Error where
  problem : Problem
  line : Nat
  column : Nat
  deriving DecidableEq, Repr

/-- The line and column of the point `remaining` bytes before the end of `input`: the line
is one more than the line breaks before the point, the column the bytes since the last of
them. -/
def Fault.locate (input : String) (f : Fault) : Error :=
  let bytes := input.toUTF8.toList
  let before := bytes.take (bytes.length - f.remaining)
  let lineStart := before.reverse.takeWhile (· != 10) |>.length
  ⟨f.problem, before.count 10 + 1, lineStart⟩

/-- The text of an error: the problem, then where it arose. -/
def Error.message (e : Error) : String :=
  e.problem.message ++ " at line " ++ toString e.line ++ " column " ++ toString e.column

end Json
end Sidebar
