import ChatServer.Json.Value
import ChatServer.Text.Quoted
import ChatServer.Text.Digits
import ChatServer.Text.Utf8

/-!
# Why JSON text is refused

The causes for which a text is not JSON (`Malformation`), those for which JSON
is not the value that was asked for (`Mismatch`), their wording, and the place
of a failure as line and column. A column counts the bytes of the line's UTF-8
form.
-/
namespace ChatServer.Json

open ChatServer.Text

/-- Why a text is not JSON. -/
inductive Malformation
  | endInList
  | endInObject
  | endInString
  | endInValue
  | expectedColon
  | expectedListSeparator
  | expectedObjectSeparator
  | expectedValue
  | expectedLiteral
  | invalidEscape
  | invalidNumber
  | numberOutOfRange
  | controlCharacter
  | keyNotString
  | loneSurrogate
  | unfinishedSurrogatePair
  | trailingComma
  | trailingCharacters
  | tooDeep
deriving DecidableEq

def Malformation.message : Malformation → String
  | .endInList => "EOF while parsing a list"
  | .endInObject => "EOF while parsing an object"
  | .endInString => "EOF while parsing a string"
  | .endInValue => "EOF while parsing a value"
  | .expectedColon => "expected `:`"
  | .expectedListSeparator => "expected `,` or `]`"
  | .expectedObjectSeparator => "expected `,` or `\x7d`"
  | .expectedValue => "expected value"
  | .expectedLiteral => "expected ident"
  | .invalidEscape => "invalid escape"
  | .invalidNumber => "invalid number"
  | .numberOutOfRange => "number out of range"
  | .controlCharacter => "control character (\\u0000-\\u001F) found while parsing a string"
  | .keyNotString => "key must be a string"
  | .loneSurrogate => "lone leading surrogate in hex escape"
  | .unfinishedSurrogatePair => "unexpected end of hex escape"
  | .trailingComma => "trailing comma"
  | .trailingCharacters => "trailing characters"
  | .tooDeep => "recursion limit exceeded"

/-- What stands where something else was asked for. -/
inductive Found
  | null
  | bool (b : Bool)
  | number (n : Numeral)
  | string (s : String)
  | list
  | object

def Found.describe : Found → String
  | .null => "null"
  | .bool b => "boolean `" ++ (if b then "true" else "false") ++ "`"
  | .number (.integer n) => "integer `" ++ decimalInt n ++ "`"
  | .number (.float x) => "floating point `" ++ x.text ++ "`"
  | .string s => "string " ++ quoted s
  | .list => "sequence"
  | .object => "map"

/-- The kind of a value, as it is named in messages. -/
def Value.found : Value → Found
  | .null => .null
  | .bool b => .bool b
  | .number n => .number n
  | .string s => .string s
  | .array _ => .list
  | .object _ => .object

/-- Why a JSON value is not the value that was asked for. -/
inductive Mismatch
  | wrongType (found : Found) (expected : String)
  | wrongValue (found : Found) (expected : String)
  | wrongLength (length : Nat) (expected : String)
  | unknownVariant (name : String) (names : List String)
  | missingField (name : String)
  | duplicateField (name : String)
  /-- A string that its reader refuses, with the reader's own words. -/
  | refused (message : String)

/-- The names a choice allows. -/
def describeNames (names : List String) : String :=
  let ticked := names.map fun n => "`" ++ n ++ "`"
  match ticked with
  | [] => "there are no variants"
  | [one] => "expected " ++ one
  | [one, two] => "expected " ++ one ++ " or " ++ two
  | many => "expected one of " ++ String.intercalate ", " many

def Mismatch.message : Mismatch → String
  | .wrongType found expected => "invalid type: " ++ found.describe ++ ", expected " ++ expected
  | .wrongValue found expected => "invalid value: " ++ found.describe ++ ", expected " ++ expected
  | .wrongLength n expected => "invalid length " ++ decimal n ++ ", expected " ++ expected
  | .unknownVariant name names => "unknown variant `" ++ name ++ "`, " ++ describeNames names
  | .missingField name => "missing field `" ++ name ++ "`"
  | .duplicateField name => "duplicate field `" ++ name ++ "`"
  | .refused message => message

inductive Cause
  | malformed (m : Malformation)
  | mismatched (m : Mismatch)

def Cause.message : Cause → String
  | .malformed m => m.message
  | .mismatched m => m.message

/-- A failure and its place: the text from there on, and a count of bytes of it
that had been consumed already. Line and column are made from it at the end,
when the whole text is at hand. -/
structure Failure where
  cause : Cause
  rest : List Char
  ahead : Nat
  /-- The text from which those go on who pay the failure no heed. -/
  resume : List Char

/-- Fails for a malformation at the place reached. -/
def failHere {α : Type} (m : Malformation) (rest : List Char) : Except Failure α :=
  .error ⟨.malformed m, rest, 0, rest⟩

/-- Fails for a malformation one byte further, or at the end of the text. -/
def failNext {α : Type} (m : Malformation) (rest : List Char) : Except Failure α :=
  .error ⟨.malformed m, rest, 1, rest⟩

/-- Fails for a malformation behind the first byte of the rest, which has been
consumed. A character of more bytes stays: what is left of it fits nowhere. -/
def failBehind {α : Type} (m : Malformation) : List Char → Except Failure α
  | [] => failNext m []
  | c :: cs => .error ⟨.malformed m, c :: cs, 1, if c.utf8Size = 1 then cs else c :: cs⟩

def failMismatch {α : Type} (m : Mismatch) (rest : List Char) : Except Failure α :=
  .error ⟨.mismatched m, rest, 0, rest⟩

/-- Line and column after a count of bytes, from a line and column at the
start. -/
def place : List Char → Nat → Nat → Nat → Nat × Nat
  | [], _, line, column => (line, column)
  | c :: cs, bytes, line, column =>
    if bytes = 0 then (line, column)
    else if c = '\n' then place cs (bytes - 1) (line + 1) 0
    else if bytes ≤ c.utf8Size then (line, column + bytes)
    else place cs (bytes - c.utf8Size) line (column + c.utf8Size)

/-- Why a whole text was refused, and where. -/
structure ParseError where
  cause : Cause
  line : Nat
  column : Nat

/-- A failure in a text, by line and column. -/
def Failure.locate (text : List Char) (f : Failure) : ParseError :=
  let (line, column) := place text (Utf8.byteLength text - Utf8.byteLength f.rest + f.ahead) 1 0
  ⟨f.cause, line, column⟩

def ParseError.message (e : ParseError) : String :=
  e.cause.message ++ " at line " ++ decimal e.line ++ " column " ++ decimal e.column

/-- The text is JSON, but not the value that was asked for. -/
def ParseError.isMismatch (e : ParseError) : Bool :=
  match e.cause with
  | .malformed _ => false
  | .mismatched _ => true

end ChatServer.Json

