import Relay.Json.Printer
import Relay.Shape
import Relay.Text.Utf8

/-!
Why a text is not the JSON that was asked for, and where. A reader that fails names the text it had
not read yet; the place in the document follows from what remains.
-/

namespace Relay.Json

inductive Fault
  | endInValue
  | endInList
  | endInObject
  | endInString
  | expectedColon
  | expectedListEnd
  | expectedObjectEnd
  | expectedWord
  | expectedValue
  | invalidEscape
  | invalidNumber
  | numberOutOfRange
  | controlCharacter
  | nameNotText
  | loneSurrogate
  | endInEscape
  | trailingComma
  | trailingCharacters
  | tooDeep
  | wrongType (found : Shape) (expected : String)
  | wrongValue (found : Shape) (expected : String)
  | missingField (name : String)
  | duplicateField (name : String)
  | wrongLength (length : Nat) (expected : String)
deriving DecidableEq, Repr

def Fault.message : Fault → String
  | .endInValue => "EOF while parsing a value"
  | .endInList => "EOF while parsing a list"
  | .endInObject => "EOF while parsing an object"
  | .endInString => "EOF while parsing a string"
  | .expectedColon => "expected \x60:\x60"
  | .expectedListEnd => "expected \x60,\x60 or \x60]\x60"
  | .expectedObjectEnd => "expected \x60,\x60 or \x60\x7d\x60"
  | .expectedWord => "expected ident"
  | .expectedValue => "expected value"
  | .invalidEscape => "invalid escape"
  | .invalidNumber => "invalid number"
  | .numberOutOfRange => "number out of range"
  | .controlCharacter => "control character (\\u0000-\\u001F) found while parsing a string"
  | .nameNotText => "key must be a string"
  | .loneSurrogate => "lone leading surrogate in hex escape"
  | .endInEscape => "unexpected end of hex escape"
  | .trailingComma => "trailing comma"
  | .trailingCharacters => "trailing characters"
  | .tooDeep => "recursion limit exceeded"
  | .wrongType found expected => s!"invalid type: {found.describe}, expected {expected}"
  | .wrongValue found expected => s!"invalid value: {found.describe}, expected {expected}"
  | .missingField name => s!"missing field \x60{name}\x60"
  | .duplicateField name => s!"duplicate field \x60{name}\x60"
  | .wrongLength n expected => s!"invalid length {n}, expected {expected}"

/-- A failure, the text that had not been read, and how many bytes of that text count as read. -/
structure Misread where
  fault : Fault
  rest : List Char
  extra : Nat
deriving DecidableEq, Repr

def failAt {α : Type} (fault : Fault) (rest : List Char) : Except Misread α :=
  .error ⟨fault, rest, 0⟩

def failNext {α : Type} (fault : Fault) (rest : List Char) : Except Misread α :=
  .error ⟨fault, rest, 1⟩

abbrev Reader (α : Type) := List Char → Except Misread (α × List Char)

/-- Lines count from one, bytes within a line from zero. -/
structure Position where
  line : Nat
  column : Nat
deriving DecidableEq, Repr

def Position.after (bs : Bytes) : Position :=
  ⟨1 + bs.count 10, (bs.reverse.takeWhile (· ≠ 10)).length⟩

structure Error where
  fault : Fault
  position : Position
deriving DecidableEq, Repr

def Error.message (e : Error) : String :=
  s!"{e.fault.message} at line {e.position.line} column {e.position.column}"

def Misread.place (text : List Char) (m : Misread) : Error :=
  let bytes := text.flatMap String.utf8EncodeChar
  let left := (m.rest.flatMap String.utf8EncodeChar).length
  ⟨m.fault, Position.after (bytes.take (bytes.length - left + m.extra))⟩

end Relay.Json
