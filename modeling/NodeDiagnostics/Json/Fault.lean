import NodeDiagnostics.Json.Basic

/-!
Why JSON text cannot be read, and where. A reader that gives up hands out the characters that it
had still before it; together with the whole text they tell the line and the column.
-/
namespace NodeDiagnostics.Json

inductive Cause where
  | openArray
  | openObject
  | openString
  | noMore
  | notWord
  | notValue
  | noColon
  | noCommaInArray
  | noCommaInObject
  | badEscape
  | badNumber
  | hugeNumber
  | badBytes
  | controlCharacter
  | nameNotText
  | loneSurrogate
  | halfPair
  | trailingComma
  | trailingText
  | tooDeep
  | wrongType (found expected : String)
  | wrongValue (found expected : String)
deriving DecidableEq, Repr

def Cause.text : Cause → String
  | openArray => "EOF while parsing a list"
  | openObject => "EOF while parsing an object"
  | openString => "EOF while parsing a string"
  | noMore => "EOF while parsing a value"
  | notWord => "expected ident"
  | notValue => "expected value"
  | noColon => "expected `:`"
  | noCommaInArray => "expected `,` or `]`"
  | noCommaInObject => "expected `,` or `\x7d`"
  | badEscape => "invalid escape"
  | badNumber => "invalid number"
  | hugeNumber => "number out of range"
  | badBytes => "invalid unicode code point"
  | controlCharacter => "control character (\\u0000-\\u001F) found while parsing a string"
  | nameNotText => "key must be a string"
  | loneSurrogate => "lone leading surrogate in hex escape"
  | halfPair => "unexpected end of hex escape"
  | trailingComma => "trailing comma"
  | trailingText => "trailing characters"
  | tooDeep => "recursion limit exceeded"
  | wrongType found expected => "invalid type: " ++ found ++ ", expected " ++ expected
  | wrongValue found expected => "invalid value: " ++ found ++ ", expected " ++ expected

/-- A cause and the characters behind the place that it concerns. -/
structure Fault where
  cause : Cause
  rest : List Char
deriving DecidableEq, Repr

abbrev Reader (α : Type) := List Char → Except Fault (α × List Char)

def fail {α : Type} (cause : Cause) (cs : List Char) : Except Fault α := .error ⟨cause, cs⟩

def Reader.map {α β : Type} (f : α → β) (r : Reader α) : Reader β := fun cs =>
  (r cs).map fun (a, rest) => (f a, rest)

/-- A cause with the line, counted from one, and the number of characters in that line up to the
place that it concerns. -/
structure Flaw where
  cause : Cause
  line : Nat
  column : Nat
deriving DecidableEq, Repr

def Fault.locate (text : List Char) (fault : Fault) : Flaw :=
  let before := text.take (text.length - fault.rest.length)
  ⟨fault.cause, 1 + before.count '\n', (before.reverse.takeWhile (· ≠ '\n')).length⟩

def Flaw.text (flaw : Flaw) : String :=
  flaw.cause.text ++ " at line " ++ toString flaw.line ++ " column " ++ toString flaw.column

example : (Fault.locate ['a', '\n', 'b', 'c'] ⟨.notValue, ['c']⟩).text =
    "expected value at line 2 column 1" := by decide +kernel

end NodeDiagnostics.Json
