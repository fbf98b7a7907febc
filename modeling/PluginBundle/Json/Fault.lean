/-!
# What is wrong with a JSON text

A fault names a problem and the place where reading stopped. The place is kept as the part of the
text that was not read; line and column are worked out from it at the end. Columns count bytes.
-/

namespace PluginBundle.Json

/-- Why a text is not JSON. -/
inductive Problem where
  | endInValue
  | endInList
  | endInObject
  | endInString
  | expectedValue
  | expectedIdent
  | expectedColon
  | expectedCommaOrBracket
  | expectedCommaOrBrace
  | keyNotString
  | trailingComma
  | trailingCharacters
  | invalidNumber
  | numberOutOfRange
  | invalidEscape
  | unpairedEscape
  | loneSurrogate
  | controlCharacter
  | tooDeep
  deriving DecidableEq, Repr

def Problem.describe : Problem → String
  | .endInValue => "EOF while parsing a value"
  | .endInList => "EOF while parsing a list"
  | .endInObject => "EOF while parsing an object"
  | .endInString => "EOF while parsing a string"
  | .expectedValue => "expected value"
  | .expectedIdent => "expected ident"
  | .expectedColon => "expected `:`"
  | .expectedCommaOrBracket => "expected `,` or `]`"
  | .expectedCommaOrBrace => "expected `,` or `\x7d`"
  | .keyNotString => "key must be a string"
  | .trailingComma => "trailing comma"
  | .trailingCharacters => "trailing characters"
  | .invalidNumber => "invalid number"
  | .numberOutOfRange => "number out of range"
  | .invalidEscape => "invalid escape"
  | .unpairedEscape => "unexpected end of hex escape"
  | .loneSurrogate => "lone leading surrogate in hex escape"
  | .controlCharacter => "control character (\\u0000-\\u001F) found while parsing a string"
  | .tooDeep => "recursion limit exceeded"

/-- A problem and where it was met: `ahead` bytes into the text that was still to be read. -/
structure Fault where
  problem : Problem
  rest : List Char
  ahead : Nat
  deriving DecidableEq, Repr

/-- A line, and the number of bytes of it. -/
structure Position where
  line : Nat
  column : Nat
  deriving DecidableEq, Repr

/-- The position after a byte. -/
def Position.step (p : Position) (byte : UInt8) : Position :=
  if byte = 10 then ⟨p.line + 1, 0⟩ else ⟨p.line, p.column + 1⟩

/-- The position after a number of bytes, or at the end of a shorter text. -/
def Position.after (text : String) (bytes : Nat) : Position :=
  (text.toUTF8.toList.take bytes).foldl Position.step ⟨1, 0⟩

/-- The place of a fault in the text that was read. -/
def Fault.position (text : String) (f : Fault) : Position :=
  .after text (text.utf8ByteSize - (String.ofList f.rest).utf8ByteSize + f.ahead)

/-- The message for a fault in a text. -/
def Fault.message (text : String) (f : Fault) : String :=
  let p := f.position text
  f.problem.describe ++ " at line " ++ Nat.repr p.line ++ " column " ++ Nat.repr p.column

end PluginBundle.Json
