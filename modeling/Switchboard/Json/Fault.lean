/-!
# What a JSON reader objects to

`SyntaxFault` says why a text is no JSON; `Found` says what stood where something else was wanted.
-/

namespace Switchboard

/-- Why a text is no JSON. -/
inductive SyntaxFault where
  | endInValue
  | endInList
  | endInObject
  | endInString
  | expectedValue
  | expectedIdent
  | expectedColon
  | expectedListCommaOrEnd
  | expectedObjectCommaOrEnd
  | keyNotString
  | trailingComma
  | trailingCharacters
  | invalidNumber
  | numberOutOfRange
  | invalidEscape
  | unpairedSurrogate
  | unfinishedSurrogate
  | controlCharacter
  | invalidCodePoint
  | tooDeep
deriving DecidableEq, Repr, Inhabited

namespace SyntaxFault

def message : SyntaxFault → String
  | .endInValue => "EOF while parsing a value"
  | .endInList => "EOF while parsing a list"
  | .endInObject => "EOF while parsing an object"
  | .endInString => "EOF while parsing a string"
  | .expectedValue => "expected value"
  | .expectedIdent => "expected ident"
  | .expectedColon => "expected `:`"
  | .expectedListCommaOrEnd => "expected `,` or `]`"
  | .expectedObjectCommaOrEnd => "expected `,` or `\x7d`"
  | .keyNotString => "key must be a string"
  | .trailingComma => "trailing comma"
  | .trailingCharacters => "trailing characters"
  | .invalidNumber => "invalid number"
  | .numberOutOfRange => "number out of range"
  | .invalidEscape => "invalid escape"
  | .unpairedSurrogate => "lone leading surrogate in hex escape"
  | .unfinishedSurrogate => "unexpected end of hex escape"
  | .controlCharacter => "control character (\\u0000-\\u001F) found while parsing a string"
  | .invalidCodePoint => "invalid unicode code point"
  | .tooDeep => "recursion limit exceeded"

end SyntaxFault

end Switchboard
