/-!
# Defects of a JSON text

The ways in which a text stops being JSON, each with its wording.
-/

namespace EventMachine.Json

inductive Defect
  | endInValue
  | endInObject
  | endInList
  | endInText
  | noValue
  | misspelt
  | noColon
  | noMemberSeparator
  | noItemSeparator
  | trailingComma
  | trailingCharacters
  | keyNotText
  | badNumber
  | hugeNumber
  | controlCharacter
  | badEscape
  | loneSurrogate
  | unfinishedPair
  deriving DecidableEq, Repr

def Defect.message : Defect → String
  | endInValue => "EOF while parsing a value"
  | endInObject => "EOF while parsing an object"
  | endInList => "EOF while parsing a list"
  | endInText => "EOF while parsing a string"
  | noValue => "expected value"
  | misspelt => "expected ident"
  | noColon => "expected `:`"
  | noMemberSeparator => "expected `,` or `\x7d`"
  | noItemSeparator => "expected `,` or `]`"
  | trailingComma => "trailing comma"
  | trailingCharacters => "trailing characters"
  | keyNotText => "key must be a string"
  | badNumber => "invalid number"
  | hugeNumber => "number out of range"
  | controlCharacter => "control character (\\u0000-\\u001F) found while parsing a string"
  | badEscape => "invalid escape"
  | loneSurrogate => "lone leading surrogate in hex escape"
  | unfinishedPair => "unexpected end of hex escape"

end EventMachine.Json
