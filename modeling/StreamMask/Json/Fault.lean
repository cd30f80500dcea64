/-
What can be wrong with a JSON text, and where.
-/
import StreamMask.IoFault

namespace StreamMask

namespace Json

/-- What is wrong with a JSON text: it is not well formed, or it does not say what is expected. -/
inductive Cause where
  | endInList
  | endInObject
  | endInString
  | endInValue
  | expectedColon
  | expectedListCommaOrEnd
  | expectedObjectCommaOrEnd
  | expectedIdent
  | expectedValue
  | invalidEscape
  | invalidNumber
  | numberOutOfRange
  | invalidCodePoint
  | controlCharacter
  | keyNotString
  | loneSurrogate
  | endOfHexEscape
  | trailingComma
  | trailingCharacters
  | nestedTooDeep
  | invalidType (found expected : String)
  | invalidLength (count : Nat) (expected : String)
  | missingField (name : String)
  | duplicateField (name : String)
  | noVariant (type : String)
  /-- Whoever the text is read for breaks off, for a reason of its own. -/
  | brokenOff (reason : String)
deriving DecidableEq, Repr

def Cause.message : Cause → String
  | endInList => "EOF while parsing a list"
  | endInObject => "EOF while parsing an object"
  | endInString => "EOF while parsing a string"
  | endInValue => "EOF while parsing a value"
  | expectedColon => "expected `:`"
  | expectedListCommaOrEnd => "expected `,` or `]`"
  | expectedObjectCommaOrEnd => "expected `,` or `\x7d`"
  | expectedIdent => "expected ident"
  | expectedValue => "expected value"
  | invalidEscape => "invalid escape"
  | invalidNumber => "invalid number"
  | numberOutOfRange => "number out of range"
  | invalidCodePoint => "invalid unicode code point"
  | controlCharacter => "control character (\\u0000-\\u001F) found while parsing a string"
  | keyNotString => "key must be a string"
  | loneSurrogate => "lone leading surrogate in hex escape"
  | endOfHexEscape => "unexpected end of hex escape"
  | trailingComma => "trailing comma"
  | trailingCharacters => "trailing characters"
  | nestedTooDeep => "recursion limit exceeded"
  | invalidType found expected => "invalid type: " ++ found ++ ", expected " ++ expected
  | invalidLength count expected => "invalid length " ++ toString count ++ ", expected " ++ expected
  | missingField name => "missing field `" ++ name ++ "`"
  | duplicateField name => "duplicate field `" ++ name ++ "`"
  | noVariant type => "data did not match any variant of untagged enum " ++ type
  | brokenOff reason => reason

/-- A place in a text: its line, from one, and how many bytes of the line come before it. -/
structure Place where
  line : Nat
  column : Nat
deriving DecidableEq, Repr

/-- A fault of a JSON text, at a place if one is known, or of the world it was read from or
written to. -/
inductive Fault where
  | text (cause : Cause) (place : Option Place)
  | io (fault : IoFault)
deriving DecidableEq, Repr

def Fault.message : Fault → String
  | text cause none => cause.message
  | text cause (some place) =>
    cause.message ++ " at line " ++ toString place.line ++ " column " ++ toString place.column
  | io fault => fault.message

end Json
end StreamMask
