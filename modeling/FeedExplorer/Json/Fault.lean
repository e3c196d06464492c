import FeedExplorer.Number.Sum
import FeedExplorer.Text.Hex

/-!
# Faults of a data text

Why a text is not the text of a value, and where. A fault is noticed either behind the byte that
was taken last or at the byte that was looked at next.
-/

namespace FeedExplorer.Json

open scoped Number

inductive Fault.Cause where
  | endInList
  | endInObject
  | endInString
  | endInValue
  | expectedColon
  | expectedListCommaOrEnd
  | expectedObjectCommaOrEnd
  | expectedWord
  | expectedValue
  | invalidEscape
  | invalidNumber
  | numberOutOfRange
  | controlCharacter
  | keyNotString
  | loneSurrogate
  | trailingComma
  | trailingCharacters
  | endOfHexEscape
  | tooDeep
  | mismatch (text : String)
  /-- A fault of an embedded text, in words that tell its place there. -/
  | embedded (words : String)
  deriving DecidableEq, Repr

/-- A cause, the number of bytes not yet taken, and whether the next one was looked at. -/
structure Fault where
  cause : Fault.Cause
  unread : Nat
  peeked : Bool
  deriving DecidableEq, Repr

def Fault.Cause.message : Fault.Cause → String
  | .endInList => "EOF while parsing a list"
  | .endInObject => "EOF while parsing an object"
  | .endInString => "EOF while parsing a string"
  | .endInValue => "EOF while parsing a value"
  | .expectedColon => "expected `:`"
  | .expectedListCommaOrEnd => "expected `,` or `]`"
  | .expectedObjectCommaOrEnd => "expected `,` or `\x7d`"
  | .expectedWord => "expected ident"
  | .expectedValue => "expected value"
  | .invalidEscape => "invalid escape"
  | .invalidNumber => "invalid number"
  | .numberOutOfRange => "number out of range"
  | .controlCharacter => "control character (\\u0000-\\u001F) found while parsing a string"
  | .keyNotString => "key must be a string"
  | .loneSurrogate => "lone leading surrogate in hex escape"
  | .trailingComma => "trailing comma"
  | .trailingCharacters => "trailing characters"
  | .endOfHexEscape => "unexpected end of hex escape"
  | .tooDeep => "recursion limit exceeded"
  | .mismatch text => text
  | .embedded words => words

/-- The text ended too early. -/
def Fault.Cause.isEnd : Fault.Cause → Bool
  | .endInList | .endInObject | .endInString | .endInValue => true
  | _ => false

/-- The number of bytes of some characters. -/
def byteCount (cs : List Char) : Nat :=
  (cs.map Char.utf8Size).sum

/-- A line, from one, and a number of bytes in it. -/
structure Position where
  line : Nat
  column : Nat
  deriving DecidableEq, Repr

/-- The position reached after `bytes` bytes of a text. -/
def Position.advance (p : Position) : List Char → Nat → Position
  | [], _ => p
  | c :: cs, bytes =>
    if bytes = 0 then p
    else if c = '\n' then Position.advance ⟨p.line + 1, 0⟩ cs (bytes - 1)
    else if bytes < c.utf8Size then ⟨p.line, p.column + bytes⟩
    else Position.advance ⟨p.line, p.column + c.utf8Size⟩ cs (bytes - c.utf8Size)

/-- Where a fault lies in the text it was found in. -/
def Fault.position (text : List Char) (f : Fault) : Position :=
  let size := byteCount text
  let index := size - f.unread
  Position.advance ⟨1, 0⟩ text (if f.peeked then min size (index + 1) else index)

/-- The cause, followed by the place, unless the cause tells it. -/
def Fault.message (text : List Char) (f : Fault) : String :=
  match f.cause with
  | .embedded words => words
  | cause =>
    let p := f.position text
    s!"{cause.message} at line {p.line} column {p.column}"

/-- A fault behind the last byte taken. -/
def Fault.behind (cause : Fault.Cause) (rest : List Char) : Fault :=
  ⟨cause, byteCount rest, false⟩

/-- A fault at the next byte. -/
def Fault.atNext (cause : Fault.Cause) (rest : List Char) : Fault :=
  ⟨cause, byteCount rest, true⟩

end FeedExplorer.Json
