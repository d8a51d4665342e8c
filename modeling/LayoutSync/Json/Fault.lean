import LayoutSync.Text.Bytes
import LayoutSync.Text.Quoted
import LayoutSync.Json.Real
import LayoutSync.Json.Value

namespace LayoutSync.Json

open Text

inductive Found where
  | null
  | bool (b : Bool)
  | number (n : Number)
  | string (s : String)
  | array
  | object

def Found.describe : Found → String
  | null => "null"
  | bool b => "boolean `" ++ toString b ++ "`"
  | number (.integer i) => "integer `" ++ toString i ++ "`"
  | number (.real x) => "floating point `" ++ String.ofList (realText x) ++ "`"
  | string s => "string " ++ quoted s
  | array => "sequence"
  | object => "map"

inductive Cause where
  | endInList | endInObject | endInString | endInValue
  | noColon | noListComma | noObjectComma | noIdentifier | noValue
  | badEscape | badNumber | numberRange | controlCharacter | keyNotString
  | loneSurrogate | endOfHexEscape | trailingComma | trailingCharacters | tooDeep
  | mismatch (found : Found) (expected : String)
  | duplicateField (name : String)
  | missingField (name : String)
  | wrongLength (length : Nat) (expected : String)
  | unknownVariant (name : String) (expected : String)

def Cause.message : Cause → String
  | endInList => "EOF while parsing a list"
  | endInObject => "EOF while parsing an object"
  | endInString => "EOF while parsing a string"
  | endInValue => "EOF while parsing a value"
  | noColon => "expected `:`"
  | noListComma => "expected `,` or `]`"
  | noObjectComma => "expected `,` or `\x7d`"
  | noIdentifier => "expected ident"
  | noValue => "expected value"
  | badEscape => "invalid escape"
  | badNumber => "invalid number"
  | numberRange => "number out of range"
  | controlCharacter => "control character (\\u0000-\\u001F) found while parsing a string"
  | keyNotString => "key must be a string"
  | loneSurrogate => "lone leading surrogate in hex escape"
  | endOfHexEscape => "unexpected end of hex escape"
  | trailingComma => "trailing comma"
  | trailingCharacters => "trailing characters"
  | tooDeep => "recursion limit exceeded"
  | mismatch f e => "invalid type: " ++ f.describe ++ ", expected " ++ e
  | duplicateField n => "duplicate field `" ++ n ++ "`"
  | missingField n => "missing field `" ++ n ++ "`"
  | wrongLength n e => "invalid length " ++ toString n ++ ", expected " ++ e
  | unknownVariant n e => "unknown variant `" ++ n ++ "`, expected " ++ e

/-- A fault and its place, given by the bytes of the source that lie behind it. -/
structure Fault where
  cause : Cause
  left : Nat

namespace Fault

def before (cause : Cause) (rest : List Char) : Fault := ⟨cause, utf8Length rest⟩

def within (cause : Cause) (rest : List Char) : Fault := ⟨cause, utf8Length rest - 1⟩

end Fault

structure Position where
  line : Nat
  column : Nat
deriving DecidableEq, Repr

namespace Position

/-- Moves over characters that fit into `budget` bytes; columns count bytes. -/
def advance (p : Position) : Nat → List Char → Position
  | _, [] => p
  | budget, c :: cs =>
    if c.utf8Size ≤ budget then
      advance (if c = '\n' then ⟨p.line + 1, 0⟩ else ⟨p.line, p.column + c.utf8Size⟩)
        (budget - c.utf8Size) cs
    else ⟨p.line, p.column + budget⟩

def ofOffset (source : List Char) (offset : Nat) : Position := advance ⟨1, 0⟩ offset source

end Position

def Fault.message (source : String) (f : Fault) : String :=
  let cs := source.toList
  let p := Position.ofOffset cs (utf8Length cs - f.left)
  f.cause.message ++ " at line " ++ toString p.line ++ " column " ++ toString p.column

end LayoutSync.Json
