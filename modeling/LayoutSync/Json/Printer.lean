import LayoutSync.Json.Real
import LayoutSync.Json.Value

namespace LayoutSync.Json

def hexDigits (n : Nat) : List Char := Nat.toDigits 16 n

def escapeChar (c : Char) : List Char :=
  if c = '"' then "\\\"".toList
  else if c = '\\' then "\\\\".toList
  else if c = '\x08' then "\\b".toList
  else if c = '\t' then "\\t".toList
  else if c = '\n' then "\\n".toList
  else if c = '\x0c' then "\\f".toList
  else if c = '\r' then "\\r".toList
  else if c.toNat < 0x10 then "\\u000".toList ++ hexDigits c.toNat
  else if c.toNat < 0x20 then "\\u00".toList ++ hexDigits c.toNat
  else [c]

def printString (s : String) : List Char := '"' :: s.toList.flatMap escapeChar ++ ['"']

def printNumber : Number → List Char
  | .integer i => (toString i).toList
  | .real x => realText x

def lineStart (depth : Nat) : List Char := '\n' :: List.replicate (4 * depth) ' '

mutual

def Value.print (depth : Nat) : Value → List Char
  | .null => "null".toList
  | .bool b => (if b then "true" else "false").toList
  | .number n => printNumber n
  | .string s => printString s
  | .array [] => "[]".toList
  | .array (v :: vs) =>
    '[' :: lineStart (depth + 1) ++ v.print (depth + 1) ++ printItems (depth + 1) vs
      ++ lineStart depth ++ [']']
  | .object [] => "\x7b\x7d".toList
  | .object ((k, v) :: ms) =>
    '{' :: lineStart (depth + 1) ++ printString k ++ ": ".toList ++ v.print (depth + 1)
      ++ printMembers (depth + 1) ms ++ lineStart depth ++ ['}']

def printItems (depth : Nat) : List Value → List Char
  | [] => []
  | v :: vs => ',' :: lineStart depth ++ v.print depth ++ printItems depth vs

def printMembers (depth : Nat) : List (String × Value) → List Char
  | [] => []
  | (k, v) :: ms =>
    ',' :: lineStart depth ++ printString k ++ ": ".toList ++ v.print depth
      ++ printMembers depth ms

end

def Value.printFile (v : Value) : String := String.ofList (v.print 0 ++ ['\n'])

end LayoutSync.Json
