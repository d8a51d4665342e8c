import LayoutSync.Text.Bytes
import LayoutSync.Text.Ranges
import LayoutSync.Markup.Fault

namespace LayoutSync.Markup

open Text

def escapeChar : Char → List Char
  | '<' => "&lt;".toList
  | '>' => "&gt;".toList
  | '&' => "&amp;".toList
  | '\'' => "&apos;".toList
  | '"' => "&quot;".toList
  | c => [c]

def escape (cs : List Char) : List Char := cs.flatMap escapeChar

def namedEntity? (name : List Char) : Option Char :=
  if name = "lt".toList then some '<'
  else if name = "gt".toList then some '>'
  else if name = "amp".toList then some '&'
  else if name = "apos".toList then some '\''
  else if name = "quot".toList then some '"'
  else none

def hexadecimal (cs : List Char) : Except EntityFault Nat :=
  if 6 < utf8Length cs then .error .longHexadecimal
  else cs.foldlM (fun n c =>
    match hexDigit? c with
    | some d => .ok (16 * n + d)
    | none => .error (.hexadecimalDigit (firstByte c))) 0

def decimal (cs : List Char) : Except EntityFault Nat :=
  if 7 < utf8Length cs then .error .longDecimal
  else cs.foldlM (fun n c =>
    if c.isDigit then .ok (10 * n + (c.toNat - '0'.toNat))
    else .error (.decimalDigit (firstByte c))) 0

def charOfCode (start stop n : Nat) : Except EntityFault Char :=
  if n = 0 then .error (.null start stop)
  else if n.isValidChar then .ok (Char.ofNat n)
  else .error (.notScalar n)

def resolve (start stop : Nat) : List Char → Except EntityFault Char
  | '#' :: 'x' :: digits => do charOfCode start stop (← hexadecimal digits)
  | '#' :: digits => do charOfCode start stop (← decimal digits)
  | name =>
    match namedEntity? name with
    | some c => .ok c
    | none => .error (.unknown (start + 1) stop (String.ofList name))

def endsReference (c : Char) : Bool := c = '&' || c = ';'

def unescapeFrom (total position : Nat) (cs : List Char) : Except EntityFault (List Char) :=
  match cs with
  | [] => .ok []
  | c :: r =>
    if c = '&' then
      let name := r.takeWhile (!endsReference ·)
      match h : r.dropWhile (!endsReference ·) with
      | ';' :: rest => do
        let stop := position + 1 + utf8Length name
        let x ← resolve position stop name
        let xs ← unescapeFrom total (stop + 1) rest
        return x :: xs
      | _ => .error (.unterminated position total)
    else do
      let xs ← unescapeFrom total (position + c.utf8Size) r
      return c :: xs
termination_by cs.length
decreasing_by
  · have := (List.dropWhile_sublist (l := r) (p := (!endsReference ·))).length_le
    simp only [h, List.length_cons] at this ⊢
    omega
  · simp

def unescape (cs : List Char) : Except EntityFault (List Char) := unescapeFrom (utf8Length cs) 0 cs

end LayoutSync.Markup
