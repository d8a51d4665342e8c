import LayoutSync.Pattern.Fault
import LayoutSync.Text.Blank

namespace LayoutSync.Pattern

open Text

structure Cursor where
  rest : List Char
  place : Place := {}
  ignoreSpace : Bool := false

namespace Cursor

variable (c : Cursor)

def atEnd : Bool := c.rest.isEmpty

def peek? : Option Char := c.rest.head?

def second? : Option Char := c.rest[1]?

def bump : Cursor :=
  match c.rest with
  | [] => c
  | x :: r => { c with rest := r, place := c.place.after x }

def advance : Nat → Cursor → Cursor
  | 0, c => c
  | n + 1, c => advance n c.bump

def here : Span := .at c.place

def charSpan : Span := ⟨c.place, c.bump.place⟩

def since (start : Place) : Span := ⟨start, c.place⟩

def startsWith (s : String) : Bool := s.toList.isPrefixOf c.rest

def pass? (s : String) : Option Cursor :=
  if c.startsWith s then some (advance s.length c) else none

def skipIgnored : Bool → Place → List Char → Place × List Char
  | _, p, [] => (p, [])
  | inComment, p, x :: r =>
    if inComment then skipIgnored (x ≠ '\n') (p.after x) r
    else if isBlank x then skipIgnored false (p.after x) r
    else if x = '#' then skipIgnored true (p.after x) r
    else (p, x :: r)

def skipSpace : Cursor :=
  if c.ignoreSpace then
    let (place, rest) := skipIgnored false c.place c.rest
    { c with place, rest }
  else c

def next : Cursor := c.bump.skipSpace

def secondPastSpace? : Option Char :=
  if c.ignoreSpace then look false c.bump.rest else c.second?
where
  look (inComment : Bool) (cs : List Char) : Option Char :=
    match find inComment cs with
    | some x => some x
    | none => cs.head?
  find : Bool → List Char → Option Char
    | _, [] => none
    | inComment, x :: r =>
      if isBlank x then find inComment r
      else if !inComment && x = '#' then find true r
      else some x

end Cursor

end LayoutSync.Pattern
