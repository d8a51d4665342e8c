import LayoutSync.Pattern.Cursor
import LayoutSync.Pattern.Term
import LayoutSync.Text.Word

namespace LayoutSync.Pattern

open Text

def flag? (c : Char) : Option Flag :=
  if c = 'i' then some .caseInsensitive
  else if c = 'm' then some .multiLine
  else if c = 's' then some .dotMatchesNewLine
  else if c = 'U' then some .swapGreed
  else if c = 'u' then some .unicode
  else if c = 'R' then some .crlf
  else if c = 'x' then some .ignoreWhitespace
  else none

def flagItem? (c : Char) : Option FlagItem :=
  if c = '-' then some .negation else (flag? c).map .flag

def scanFlags : Nat → List (FlagItem × Span) → Cursor → Except Fault (List FlagItem × Cursor)
  | 0, _, c => fail .flagEnd c.here
  | fuel + 1, items, c =>
    match c.peek? with
    | none => fail .flagEnd c.here
    | some x =>
      if x = ':' ∨ x = ')' then
        match items.getLast? with
        | some (.negation, span) => fail .flagDanglingNegation span
        | _ => .ok (items.map Prod.fst, c)
      else
        match flagItem? x with
        | none => fail .flagUnknown c.charSpan
        | some item =>
          match items.find? (·.1 = item) with
          | some (_, earlier) =>
            .error ⟨if item = .negation then .flagRepeatedNegation else .flagDuplicate,
              c.charSpan, some earlier⟩
          | none => scanFlags fuel (items ++ [(item, c.charSpan)]) c.bump

def isNameChar (isFirst : Bool) (c : Char) : Bool :=
  if isFirst then c = '_' || isAlphabetic c
  else c = '_' || c = '.' || c = '[' || c = ']' || isAlphanumeric c

def scanGroupName : Nat → Bool → Cursor → Except Fault (List Char × Cursor)
  | 0, _, c => fail .groupNameEnd c.here
  | fuel + 1, isFirst, c =>
    match c.peek? with
    | none => fail .groupNameEnd c.here
    | some x =>
      if x = '>' then .ok ([], c)
      else if isNameChar isFirst x then do
        let (cs, c) ← scanGroupName fuel false c.bump
        return (x :: cs, c)
      else fail .groupNameInvalid c.charSpan

inductive Opening where
  | flags (span : Span) (items : List FlagItem)
  | group (span : Span) (items : List FlagItem)
  | named (span : Span) (name : String) (nameSpan : Span)

def lookAroundStarts : List String := ["?=", "?!", "?<=", "?<!"]

def scanOpeningName (span : Span) (c : Cursor) : Except Fault (Opening × Cursor) := do
  let (name, e) ← scanGroupName (c.rest.length + 1) true c
  if name.isEmpty then fail .groupNameEmpty c.here
  else return (.named span (String.ofList name) (e.since c.place), e.bump)

def scanGroup (c : Cursor) : Except Fault (Opening × Cursor) :=
  let span := c.charSpan
  let c := c.next
  match lookAroundStarts.findSome? c.pass? with
  | some e => fail .lookAround (e.since span.start)
  | none =>
    match (c.pass? "?P<").or (c.pass? "?<") with
    | some e => scanOpeningName span e
    | none =>
      match c.pass? "?" with
      | none => .ok (.group span [], c)
      | some e =>
        if e.atEnd then fail .groupUnclosed span
        else do
          let (items, e) ← scanFlags (e.rest.length + 1) [] e
          let isFlags := e.peek? = some ')'
          let e := e.bump
          if isFlags then
            if items.isEmpty then fail .nothingToRepeat c.here
            else return (.flags (e.since span.start) items, e)
          else return (.group span items, e)

end LayoutSync.Pattern
