import LayoutSync.Pattern.Cursor
import LayoutSync.Pattern.Term
import LayoutSync.Text.Ranges

namespace LayoutSync.Pattern

open Text

def scalar? (digits : List Char) : Option Char :=
  let n := hexValue digits
  if h : n.isValidChar then some (Char.ofNatAux n h) else none

def scanHexDigits : Nat → Bool → Cursor → Except Fault (List Char × Cursor)
  | 0, _, c => .ok ([], c)
  | n + 1, first, c =>
    let c := if first then c else c.next
    match c.peek? with
    | none => fail .escapeEnd c.here
    | some x =>
      if (hexDigit? x).isSome then do
        let (ds, c) ← scanHexDigits n false c
        return (x :: ds, c)
      else fail .hexDigit c.charSpan

def scanBracedHex (brace : Place) : Nat → Cursor → Except Fault (List Char × Cursor)
  | 0, c => fail .escapeEnd (c.since brace)
  | fuel + 1, c =>
    let c := c.next
    match c.peek? with
    | none => fail .escapeEnd (c.since brace)
    | some x =>
      if x = '}' then .ok ([], c)
      else if (hexDigit? x).isSome then do
        let (ds, c) ← scanBracedHex brace fuel c
        return (x :: ds, c)
      else fail .hexDigit c.charSpan

def hexLength (kind : Char) : Nat := if kind = 'x' then 2 else if kind = 'u' then 4 else 8

def scanHex (start : Place) (kind : Char) (c : Cursor) : Except Fault (Term × Cursor) :=
  let c := c.next
  if c.atEnd then fail .escapeEnd c.here
  else if c.peek? = some '{' then do
    let (ds, e) ← scanBracedHex c.place (c.rest.length + 1) c
    let after := e.next
    if ds.isEmpty then fail .hexEmpty (after.since c.place)
    else
      match scalar? ds with
      | some x => return (.literal ⟨after.since start, x, false⟩, after)
      | none => fail .hexInvalid (e.since c.bump.place)
  else do
    let (ds, e) ← scanHexDigits (hexLength kind) true c
    let after := e.next
    match scalar? ds with
    | some x => return (.literal ⟨after.since start, x, kind = 'x'⟩, after)
    | none => fail .hexInvalid (after.since c.place)

def splitFirst? (separator : List Char) : List Char → Option (List Char × List Char)
  | [] => none
  | c :: r =>
    if separator.isPrefixOf (c :: r) then some ([], (c :: r).drop separator.length)
    else (splitFirst? separator r).map fun (a, b) => (c :: a, b)

def propertyQuery (name : List Char) : PropertyQuery × Bool :=
  match splitFirst? ['!', '='] name with
  | some (n, v) => (.valued (String.ofList n) (String.ofList v), true)
  | none =>
    match (splitFirst? [':'] name).or (splitFirst? ['='] name) with
    | some (n, v) => (.valued (String.ofList n) (String.ofList v), false)
    | none => (.named (String.ofList name), false)

def scanName : Nat → Cursor → Except Fault (List Char × Cursor)
  | 0, c => fail .escapeEnd c.here
  | fuel + 1, c =>
    let c := c.next
    match c.peek? with
    | none => fail .escapeEnd c.here
    | some x =>
      if x = '}' then .ok ([], c)
      else do
        let (cs, c) ← scanName fuel c
        return (x :: cs, c)

def scanProperty (start : Place) (negated : Bool) (c : Cursor) : Except Fault (Term × Cursor) :=
  let c := c.next
  match c.peek? with
  | none => fail .escapeEnd c.here
  | some x =>
    if x = '{' then do
      let (name, c) ← scanName (c.rest.length + 1) c
      let c := c.bump
      let (q, opposite) := propertyQuery name
      return (.property (c.since start) q (negated != opposite), c)
    else if x = '\\' then fail .propertyInvalid c.charSpan
    else
      let c := c.next
      .ok (.property (c.since start) (.named x.toString) negated, c)

def isMeta (c : Char) : Bool := "\\.+*?()|[]\x7b\x7d^$#&-~".toList.contains c

def isPlainEscape (c : Char) : Bool :=
  isMeta c || (c.toNat < 0x80 && !c.isAlphanum && c ≠ '<' && c ≠ '>')

def controlEscape? (c : Char) : Option Char :=
  if c = 'a' then some '\x07'
  else if c = 'f' then some '\x0c'
  else if c = 't' then some '\t'
  else if c = 'n' then some '\n'
  else if c = 'r' then some '\r'
  else if c = 'v' then some '\x0b'
  else none

def assertionEscape? (c : Char) : Option AssertionKind :=
  if c = 'A' then some .startText
  else if c = 'z' then some .endText
  else if c = 'B' then some .notWordBoundary
  else if c = '<' then some .wordStart
  else if c = '>' then some .wordEnd
  else none

def shorthandEscape? (c : Char) : Option (ShorthandKind × Bool) :=
  if c = 'd' then some (.digit, false)
  else if c = 's' then some (.space, false)
  else if c = 'w' then some (.word, false)
  else if c = 'D' then some (.digit, true)
  else if c = 'S' then some (.space, true)
  else if c = 'W' then some (.word, true)
  else none

def boundaryKind? (name : String) : Option AssertionKind :=
  if name = "start" then some .wordStart
  else if name = "end" then some .wordEnd
  else if name = "start-half" then some .wordStartHalf
  else if name = "end-half" then some .wordEndHalf
  else none

def isBoundaryChar (c : Char) : Bool := c.isAlpha || c = '-'

def scanBoundaryName : Nat → Cursor → List Char × Cursor
  | 0, c => ([], c)
  | fuel + 1, c =>
    match c.peek? with
    | none => ([], c)
    | some x =>
      if isBoundaryChar x then
        let (cs, c) := scanBoundaryName fuel c.next
        (x :: cs, c)
      else ([], c)

def scanBoundary (start : Place) (c : Cursor) : Except Fault (Option (AssertionKind × Cursor)) :=
  if c.peek? ≠ some '{' then .ok none
  else
    let inner := c.next
    match inner.peek? with
    | none => fail .boundaryEnd (inner.since start)
    | some x =>
      if !isBoundaryChar x then .ok none
      else
        let (name, e) := scanBoundaryName (inner.rest.length + 1) inner
        if e.peek? ≠ some '}' then fail .boundaryUnclosed (e.since c.place)
        else
          match boundaryKind? (String.ofList name) with
          | some k => .ok (some (k, e.bump))
          | none => fail .boundaryUnknown (e.since inner.place)

def scanEscape (c : Cursor) : Except Fault (Term × Cursor) :=
  let start := c.place
  let c := c.bump
  match c.peek? with
  | none => fail .escapeEnd (c.since start)
  | some x =>
    let after := c.bump
    let span := after.since start
    if x.isDigit then fail .backreference span
    else if x = 'x' ∨ x = 'u' ∨ x = 'U' then scanHex start x c
    else if x = 'p' ∨ x = 'P' then scanProperty start (x = 'P') c
    else if isPlainEscape x then .ok (.literal ⟨span, x, false⟩, after)
    else if x = 'b' then do
      match ← scanBoundary start after with
      | some (k, e) => return (.assertion (e.since start) k, e)
      | none => return (.assertion span .wordBoundary, after)
    else
      match shorthandEscape? x, controlEscape? x, assertionEscape? x with
      | some (k, negated), _, _ => .ok (.shorthand span k negated, after)
      | none, some y, _ => .ok (.literal ⟨span, y, false⟩, after)
      | none, none, some k => .ok (.assertion span k, after)
      | none, none, none => fail .escapeUnknown span

end LayoutSync.Pattern
