import LayoutSync.Pattern.Escape

namespace LayoutSync.Pattern

structure Items where
  span : Span
  reversed : List ClassTerm := []

namespace Items

def push (u : Items) (t : ClassTerm) : Items :=
  ⟨⟨if u.reversed.isEmpty then t.span.start else u.span.start, t.span.stop⟩, t :: u.reversed⟩

def toTerm (u : Items) : ClassTerm :=
  match u.reversed with
  | [] => .empty u.span
  | [t] => t
  | ts => .union u.span ts.reverse

end Items

inductive Pending where
  | opened (around : Items) (span : Span) (negated : Bool)
  | operator (op : SetOperation) (lhs : ClassTerm)

def unclosedSpan : List Pending → Span
  | [] => default
  | .opened _ s _ :: _ => s
  | .operator _ _ :: r => unclosedSpan r

def asItem : Term → Except Fault ClassTerm
  | .literal l => .ok (.literal l)
  | .shorthand s k n => .ok (.shorthand s k n)
  | .property s q n => .ok (.property s q n)
  | t => fail .classEscape t.span

def asBound : Term → Except Fault Literal
  | .literal l => .ok l
  | t => fail .classRangeBound t.span

def scanClassCharacter (c : Cursor) : Except Fault (Term × Cursor) :=
  match c.peek? with
  | none => fail .escapeEnd c.here
  | some x =>
    if x = '\\' then scanEscape c else .ok (.literal ⟨c.charSpan, x, false⟩, c.bump)

def scanRange (unclosed : Span) (c : Cursor) : Except Fault (ClassTerm × Cursor) := do
  let (first, c) ← scanClassCharacter c
  let c := c.skipSpace
  if c.atEnd then fail .classUnclosed unclosed
  else if c.peek? ≠ some '-' ∨ c.secondPastSpace? = some ']' ∨ c.secondPastSpace? = some '-' then
    return (← asItem first, c)
  else
    let c := c.next
    if c.atEnd then fail .classUnclosed unclosed
    else
      let (second, c) ← scanClassCharacter c
      let span := ⟨first.span.start, second.span.stop⟩
      let lo ← asBound first
      let hi ← asBound second
      if lo.char ≤ hi.char then return (.range span lo hi, c) else fail .classRange span

def scanHyphens (start : Place) : Nat → Items → Cursor → Except Fault (Items × Cursor)
  | 0, u, c => .ok (u, c)
  | fuel + 1, u, c =>
    if c.peek? = some '-' then
      let u := u.push (.literal ⟨c.charSpan, '-', false⟩)
      if c.next.atEnd then fail .classUnclosed (.at start) else scanHyphens start fuel u c.next
    else .ok (u, c)

def scanOpening (c : Cursor) : Except Fault ((Span × Bool × Items) × Cursor) := do
  let start := c.place
  let c := c.next
  if c.atEnd then fail .classUnclosed (c.since start)
  else
    let negated := c.peek? = some '^'
    let c := if negated then c.next else c
    if c.atEnd then fail .classUnclosed (c.since start)
    else
      let (u, c) ← scanHyphens start (c.rest.length + 1) ⟨c.here, []⟩ c
      if u.reversed.isEmpty && c.peek? = some ']' then
        let u := u.push (.literal ⟨c.charSpan, ']', false⟩)
        let c := c.next
        if c.atEnd then fail .classUnclosed (c.since start)
        else return ((c.since start, negated, u), c)
      else return ((c.since start, negated, u), c)

def scanAscii? (c : Cursor) : Option (ClassTerm × Cursor) := do
  let inner ← c.pass? "[:"
  let (negated, inner) := if inner.peek? = some '^' then (true, inner.bump) else (false, inner)
  let name := inner.rest.takeWhile (· ≠ ':')
  let stop ← (inner.advance name.length).pass? ":]"
  let kind ← AsciiKind.ofName? (String.ofList name)
  return (.ascii (stop.since c.place) kind negated, stop)

def applyOperator (rhs : ClassTerm) : List Pending → ClassTerm × List Pending
  | .operator op lhs :: r => (.binary ⟨lhs.span.start, rhs.span.stop⟩ op lhs rhs, r)
  | r => (rhs, r)

def operator? (c : Cursor) : Option (SetOperation × Cursor) :=
  match c.pass? "&&", c.pass? "--", c.pass? "~~" with
  | some c, _, _ => some (.intersection, c)
  | _, some c, _ => some (.difference, c)
  | _, _, some c => some (.symmetricDifference, c)
  | _, _, _ => none

def scanItems : Nat → List Pending → Items → Cursor → Except Fault (Term × Cursor)
  | 0, pending, _, _ => fail .classUnclosed (unclosedSpan pending)
  | fuel + 1, pending, u, c => do
    let c := c.skipSpace
    if c.atEnd then fail .classUnclosed (unclosedSpan pending)
    else if c.peek? = some '[' then
      match scanAscii? c with
      | some (t, c) => scanItems fuel pending (u.push t) c
      | none =>
        let ((span, negated, inner), c) ← scanOpening c
        scanItems fuel (.opened u span negated :: pending) inner c
    else if c.peek? = some ']' then
      match applyOperator u.toTerm pending with
      | (body, .opened around span negated :: rest) =>
        let c := c.bump
        let span := c.since span.start
        if rest.isEmpty then return (.bracketed span negated body, c)
        else scanItems fuel rest (around.push (.bracketed span negated body)) c
      | (_, rest) => fail .classUnclosed (unclosedSpan rest)
    else
      match operator? c with
      | some (op, c) =>
        let (lhs, rest) := applyOperator u.toTerm pending
        scanItems fuel (.operator op lhs :: rest) ⟨c.here, []⟩ c
      | none =>
        let (t, c) ← scanRange (unclosedSpan pending) c
        scanItems fuel pending (u.push t) c

def scanClass (c : Cursor) : Except Fault (Term × Cursor) := do
  let ((span, negated, u), e) ← scanOpening c
  scanItems (c.rest.length + 1) [.opened ⟨c.here, []⟩ span negated] u e

end LayoutSync.Pattern
