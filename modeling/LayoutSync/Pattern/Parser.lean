import LayoutSync.Pattern.Class
import LayoutSync.Pattern.Group

namespace LayoutSync.Pattern

open Text

-- Powers are those of the core library, whatever else is imported.
attribute [local instance(high)] instPowNat

structure Level where
  start : Place
  reversed : List Term := []
  branchStart : Place
  branches : List Term := []

namespace Level

def new (p : Place) : Level := { start := p, branchStart := p }

def push (l : Level) (t : Term) : Level := { l with reversed := t :: l.reversed }

def sequence (l : Level) (stop : Place) : Term := Term.ofParts ⟨l.start, stop⟩ l.reversed.reverse

def branch (l : Level) (bar next : Place) : Level where
  start := next
  branchStart := l.branchStart
  branches := l.sequence bar :: l.branches

def finish (l : Level) (stop : Place) : Term :=
  let last := l.sequence stop
  if l.branches.isEmpty then last
  else .alternation ⟨l.branchStart, stop⟩ (last :: l.branches).reverse

end Level

structure OpenGroup where
  around : Level
  span : Span
  items : List FlagItem
  ignoreSpace : Bool

structure Reading where
  level : Level
  groups : List OpenGroup := []
  names : List (String × Span) := []
  cursor : Cursor

def lastPart? (l : Level) : Option (Term × List Term) :=
  match l.reversed with
  | [] => none
  | .empty _ :: _ => none
  | .flags _ _ :: _ => none
  | t :: ts => some (t, ts)

def repeatLast (l : Level) (c : Cursor) (t : Term) (ts : List Term) (least : Nat)
    (most : Option Nat) : Level :=
  { l with reversed := .repetition (c.since t.span.start) least most t :: ts }

def skipLazy (c : Cursor) : Cursor := if c.peek? = some '?' then c.bump else c

def repeatSimply (r : Reading) (least : Nat) (most : Option Nat) : Except Fault Reading :=
  match lastPart? r.level with
  | none => fail .nothingToRepeat r.cursor.here
  | some (t, ts) =>
    let c := skipLazy r.cursor.bump
    .ok { r with level := repeatLast r.level c t ts least most, cursor := c }

def skipBlanks : Nat → Cursor → Cursor
  | 0, c => c
  | fuel + 1, c => if c.peek?.any isBlank then skipBlanks fuel c.bump else c

def scanDigits : Nat → Cursor → List Char × Cursor
  | 0, c => ([], c)
  | fuel + 1, c =>
    match c.peek? with
    | none => ([], c)
    | some x =>
      if x.isDigit then
        let (ds, c) := scanDigits fuel c.next
        (x :: ds, c)
      else ([], c)

def decimalValue (ds : List Char) : Nat := ds.foldl (fun n d => 10 * n + (d.toNat - '0'.toNat)) 0

def scanDecimal (c : Cursor) : Except Fault Nat × Cursor :=
  let fuel := c.rest.length
  let c := skipBlanks fuel c
  let (ds, e) := scanDigits fuel c
  let span := e.since c.place
  let n :=
    if ds.isEmpty then fail .countEmpty span
    else if 2 ^ (32 : Nat) ≤ decimalValue ds then fail .decimalInvalid span
    else .ok (decimalValue ds)
  (n, skipBlanks fuel e)

def scanCounts (start : Place) (c : Cursor) : Except Fault ((Nat × Option Nat) × Cursor) := do
  let unclosed {α : Type} (c : Cursor) : Except Fault α := fail .countUnclosed (c.since start)
  if c.atEnd then unclosed c
  else
    let (n, c) := scanDecimal c
    if c.atEnd then unclosed c
    else if c.peek? = some ',' then
      let c := c.next
      if c.atEnd then unclosed c
      else if c.peek? = some '}' then return ((← n, none), c)
      else
        let n ← n
        let (m, c) := scanDecimal c
        return ((n, some (← m)), c)
    else
      let n ← n
      return ((n, some n), c)

def repeatCounted (r : Reading) : Except Fault Reading := do
  let c := r.cursor
  match lastPart? r.level with
  | none => fail .nothingToRepeat c.here
  | some (t, ts) =>
    let ((least, most), e) ← scanCounts c.place c.next
    if e.peek? ≠ some '}' then fail .countUnclosed (e.since c.place)
    else
      let e := skipLazy e.next
      if most.any (· < least) then fail .countOrder (e.since c.place)
      else return { r with level := repeatLast r.level e t ts least most, cursor := e }

def openGroup (r : Reading) : Except Fault Reading := do
  let (opening, e) ← scanGroup r.cursor
  let enter (span : Span) (items : List FlagItem) : Reading := {
    r with
    level := .new e.place
    groups := ⟨r.level, span, items, r.cursor.ignoreSpace⟩ :: r.groups
    cursor := { e with
      ignoreSpace := (flagState? items .ignoreWhitespace).getD r.cursor.ignoreSpace } }
  match opening with
  | .flags span items =>
    return {
      r with
      level := r.level.push (.flags span items)
      cursor := { e with
        ignoreSpace := (flagState? items .ignoreWhitespace).getD r.cursor.ignoreSpace } }
  | .group span items => return enter span items
  | .named span name nameSpan =>
    match r.names.find? (·.1 = name) with
    | some (_, earlier) => .error ⟨.groupNameDuplicate, nameSpan, some earlier⟩
    | none => return { enter span [] with names := r.names ++ [(name, nameSpan)] }

def closeGroup (r : Reading) : Except Fault Reading :=
  match r.groups with
  | [] => fail .groupUnopened r.cursor.charSpan
  | g :: gs =>
    let c := r.cursor.bump
    let body := r.level.finish r.cursor.place
    .ok {
      r with
      level := g.around.push (.group (c.since g.span.start) g.items body)
      groups := gs
      cursor := { c with ignoreSpace := g.ignoreSpace } }

def pushTerm (r : Reading) (p : Term × Cursor) : Reading :=
  { r with level := r.level.push p.1, cursor := p.2 }

def pushChar (r : Reading) (t : Term) : Reading := pushTerm r (t, r.cursor.bump)

def step (r : Reading) (x : Char) : Except Fault Reading :=
  let c := r.cursor
  match x with
  | '(' => openGroup r
  | ')' => closeGroup r
  | '|' =>
    .ok { r with level := r.level.branch c.place c.bump.place, cursor := c.bump }
  | '[' => pushTerm r <$> scanClass c
  | '?' => repeatSimply r 0 (some 1)
  | '*' => repeatSimply r 0 none
  | '+' => repeatSimply r 1 none
  | '{' => repeatCounted r
  | '\\' => pushTerm r <$> scanEscape c
  | '.' => .ok (pushChar r (.dot c.charSpan))
  | '^' => .ok (pushChar r (.assertion c.charSpan .startLine))
  | '$' => .ok (pushChar r (.assertion c.charSpan .endLine))
  | x => .ok (pushChar r (.literal ⟨c.charSpan, x, false⟩))

def run : Nat → Reading → Except Fault Term
  | 0, r => .ok (r.level.finish r.cursor.place)
  | fuel + 1, r => do
    let c := r.cursor.skipSpace
    let r := { r with cursor := c }
    match c.peek? with
    | some x => run fuel (← step r x)
    | none =>
      match r.groups with
      | g :: _ => fail .groupUnclosed g.span
      | [] => return r.level.finish c.place

def Term.ofText (pattern : List Char) : Except Fault Term :=
  run (pattern.length + 1) { level := .new {}, cursor := { rest := pattern } }

end LayoutSync.Pattern
