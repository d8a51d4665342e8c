namespace LayoutSync.Pattern

structure Place where
  line : Nat := 1
  column : Nat := 1
deriving DecidableEq, Repr, Inhabited

def Place.after (p : Place) (c : Char) : Place :=
  if c = '\n' then ⟨p.line + 1, 1⟩ else ⟨p.line, p.column + 1⟩

def Place.le (p q : Place) : Bool := p.line < q.line || (p.line = q.line && p.column ≤ q.column)

structure Span where
  start : Place
  stop : Place
deriving DecidableEq, Repr, Inhabited

def Span.at (p : Place) : Span := ⟨p, p⟩

def maxNesting : Nat := 250

inductive Cause where
  | classEscape | classRange | classRangeBound | classUnclosed
  | decimalInvalid
  | hexEmpty | hexInvalid | hexDigit
  | escapeEnd | escapeUnknown
  | flagDanglingNegation | flagDuplicate | flagRepeatedNegation | flagEnd | flagUnknown
  | groupNameDuplicate | groupNameEmpty | groupNameInvalid | groupNameEnd
  | groupUnclosed | groupUnopened
  | nesting
  | countOrder | countEmpty | countUnclosed | nothingToRepeat
  | boundaryUnclosed | boundaryUnknown | boundaryEnd
  | propertyInvalid
  | backreference | lookAround
  | unicodeOff | notText | propertyUnknown | propertyValueUnknown
deriving DecidableEq, Repr

def Cause.message : Cause → String
  | classEscape => "invalid escape sequence found in character class"
  | classRange => "invalid character class range, the start must be <= the end"
  | classRangeBound => "invalid range boundary, must be a literal"
  | classUnclosed => "unclosed character class"
  | decimalInvalid => "decimal literal invalid"
  | hexEmpty => "hexadecimal literal empty"
  | hexInvalid => "hexadecimal literal is not a Unicode scalar value"
  | hexDigit => "invalid hexadecimal digit"
  | escapeEnd => "incomplete escape sequence, reached end of pattern prematurely"
  | escapeUnknown => "unrecognized escape sequence"
  | flagDanglingNegation => "dangling flag negation operator"
  | flagDuplicate => "duplicate flag"
  | flagRepeatedNegation => "flag negation operator repeated"
  | flagEnd => "expected flag but got end of regex"
  | flagUnknown => "unrecognized flag"
  | groupNameDuplicate => "duplicate capture group name"
  | groupNameEmpty => "empty capture group name"
  | groupNameInvalid => "invalid capture group character"
  | groupNameEnd => "unclosed capture group name"
  | groupUnclosed => "unclosed group"
  | groupUnopened => "unopened group"
  | nesting =>
    "exceed the maximum number of nested parentheses/brackets (" ++ toString maxNesting ++ ")"
  | countOrder => "invalid repetition count range, the start must be <= the end"
  | countEmpty => "repetition quantifier expects a valid decimal"
  | countUnclosed => "unclosed counted repetition"
  | nothingToRepeat => "repetition operator missing expression"
  | boundaryUnclosed =>
    "special word boundary assertion is either unclosed or contains an invalid character"
  | boundaryUnknown =>
    "unrecognized special word boundary assertion, valid choices are: start, end, start-half or end-half"
  | boundaryEnd =>
    "found either the beginning of a special word boundary or a bounded repetition on a \\b with " ++
      "an opening brace, but no closing brace"
  | propertyInvalid => "invalid Unicode character class"
  | backreference => "backreferences are not supported"
  | lookAround => "look-around, including look-ahead and look-behind, is not supported"
  | unicodeOff => "Unicode not allowed here"
  | notText => "pattern can match invalid UTF-8"
  | propertyUnknown => "Unicode property not found"
  | propertyValueUnknown => "Unicode property value not found"

structure Fault where
  cause : Cause
  span : Span
  earlier : Option Span := none
deriving DecidableEq, Repr

def fail {α : Type} (cause : Cause) (span : Span) : Except Fault α := .error ⟨cause, span, none⟩

namespace Fault

def repeated (n : Nat) (c : Char) : List Char := List.replicate n c

def lines : List Char → List (List Char)
  | [] => []
  | '\n' :: r => [] :: lines r
  | '\r' :: '\n' :: r => [] :: lines r
  | c :: r =>
    match r with
    | [] => [[c]]
    | '\n' :: s => [c] :: lines s
    | d :: s =>
      match lines (d :: s) with
      | l :: ls => (c :: l) :: ls
      | [] => [[c]]

def marks : Nat → List Span → List Char
  | _, [] => []
  | done, s :: ss =>
    let gap := s.start.column - 1 - done
    let width := max 1 (s.stop.column - s.start.column)
    repeated gap ' ' ++ repeated width '^' ++ marks (done + gap + width) ss

def spans (f : Fault) : List Span :=
  match f.earlier with
  | none => [f.span]
  | some s => if s.start.le f.span.start then [s, f.span] else [f.span, s]

def isOneLine (s : Span) : Bool := s.start.line = s.stop.line

def showLine (f : Fault) (width : Nat) (l : List Char × Nat) : List Char :=
  let number := (toString (l.2 + 1)).toList
  let lead :=
    if width = 0 then repeated 4 ' '
    else repeated (width - number.length) ' ' ++ number ++ [':', ' ']
  let here := f.spans.filter fun s => isOneLine s && s.start.line = l.2 + 1
  lead ++ l.1 ++ ['\n'] ++
    if here.isEmpty then [] else repeated lead.length ' ' ++ marks 0 here ++ ['\n']

def showLines (f : Fault) (pattern : List Char) : List Char :=
  let ls := lines pattern
  let count := ls.length + if pattern.getLast? = some '\n' then 1 else 0
  let width := if count ≤ 1 then 0 else (toString count).length
  ls.zipIdx.flatMap (f.showLine width)

def throughLines (s : Span) : String :=
  "on line " ++ toString s.start.line ++ " (column " ++ toString s.start.column ++ ") through line "
    ++ toString s.stop.line ++ " (column " ++ toString (s.stop.column - 1) ++ ")\n"

def message (f : Fault) (pattern : String) : String :=
  let cs := pattern.toList
  let shown := String.ofList (f.showLines cs)
  let body :=
    if cs.contains '\n' then
      let divider := String.ofList (repeated 79 '~') ++ "\n"
      divider ++ shown ++ divider
        ++ String.join ((f.spans.filter (!isOneLine ·)).map throughLines)
    else shown
  "regex parse error:\n" ++ body ++ "error: " ++ f.cause.message

end Fault

def maxSize : Nat := 10485760

inductive Refusal where
  | malformed (fault : Fault)
  | tooLarge
deriving DecidableEq, Repr

def Refusal.message (source : String) : Refusal → String
  | malformed f => f.message source
  | tooLarge => "Compiled regex exceeds size limit of " ++ toString maxSize ++ " bytes."

end LayoutSync.Pattern
