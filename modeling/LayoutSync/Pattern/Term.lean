import LayoutSync.Pattern.Fault

namespace LayoutSync.Pattern

structure Literal where
  span : Span
  char : Char
  /-- Written by two hexadecimal digits, which stand for a byte where Unicode is off. -/
  isByte : Bool := false
deriving DecidableEq, Repr

inductive AssertionKind where
  | startLine | endLine | startText | endText
  | wordBoundary | notWordBoundary | wordStart | wordEnd | wordStartHalf | wordEndHalf
deriving DecidableEq, Repr

inductive ShorthandKind where
  | digit | space | word
deriving DecidableEq, Repr

inductive AsciiKind where
  | alnum | alpha | ascii | blank | cntrl | digit | graph | lower | print | punct | space | upper
  | word | xdigit
deriving DecidableEq, Repr

namespace AsciiKind

def name : AsciiKind → String
  | alnum => "alnum" | alpha => "alpha" | ascii => "ascii" | blank => "blank" | cntrl => "cntrl"
  | digit => "digit" | graph => "graph" | lower => "lower" | print => "print" | punct => "punct"
  | space => "space" | upper => "upper" | word => "word" | xdigit => "xdigit"

def all : List AsciiKind := [alnum, alpha, ascii, blank, cntrl, digit, graph, lower, print, punct,
  space, upper, word, xdigit]

def ofName? (n : String) : Option AsciiKind := all.find? (·.name = n)

end AsciiKind

inductive PropertyQuery where
  | named (name : String)
  | valued (name value : String)
deriving DecidableEq, Repr

inductive Flag where
  | caseInsensitive | multiLine | dotMatchesNewLine | swapGreed | unicode | crlf | ignoreWhitespace
deriving DecidableEq, Repr

inductive FlagItem where
  | negation
  | flag (f : Flag)
deriving DecidableEq, Repr

def flagState? (items : List FlagItem) (f : Flag) : Option Bool :=
  if items.contains (.flag f) then some ((items.takeWhile (· ≠ .flag f)).contains .negation |> not)
  else none

inductive SetOperation where
  | intersection | difference | symmetricDifference
deriving DecidableEq, Repr

inductive ClassTerm where
  | empty (span : Span)
  | literal (l : Literal)
  | range (span : Span) (lo hi : Literal)
  | ascii (span : Span) (kind : AsciiKind) (negated : Bool)
  | property (span : Span) (query : PropertyQuery) (negated : Bool)
  | shorthand (span : Span) (kind : ShorthandKind) (negated : Bool)
  | bracketed (span : Span) (negated : Bool) (body : ClassTerm)
  | union (span : Span) (items : List ClassTerm)
  | binary (span : Span) (op : SetOperation) (lhs rhs : ClassTerm)
deriving Inhabited

def ClassTerm.span : ClassTerm → Span
  | empty s => s
  | literal l => l.span
  | range s _ _ => s
  | ascii s _ _ => s
  | property s _ _ => s
  | shorthand s _ _ => s
  | bracketed s _ _ => s
  | union s _ => s
  | binary s _ _ _ => s

inductive Term where
  | empty (span : Span)
  | flags (span : Span) (items : List FlagItem)
  | literal (l : Literal)
  | dot (span : Span)
  | assertion (span : Span) (kind : AssertionKind)
  | property (span : Span) (query : PropertyQuery) (negated : Bool)
  | shorthand (span : Span) (kind : ShorthandKind) (negated : Bool)
  | bracketed (span : Span) (negated : Bool) (body : ClassTerm)
  | repetition (span : Span) (least : Nat) (most : Option Nat) (body : Term)
  | group (span : Span) (items : List FlagItem) (body : Term)
  | alternation (span : Span) (branches : List Term)
  | sequence (span : Span) (parts : List Term)
deriving Inhabited

def Term.span : Term → Span
  | empty s => s
  | flags s _ => s
  | literal l => l.span
  | dot s => s
  | assertion s _ => s
  | property s _ _ => s
  | shorthand s _ _ => s
  | bracketed s _ _ => s
  | repetition s _ _ _ => s
  | group s _ _ => s
  | alternation s _ => s
  | sequence s _ => s

def Term.ofParts (span : Span) : List Term → Term
  | [] => .empty span
  | [t] => t
  | ts => .sequence span ts

end LayoutSync.Pattern
