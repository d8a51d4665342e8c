import LayoutSync.Pattern.Matcher
import LayoutSync.Pattern.Property
import LayoutSync.Text.Blank
import LayoutSync.Text.Folding
import LayoutSync.Text.Word

namespace LayoutSync.Pattern

open Text

structure Flags where
  caseInsensitive : Bool := false
  multiLine : Bool := false
  dotMatchesNewLine : Bool := false
  unicode : Bool := true
  crlf : Bool := false

def Flags.apply (f : Flags) (items : List FlagItem) : Flags where
  caseInsensitive := (flagState? items .caseInsensitive).getD f.caseInsensitive
  multiLine := (flagState? items .multiLine).getD f.multiLine
  dotMatchesNewLine := (flagState? items .dotMatchesNewLine).getD f.dotMatchesNewLine
  unicode := (flagState? items .unicode).getD f.unicode
  crlf := (flagState? items .crlf).getD f.crlf

namespace CharSet

def folded (f : Flags) (p : CharSet) : CharSet :=
  if !f.caseInsensitive then p
  else if f.unicode then fun c => (caseVariants c).any p
  else fun c => p c || p c.toLower || p c.toUpper

def complement (negated : Bool) (p : CharSet) : CharSet := fun c => p c != negated

def combine : SetOperation → CharSet → CharSet → CharSet
  | .intersection, p, q => fun c => p c && q c
  | .difference, p, q => fun c => p c && !q c
  | .symmetricDifference, p, q => fun c => p c != q c

end CharSet

def isAscii (c : Char) : Bool := c.toNat < 0x80

def AsciiKind.toSet : AsciiKind → CharSet
  | alnum => Char.isAlphanum
  | alpha => Char.isAlpha
  | ascii => isAscii
  | blank => fun c => c = ' ' || c = '\t'
  | cntrl => fun c => c.toNat < 0x20 || c.toNat = 0x7f
  | digit => Char.isDigit
  | graph => fun c => '!' ≤ c && c ≤ '~'
  | lower => Char.isLower
  | print => fun c => ' ' ≤ c && c ≤ '~'
  | punct => fun c => '!' ≤ c && c ≤ '~' && !c.isAlphanum
  | space => fun c => c = ' ' || ('\t' ≤ c && c ≤ '\r')
  | upper => Char.isUpper
  | word => isAsciiWord
  | xdigit => fun c => (hexDigit? c).isSome

def ShorthandKind.toSet (f : Flags) : ShorthandKind → CharSet
  | digit => if f.unicode then isDigit else Char.isDigit
  | space => if f.unicode then isBlank else AsciiKind.space.toSet
  | word => if f.unicode then isWord else isAsciiWord

/-- Outside Unicode a set that is negated has bytes that are no text. -/
def negatable (f : Flags) (negated : Bool) (span : Span) (p : CharSet) : Except Fault CharSet :=
  if negated && !f.unicode then fail .notText span else .ok (p.complement negated)

def shorthandSet (f : Flags) (span : Span) (kind : ShorthandKind) (negated : Bool) :
    Except Fault CharSet :=
  negatable f negated span (kind.toSet f)

def propertySet (f : Flags) (span : Span) (q : PropertyQuery) (negated : Bool) :
    Except Fault CharSet :=
  if !f.unicode then fail .unicodeOff span
  else
    match q.toSet with
    | .ok p => .ok ((p.folded f).complement negated)
    | .error cause => fail cause span

def classCharacter (f : Flags) (l : Literal) : Except Fault Char :=
  if f.unicode || isAscii l.char then .ok l.char
  else fail (if l.isByte then .notText else .unicodeOff) l.span

mutual

def ClassTerm.toSet (f : Flags) : ClassTerm → Except Fault CharSet
  | .empty _ => .ok fun _ => false
  | .literal l => do
    let x ← classCharacter f l
    return fun c => c = x
  | .range _ lo hi => do
    let lo ← classCharacter f lo
    let hi ← classCharacter f hi
    return fun c => lo ≤ c && c ≤ hi
  | .ascii span kind negated => negatable f negated span (CharSet.folded f kind.toSet)
  | .property span q negated => propertySet f span q negated
  | .shorthand span kind negated => shorthandSet f span kind negated
  | .bracketed span negated body => do
    negatable f negated span (CharSet.folded f (← body.toSet f))
  | .union _ items => unionSet f items
  | .binary _ op lhs rhs => do
    let p ← lhs.toSet f
    let q ← rhs.toSet f
    return CharSet.combine op (CharSet.folded f p) (CharSet.folded f q)

def unionSet (f : Flags) : List ClassTerm → Except Fault CharSet
  | [] => .ok fun _ => false
  | t :: ts => do
    let p ← t.toSet f
    let q ← unionSet f ts
    return fun c => p c || q c

end

def literalMatcher (f : Flags) (l : Literal) : Except Fault Matcher :=
  let p : CharSet := fun c => c = l.char
  if f.unicode || isAscii l.char then .ok (.char (p.folded f))
  else if l.isByte then fail .notText l.span
  else if f.caseInsensitive then fail .unicodeOff l.span
  else .ok (.char p)

def dotMatcher (f : Flags) (span : Span) : Except Fault Matcher :=
  if !f.unicode then fail .notText span
  else if f.dotMatchesNewLine then .ok (.char fun _ => true)
  else if f.crlf then .ok (.char fun c => c ≠ '\n' && c ≠ '\r')
  else .ok (.char (· ≠ '\n'))

def atStart (before _after : Option Char) : Bool := before.isNone

def atEnd (_before after : Option Char) : Bool := after.isNone

def atLineStart (f : Flags) (before after : Option Char) : Bool :=
  before.isNone || before = some '\n'
    || (f.crlf && before = some '\r' && after ≠ some '\n')

def atLineEnd (f : Flags) (before after : Option Char) : Bool :=
  if f.crlf then
    after.isNone || after = some '\r' || (after = some '\n' && before ≠ some '\r')
  else after.isNone || after = some '\n'

def conditionOf (f : Flags) : AssertionKind → Option Char → Option Char → Bool
  | .startLine => if f.multiLine then atLineStart f else atStart
  | .endLine => if f.multiLine then atLineEnd f else atEnd
  | .startText => atStart
  | .endText => atEnd
  | .wordBoundary => fun b a => b.any word != a.any word
  | .notWordBoundary => fun b a => b.any word == a.any word
  | .wordStart => fun b a => !b.any word && a.any word
  | .wordEnd => fun b a => b.any word && !a.any word
  | .wordStartHalf => fun b _ => !b.any word
  | .wordEndHalf => fun _ a => !a.any word
where
  word : CharSet := ShorthandKind.word.toSet f

mutual

def Term.meaning (f : Flags) : Term → Except Fault (Matcher × Flags)
  | .empty _ => .ok (.empty, f)
  | .flags _ items => .ok (.empty, f.apply items)
  | .literal l => (·, f) <$> literalMatcher f l
  | .dot span => (·, f) <$> dotMatcher f span
  | .assertion _ kind => .ok (.condition (conditionOf f kind), f)
  | .property span q negated => do return (.char (← propertySet f span q negated), f)
  | .shorthand span kind negated => do return (.char (← shorthandSet f span kind negated), f)
  | .bracketed span negated body => do
    let p ← body.toSet f
    return (.char (← negatable f negated span (CharSet.folded f p)), f)
  | .repetition _ least most body => do
    let (m, g) ← body.meaning f
    return (.repetition least most m, g)
  | .group _ items body => do
    let (m, _) ← body.meaning (f.apply items)
    return (m, f)
  | .alternation _ branches => do
    let (ms, g) ← meanings f branches
    return (Matcher.any ms, g)
  | .sequence _ parts => do
    let (ms, g) ← meanings f parts
    return (Matcher.all ms, g)

def meanings (f : Flags) : List Term → Except Fault (List Matcher × Flags)
  | [] => .ok ([], f)
  | t :: ts => do
    let (m, f) ← t.meaning f
    let (ms, f) ← meanings f ts
    return (m :: ms, f)

end

end LayoutSync.Pattern
