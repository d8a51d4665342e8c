import LayoutSync.Text.Quoted

namespace LayoutSync.Markup

open Text

/-- Faults of a character reference. Offsets count bytes from the start of the text at hand. -/
inductive EntityFault where
  | unterminated (start stop : Nat)
  | null (start stop : Nat)
  | unknown (start stop : Nat) (name : String)
  | longHexadecimal
  | longDecimal
  | hexadecimalDigit (c : Char)
  | decimalDigit (c : Char)
  | notScalar (n : Nat)
deriving DecidableEq, Repr

def EntityFault.message : EntityFault → String
  | unterminated a b =>
    "Error while escaping character at range " ++ toString a ++ ".." ++ toString b
      ++ ": Cannot find ';' after '&'"
  | null a b =>
    "Error while escaping character at range " ++ toString a ++ ".." ++ toString b
      ++ ": Null character entity not allowed"
  | unknown a b name =>
    "Error while escaping character at range " ++ toString a ++ ".." ++ toString b
      ++ ": Unrecognized escape symbol: " ++ quoted name
  | longHexadecimal => "Cannot convert hexadecimal to utf8"
  | longDecimal => "Cannot convert decimal to utf8"
  | hexadecimalDigit c => "'" ++ c.toString ++ "' is not a valid hexadecimal character"
  | decimalDigit c => "'" ++ c.toString ++ "' is not a valid decimal character"
  | notScalar n => "'" ++ toString n ++ "' is not a valid codepoint"

/-- Faults of an attribute list. Offsets count bytes from the start of the tag's name. -/
inductive AttributeFault where
  | noEquals (position : Nat)
  | noValue (position : Nat)
  | noQuote (position : Nat)
  | noClosingQuote (position : Nat) (quote : Char)
  | duplicated (position earlier : Nat)
  | value (fault : EntityFault)
deriving DecidableEq, Repr

def AttributeFault.message : AttributeFault → String
  | noEquals p =>
    "position " ++ toString p ++ ": attribute key must be directly followed by `=` or space"
  | noValue p => "position " ++ toString p ++ ": `=` must be followed by an attribute value"
  | noQuote p =>
    "position " ++ toString p ++ ": attribute value must be enclosed in `\"` or `'`"
  | noClosingQuote p q =>
    "position " ++ toString p ++ ": missing closing quote `" ++ q.toString ++ "` in attribute value"
  | duplicated p o =>
    "position " ++ toString p ++ ": duplicated attribute, previous declaration at position "
      ++ toString o
  | value f => f.message

inductive Construct where
  | bang | comment | cdata | doctype | instruction
deriving DecidableEq, Repr

def Construct.label : Construct → String
  | bang => "Bang"
  | comment => "Comment"
  | cdata => "CData"
  | doctype => "DOCTYPE"
  | instruction => "XmlDecl"

inductive ReadFault where
  | endInside (construct : Construct)
  | unknownBang (c : Char)
  | emptyDoctype
  | mismatched (expected found : String)
deriving DecidableEq, Repr

def ReadFault.message : ReadFault → String
  | endInside c => "Unexpected EOF during reading " ++ c.label
  | unknownBang c =>
    "Only Comment (`--`), CDATA (`[CDATA[`) and DOCTYPE (`DOCTYPE`) nodes can start with a '!', "
      ++ "but symbol `" ++ c.toString ++ "` found"
  | emptyDoctype => "DOCTYPE declaration must not be empty"
  | mismatched e f => "Expecting </" ++ e ++ "> found </" ++ f ++ ">"

/-- Faults of a whole document. Positions count bytes from its start. -/
inductive DocumentFault where
  | unreadable (position : Nat) (fault : ReadFault)
  | text (position : Nat) (fault : EntityFault)
  | attributes (fault : AttributeFault)
  | textOutsideRoot
  | manyRoots
  | unbalancedClose
  | unclosed (tag : String)
  | noRoot
deriving DecidableEq, Repr

def DocumentFault.message : DocumentFault → String
  | unreadable p f => "at byte " ++ toString p ++ ": " ++ f.message
  | text p f => "at byte " ++ toString p ++ ": " ++ f.message
  | attributes f => f.message
  | textOutsideRoot => "text outside of the root element"
  | manyRoots => "multiple root elements"
  | unbalancedClose => "unbalanced closing tag"
  | unclosed tag => "unclosed element <" ++ tag ++ ">"
  | noRoot => "document has no root element"

end LayoutSync.Markup
