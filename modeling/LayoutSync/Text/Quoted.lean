import LayoutSync.Text.BinaryProperty
import LayoutSync.Text.Category

/-!
Text shown between quotes, so that it can be told apart on a terminal: characters that do not
show, or that attach to the one before, are written by their code.
-/

namespace LayoutSync.Text

def visibleRanges : Ranges :=
  PropertyValue.union categories ["lu", "ll", "lt", "lm", "lo", "mn", "mc", "me", "nd", "nl", "no",
    "pc", "pd", "ps", "pe", "pi", "pf", "po", "sm", "sc", "sk", "so"]

def attachingRanges : Ranges := PropertyValue.union binaryProperties ["graphemeextend"]

def isVisible (c : Char) : Bool :=
  if c.toNat < 0x80 then ' ' ≤ c && c ≤ '~'
  else visibleRanges.contains c && !attachingRanges.contains c

def quotedChar (c : Char) : List Char :=
  if c = '"' || c = '\\' then ['\\', c]
  else if c = '\t' then "\\t".toList
  else if c = '\r' then "\\r".toList
  else if c = '\n' then "\\n".toList
  else if c = '\x00' then ['\\', '0']
  else if isVisible c then [c]
  else "\\u\x7b".toList ++ Nat.toDigits 16 c.toNat ++ "\x7d".toList

def quoted (s : String) : String := String.ofList ('"' :: s.toList.flatMap quotedChar ++ ['"'])

end LayoutSync.Text
