import LayoutSync.Text.BinaryProperty
import LayoutSync.Text.Category

namespace LayoutSync.Text

def alphabeticRanges : Ranges := PropertyValue.union binaryProperties ["alphabetic"]

def numericRanges : Ranges := PropertyValue.union categories ["nd", "nl", "no"]

def digitRanges : Ranges := PropertyValue.union categories ["nd"]

def wordRanges : Ranges :=
  PropertyValue.union binaryProperties ["alphabetic", "joincontrol"]
    ++ PropertyValue.union categories ["mn", "mc", "me", "nd", "pc"]

def isAlphabetic (c : Char) : Bool :=
  if c.toNat < 0x80 then c.isAlpha else alphabeticRanges.contains c

def isAlphanumeric (c : Char) : Bool :=
  if c.toNat < 0x80 then c.isAlphanum else isAlphabetic c || numericRanges.contains c

def isDigit (c : Char) : Bool := if c.toNat < 0x80 then c.isDigit else digitRanges.contains c

def isAsciiWord (c : Char) : Bool := c.isAlphanum || c = '_'

def isWord (c : Char) : Bool :=
  if c.toNat < 0x80 then isAsciiWord c else wordRanges.contains c

end LayoutSync.Text
