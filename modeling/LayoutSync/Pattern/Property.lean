import LayoutSync.Pattern.Term
import LayoutSync.Text.Age
import LayoutSync.Text.BinaryProperty
import LayoutSync.Text.Boundary
import LayoutSync.Text.Category
import LayoutSync.Text.PropertyName
import LayoutSync.Text.Script
import LayoutSync.Text.ScriptExtension

namespace LayoutSync.Pattern

open Text

abbrev CharSet := Char → Bool

def CharSet.ofRanges (r : Ranges) : CharSet := r.contains

def categoryGroups : List (List String × List String) := [
  (["c", "other"], ["cc", "cf", "cn", "co"]),
  (["l", "letter"], ["ll", "lm", "lo", "lt", "lu"]),
  (["lc", "casedletter"], ["ll", "lt", "lu"]),
  (["m", "mark", "combiningmark"], ["mc", "me", "mn"]),
  (["n", "number"], ["nd", "nl", "no"]),
  (["p", "punctuation", "punct"], ["pc", "pd", "pe", "pf", "pi", "po", "ps"]),
  (["s", "symbol"], ["sc", "sk", "sm", "so"]),
  (["z", "separator"], ["zl", "zp", "zs"])]

def valueSet? (l : List PropertyValue) (name : String) : Option (Except Cause CharSet) :=
  (PropertyValue.find? l name).map fun v =>
    if v.text.isEmpty then .error .propertyValueUnknown else .ok (.ofRanges v.ranges)

def categorySet? (name : String) : Option (Except Cause CharSet) :=
  if name = "any" then some (.ok fun _ => true)
  else if name = "ascii" then some (.ok fun c => c.toNat < 0x80)
  else if name = "assigned" then
    let r := PropertyValue.union categories ["cn"]
    some (.ok fun c => !r.contains c)
  else
    match categoryGroups.find? (·.1.contains name) with
    | some (_, names) => some (.ok (.ofRanges (PropertyValue.union categories names)))
    | none => valueSet? categories name

def ageSet? (name : String) : Option (Except Cause CharSet) :=
  (ages.findIdx? (·.names.contains name)).map fun i =>
    .ok (.ofRanges ((ages.take (i + 1)).flatMap PropertyValue.ranges))

def scriptExtensionSet? (name : String) : Option (Except Cause CharSet) :=
  (PropertyValue.find? scripts name).map fun v =>
    match scriptExtensions.find? (·.names.any v.names.contains) with
    | some e => .ok (.ofRanges e.ranges)
    | none => if v.text.isEmpty then .error .propertyValueUnknown else .ok (.ofRanges v.ranges)

/-- Names that are both of a category and of another property mean the category. -/
def ambiguousNames : List String := ["cf", "sc", "lc"]

def namedSet (name : String) : Except Cause CharSet :=
  let property :=
    if ambiguousNames.contains name then none
    else if otherProperties.contains name then some (.error .propertyUnknown)
    else (PropertyValue.find? binaryProperties name).map fun v => .ok (.ofRanges v.ranges)
  ((property.or (categorySet? name)).or (valueSet? scripts name)).getD (.error .propertyUnknown)

def valuedSet (name value : String) : Except Cause CharSet :=
  let among (l : List String) : Bool := l.contains name
  let found (s : Option (Except Cause CharSet)) : Except Cause CharSet :=
    s.getD (.error .propertyValueUnknown)
  if among ["gc", "generalcategory"] then found (categorySet? value)
  else if among ["sc", "script"] then found (valueSet? scripts value)
  else if among ["scx", "scriptextensions"] then found (scriptExtensionSet? value)
  else if among ["age"] then found (ageSet? value)
  else if among ["gcb", "graphemeclusterbreak"] then found (valueSet? graphemeBreaks value)
  else if among ["wb", "wordbreak"] then found (valueSet? wordBreaks value)
  else if among ["sb", "sentencebreak"] then found (valueSet? sentenceBreaks value)
  else if among otherProperties || (PropertyValue.find? binaryProperties name).isSome then
    .error .propertyValueUnknown
  else .error .propertyUnknown

def PropertyQuery.toSet : PropertyQuery → Except Cause CharSet
  | named name => namedSet (normalizedName name)
  | valued name value => valuedSet (normalizedName name) (normalizedName value)

end LayoutSync.Pattern
