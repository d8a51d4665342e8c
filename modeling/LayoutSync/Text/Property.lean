import LayoutSync.Text.Ranges

namespace LayoutSync.Text

structure PropertyValue where
  names : List String
  text : String

namespace PropertyValue

def find? (l : List PropertyValue) (name : String) : Option PropertyValue :=
  l.find? (·.names.contains name)

def ranges (v : PropertyValue) : Ranges := Ranges.ofText v.text

def union (l : List PropertyValue) (names : List String) : Ranges :=
  (l.filter fun v => v.names.any names.contains).flatMap ranges

end PropertyValue

end LayoutSync.Text
