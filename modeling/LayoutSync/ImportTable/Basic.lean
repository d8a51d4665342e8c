import LayoutSync.Dict

namespace LayoutSync

def importStatement (name module : String) : String :=
  "import " ++ name ++ " = require(\"" ++ module ++ "\");"

structure ImportTable where
  statements : Dict String := ∅
deriving DecidableEq

namespace ImportTable

def empty : ImportTable := {}

def get? (t : ImportTable) (name : String) : Option String := t.statements.get? name

def contains (t : ImportTable) (name : String) : Bool := t.statements.contains name

def insert (t : ImportTable) (name module : String) : ImportTable :=
  if t.contains name then t else ⟨t.statements.put name (importStatement name module)⟩

def size (t : ImportTable) : Nat := t.statements.size

def isEmpty (t : ImportTable) : Bool := t.statements.isEmpty

def ofList (l : List (String × String)) : ImportTable :=
  l.foldl (fun t e => t.insert e.1 e.2) empty

end ImportTable

end LayoutSync
