namespace LayoutSync.Layout

inductive ParentPolicy where
  /-- The enclosing element. -/
  | structural
  /-- The nearest enclosing element that is indexed. -/
  | nearestIdentified
deriving DecidableEq, Repr, Inhabited

namespace ParentPolicy

def name : ParentPolicy → String
  | structural => "structural"
  | nearestIdentified => "nearestIdentified"

def all : List ParentPolicy := [structural, nearestIdentified]

def ofName? (n : String) : Option ParentPolicy := all.find? (·.name = n)

theorem ofName?_name (p : ParentPolicy) : ofName? p.name = some p := by
  cases p <;> decide

end ParentPolicy

end LayoutSync.Layout
