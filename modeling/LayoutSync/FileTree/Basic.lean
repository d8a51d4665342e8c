import LayoutSync.Dict

namespace LayoutSync

-- Contents are compared as in the core library, whatever else is imported.
attribute [local instance(high)] ByteArray.instDecidableEq

abbrev Location := List String

inductive Entry where
  | file (content : ByteArray)
  | directory
deriving DecidableEq

structure FileTree where
  entries : List (Location × Entry) := []
  current : Location := []

namespace FileTree

def find? (t : FileTree) (l : Location) : Option Entry :=
  if l.isEmpty then some .directory else Assoc.get? l t.entries

def put (t : FileTree) (l : Location) (e : Entry) : FileTree :=
  { t with entries := Assoc.put l e t.entries }

def remove (t : FileTree) (l : Location) : FileTree :=
  { t with entries := t.entries.filter fun e => !l.isPrefixOf e.1 }

def children (t : FileTree) (l : Location) : List (String × Entry) :=
  let here := t.entries.filterMap fun (m, e) =>
    if m.dropLast = l then m.getLast?.map (·, e) else none
  here.mergeSort fun a b => a.1 ≤ b.1

theorem find?_put_self (t : FileTree) {l : Location} (e : Entry) (h : l ≠ []) :
    (t.put l e).find? l = some e := by
  have hl : l.isEmpty = false := by cases l <;> simp_all
  simp [find?, put, hl, Assoc.get?_put_self]

theorem find?_put_of_ne (t : FileTree) {l m : Location} (e : Entry) (h : m ≠ l) :
    (t.put l e).find? m = t.find? m := by
  simp [find?, put, Assoc.get?_put_of_ne e t.entries h]

end FileTree

end LayoutSync
