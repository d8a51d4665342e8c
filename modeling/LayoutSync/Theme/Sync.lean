import LayoutSync.Layout.Index
import LayoutSync.Theme.Basic

/-!
Themes kept in step with layouts: the property set of a layout gets an entry for every view id and
for every tag that its views bear. Entries of one kind stay together, ids before tags.
-/

namespace LayoutSync.Theme

open Markup Layout

/-- What new and empty entries hold, so that they are not written as empty elements. -/
def placeholder : String := " "

inductive EntryChange where
  | added
  | filled
  | present
deriving DecidableEq, Repr

def newEntry (kind : EntryKind) (name : String) : Element where
  tag := kind.element
  attributes := Dict.ofList [("name", name)]
  text := some placeholder

def afterLast? (tag : String) (cs : List Element) : Option Nat :=
  (cs.reverse.findIdx? (·.tag = tag)).map (cs.length - ·)

/-- Where a new entry goes: after the last of its kind, an id else before the first tag. -/
def insertionPoint (kind : EntryKind) (cs : List Element) : Nat :=
  match afterLast? kind.element cs with
  | some n => n
  | none =>
    match kind with
    | .id => (cs.findIdx? (·.tag = EntryKind.tag.element)).getD cs.length
    | .tag => cs.length

def ensureEntry (set : Element) (kind : EntryKind) (name : String) : Element × EntryChange :=
  match set.findChild? kind.element name with
  | some entry =>
    if entry.hasContent then (set, .present)
    else
      (set.modifyChild kind.element name fun e => { e with text := some placeholder }, .filled)
  | none =>
    let at_ := insertionPoint kind set.children
    ({ set with children := set.children.insertIdx at_ (newEntry kind name) }, .added)

structure Report where
  createdPropertySet : Bool := false
  addedIds : List String := []
  addedTags : List String := []
  filled : List String := []
deriving DecidableEq, Repr

namespace Report

def changed (r : Report) : Bool :=
  r.createdPropertySet || !r.addedIds.isEmpty || !r.addedTags.isEmpty || !r.filled.isEmpty

def note (r : Report) (kind : EntryKind) (name : String) : EntryChange → Report
  | .present => r
  | .filled => { r with filled := r.filled ++ [name] }
  | .added =>
    match kind with
    | .id => { r with addedIds := r.addedIds ++ [name] }
    | .tag => { r with addedTags := r.addedTags ++ [name] }

end Report

def wanted (views : List Record) : List (EntryKind × String) :=
  views.flatMap fun v => (.id, v.id) :: (v.tagAttribute.map fun t => (.tag, t)).toList

def ensureWanted (s : Element × Report) (w : EntryKind × String) : Element × Report :=
  let (set, change) := ensureEntry s.1 w.1 w.2
  (set, s.2.note w.1 w.2 change)

def syncSet (x : ViewIndex) (set : Element) (r : Report) : Element × Report :=
  (wanted x.views).foldl ensureWanted (set, r)

def newSet (name : String) : Element where
  tag := "property-set"
  attributes := Dict.ofList [("name", name)]

/-- Brings the first property set of the name up to date; one is added at the end if need be. -/
def sync (theme : Element) (x : ViewIndex) (name : String) : Element × Report :=
  match theme.findChild? "property-set" name with
  | some set =>
    let (set, r) := syncSet x set {}
    (theme.modifyChild "property-set" name fun _ => set, r)
  | none =>
    let (set, r) := syncSet x (newSet name) { createdPropertySet := true }
    ({ theme with children := theme.children ++ [set] }, r)

end LayoutSync.Theme
