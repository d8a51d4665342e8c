import LayoutSync.Layout.ParentPolicy
import LayoutSync.Layout.Visit

/-!
Flat indexes of layouts: one record for every element, and the records of identified elements by
id. Of elements with the same id the first that is visited is indexed.
-/

namespace LayoutSync.Layout

open Markup

structure Record where
  id : String
  tag : String
  isRoot : Bool
  isLeaf : Bool
  propertySetName : Option String
  layout : Option String
  /-- The value of the attribute `tag`, by which themes know a view. -/
  tagAttribute : Option String
  attributes : Dict String
  parent : Option Nat
  /-- Ids and slots of the indexed views below, up to the next indexed view. -/
  children : List (String × Nat)
deriving DecidableEq

namespace Record

def isIdentified (r : Record) : Bool := r.id ≠ ""

def hasLayout (r : Record) : Bool := r.layout.isSome

def hasPropertySet (r : Record) : Bool := r.propertySetName.isSome

def childIds (r : Record) : List String := r.children.map Prod.fst

end Record

structure Identities where
  slots : Dict Nat := ∅
  duplicates : List String := []

namespace Identities

def add (i : Identities) (v : Visit × Nat) : Identities :=
  match v.1.element.id with
  | none => i
  | some id =>
    if i.slots.contains id then { i with duplicates := i.duplicates ++ [id] }
    else { i with slots := i.slots.put id v.2 }

def ofVisits (vs : List Visit) : Identities := vs.zipIdx.foldl add {}

def nearest? (i : Identities) (enclosing : List Nat) : Option Nat :=
  enclosing.find? i.slots.values.contains

def owners (i : Identities) (vs : List Visit) : List (String × Nat × Option Nat) :=
  i.slots.entries.map fun (id, slot) =>
    (id, slot, (vs[slot]?).bind fun v => i.nearest? v.enclosing)

end Identities

structure ViewIndex where
  records : List Record
  slots : Dict Nat
  duplicates : List String
deriving DecidableEq

namespace ViewIndex

def record (policy : ParentPolicy) (i : Identities) (owners : List (String × Nat × Option Nat))
    (v : Visit × Nat) : Record where
  id := v.1.element.id.getD ""
  tag := v.1.element.tag
  isRoot := v.2 = 0
  isLeaf := v.1.element.isLeaf
  propertySetName := v.1.element.nonEmptyAttr "propertySetName"
  layout := v.1.element.nonEmptyAttr "layout"
  tagAttribute := v.1.element.nonEmptyAttr "tag"
  attributes := v.1.element.attributes
  parent :=
    match policy with
    | .structural => v.1.enclosing.head?
    | .nearestIdentified => i.nearest? v.1.enclosing
  children := (owners.filter (·.2.2 = some v.2)).map fun (id, slot, _) => (id, slot)

def ofLayout (root : Element) (policy : ParentPolicy) : ViewIndex :=
  let vs := visits root
  let i := Identities.ofVisits vs
  let owners := i.owners vs
  ⟨vs.zipIdx.map (record policy i owners), i.slots, i.duplicates⟩

variable (x : ViewIndex)

def get? (id : String) : Option Record := (x.slots.get? id).bind fun slot => x.records[slot]?

def contains (id : String) : Bool := x.slots.contains id

def size : Nat := x.slots.size

def isEmpty : Bool := x.slots.isEmpty

def ids : List String := x.slots.keys

def views : List Record := x.slots.values.filterMap fun slot => x.records[slot]?

def root? : Option Record := x.records.head?

def parentOf? (r : Record) : Option Record := r.parent.bind fun slot => x.records[slot]?

def childrenOf (r : Record) : List Record := r.children.filterMap fun c => x.records[c.2]?

def leaves : List Record := x.views.filter (·.isLeaf)

def containers : List Record := x.views.filter (!·.isLeaf)

def ancestors (r : Record) : List Record := go x.records.length r
where
  go : Nat → Record → List Record
    | 0, _ => []
    | fuel + 1, r =>
      match x.parentOf? r with
      | some p => p :: go fuel p
      | none => []

end ViewIndex

end LayoutSync.Layout
