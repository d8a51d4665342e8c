import LayoutSync.Markup.Element

/-!
The canonical form of a layout. The root is named after the layout and alone names a property set;
the root and every container with an id refer to their layout parameters, and nothing else does.
-/

namespace LayoutSync.Layout

open Markup

def reference (id : String) : String := "\x7blayout." ++ id ++ "\x7d"

def followedBy {α : Type} (p : α × Bool) (f : α → α × Bool) : α × Bool :=
  let q := f p.1
  (q.1, p.2 || q.2)

def settleAttributes (e : Element) : Element × Bool :=
  followedBy (e.removeAttr "propertySetName") fun e =>
    if e.isLeaf then e.removeAttr "layout"
    else
      match e.id with
      | some id => e.setAttr "layout" (reference id)
      | none => e.removeAttr "layout"

def settleRoot (e : Element) (name : String) : Element × Bool :=
  followedBy (followedBy (e.setAttr "id" name) (·.setAttr "propertySetName" name))
    (·.setAttr "layout" (reference name))

mutual

def settle : Element → Element × Bool
  | ⟨tag, attributes, text, tail, children⟩ =>
    let (e, changed) := settleAttributes ⟨tag, attributes, text, tail, children⟩
    let (cs, changedBelow) := settleAll children
    ({ e with children := cs }, changed || changedBelow)

def settleAll : List Element → List Element × Bool
  | [] => ([], false)
  | c :: cs =>
    let (c, changed) := settle c
    let (cs, changedAfter) := settleAll cs
    (c :: cs, changed || changedAfter)

end

/-- The canonical form of a layout, and whether it differs from the layout. -/
def normalize (root : Element) (name : String) : Element × Bool :=
  let (e, changed) := settleRoot root name
  let (cs, changedBelow) := settleAll root.children
  ({ e with children := cs }, changed || changedBelow)

end LayoutSync.Layout
