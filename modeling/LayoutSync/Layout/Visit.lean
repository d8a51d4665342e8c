import LayoutSync.Markup.Element

/-!
The order in which a layout is visited: an element before its children, and children group by
group of equal tag.
-/

namespace LayoutSync.Layout

open Markup

/-- Brings elements of one tag together, tags in order of first appearance. -/
def regroup (cs : List Element) : List Element := (Element.groupsOf cs).flatMap Prod.snd

mutual

def grouped : Element → Element
  | ⟨tag, attributes, text, tail, children⟩ =>
    ⟨tag, attributes, text, tail, regroup (groupedAll children)⟩

def groupedAll : List Element → List Element
  | [] => []
  | c :: cs => grouped c :: groupedAll cs

end

structure Visit where
  element : Element
  enclosing : List Nat

mutual

def visitsFrom (slot : Nat) (enclosing : List Nat) : Element → List Visit
  | ⟨tag, attributes, text, tail, children⟩ =>
    ⟨⟨tag, attributes, text, tail, children⟩, enclosing⟩
      :: visitsOfAll (slot + 1) (slot :: enclosing) children

def visitsOfAll (slot : Nat) (enclosing : List Nat) : List Element → List Visit
  | [] => []
  | c :: cs =>
    let first := visitsFrom slot enclosing c
    first ++ visitsOfAll (slot + first.length) enclosing cs

end

/-- All elements of a layout in visiting order; a slot is a place in this list. -/
def visits (root : Element) : List Visit := visitsFrom 0 [] (grouped root)

end LayoutSync.Layout
