import LayoutSync.Dict

/-!
Elements of a markup document: a tag, attributes in order, character data and child elements.
Edits come with a flag that says whether the element differs from before.
-/

namespace LayoutSync.Markup

structure Element where
  tag : String
  attributes : Dict String := ∅
  /-- Character data before the first child; all of it where there is no child. -/
  text : Option String := none
  /-- Character data after this element, inside its parent. -/
  tail : Option String := none
  children : List Element := []
deriving Inhabited

mutual

def Element.decEq : (a b : Element) → Decidable (a = b)
  | ⟨t, as, x, l, cs⟩, ⟨t', as', x', l', cs'⟩ =>
    if h : t = t' ∧ as = as' ∧ x = x' ∧ l = l' then
      match Element.listDecEq cs cs' with
      | isTrue hc => isTrue (by obtain ⟨rfl, rfl, rfl, rfl⟩ := h; rw [hc])
      | isFalse hc => isFalse fun he => hc (Element.mk.inj he).2.2.2.2
    else isFalse fun he => h (by cases he; simp)

def Element.listDecEq : (as bs : List Element) → Decidable (as = bs)
  | [], [] => isTrue rfl
  | [], _ :: _ => isFalse (by simp)
  | _ :: _, [] => isFalse (by simp)
  | a :: as, b :: bs =>
    match Element.decEq a b, Element.listDecEq as bs with
    | isTrue h, isTrue hs => isTrue (by rw [h, hs])
    | isFalse h, _ => isFalse fun he => h (List.cons.inj he).1
    | _, isFalse hs => isFalse fun he => hs (List.cons.inj he).2

end

namespace Element

instance : DecidableEq Element := decEq

def attr (e : Element) (name : String) : Option String := e.attributes.get? name

def nonEmptyAttr (e : Element) (name : String) : Option String := (e.attr name).filter (· ≠ "")

def id (e : Element) : Option String := e.nonEmptyAttr "id"

def isLeaf (e : Element) : Bool := e.children.isEmpty

def hasContent (e : Element) : Bool := !e.children.isEmpty || e.text.any (· ≠ "")

def setAttr (e : Element) (name value : String) : Element × Bool :=
  if e.attr name = some value then (e, false)
  else ({ e with attributes := e.attributes.put name value }, true)

def removeAttr (e : Element) (name : String) : Element × Bool :=
  if e.attributes.contains name then ({ e with attributes := e.attributes.erase name }, true)
  else (e, false)

def named (e : Element) (tag : String) : List Element := e.children.filter (·.tag = tag)

def groupsOf (cs : List Element) : List (String × List Element) :=
  (cs.map tag).eraseDups.map fun t => (t, cs.filter (·.tag = t))

def childGroups (e : Element) : List (String × List Element) := groupsOf e.children

def isEntry (kind name : String) (e : Element) : Bool := e.tag = kind && e.attr "name" = some name

def findChild? (e : Element) (kind name : String) : Option Element :=
  e.children.find? (isEntry kind name)

def modifyChild (e : Element) (kind name : String) (f : Element → Element) : Element :=
  { e with children := go e.children }
where
  go : List Element → List Element
    | [] => []
    | c :: cs => if isEntry kind name c then f c :: cs else c :: go cs

end Element

structure Document where
  root : Element
deriving DecidableEq

end LayoutSync.Markup
