import LayoutSync.Text.Blank
import LayoutSync.Markup.Element
import LayoutSync.Markup.Event

/-!
Documents from events. Character data in a leaf is kept as it is; between elements it belongs to
the element before it (or to the parent, before the first child), and blank runs are indentation.
-/

namespace LayoutSync.Markup

open Text

structure Frame where
  element : Element
  pending : List Char

namespace Frame

def appendTo (old : Option String) (cs : List Char) : Option String :=
  some (old.getD "" ++ String.ofList cs)

/-- Gives the pending data its place, unless it is blank. -/
def flush (f : Frame) : Element :=
  if allBlank f.pending then f.element
  else
    match f.element.children.getLast? with
    | none => { f.element with text := appendTo f.element.text f.pending }
    | some c =>
      { f.element with
        children := f.element.children.dropLast ++ [{ c with tail := appendTo c.tail f.pending }] }

def finish (f : Frame) : Element :=
  if f.element.children.isEmpty then
    { f.element with text := if f.pending.isEmpty then none else some (String.ofList f.pending) }
  else f.flush

def addData (f : Frame) (cs : List Char) : Frame := { f with pending := f.pending ++ cs }

def settle (f : Frame) : Frame := ⟨f.flush, []⟩

def addChild (f : Frame) (c : Element) : Frame :=
  { f with element := { f.element with children := f.element.children ++ [c] } }

end Frame

structure Builder where
  frames : List Frame
  root : Option Element

namespace Builder

def empty : Builder := ⟨[], none⟩

def attach (b : Builder) (e : Element) : Except DocumentFault Builder :=
  match b.frames with
  | f :: fs => .ok { b with frames := f.addChild e :: fs }
  | [] => if b.root.isSome then .error .manyRoots else .ok { b with root := some e }

def settle (b : Builder) : Builder :=
  match b.frames with
  | f :: fs => { b with frames := f.settle :: fs }
  | [] => b

def element (t : Tag) : Except DocumentFault Element :=
  match t.attributes with
  | .ok as => .ok { tag := String.ofList t.name, attributes := as }
  | .error f => .error (.attributes f)

def step (b : Builder) : Event × Nat → Except DocumentFault Builder
  | (.opening t, _) => do
    let e ← element t
    let b := b.settle
    return { b with frames := ⟨e, []⟩ :: b.frames }
  | (.empty t, _) => do
    let e ← element t
    b.settle.attach e
  | (.closing, _) =>
    match b.frames with
    | [] => .error .unbalancedClose
    | f :: fs => attach { b with frames := fs } f.finish
  | (.text raw, position) =>
    match unescape raw with
    | .error f => .error (.text position f)
    | .ok cs =>
      match b.frames with
      | f :: fs => .ok { b with frames := f.addData cs :: fs }
      | [] => if allBlank cs then .ok b else .error .textOutsideRoot
  | (.cdata cs, _) =>
    match b.frames with
    | f :: fs => .ok { b with frames := f.addData cs :: fs }
    | [] => .ok b
  | (.aside, _) => .ok b

def finish (b : Builder) : Except DocumentFault Document :=
  match b.frames, b.root with
  | f :: _, _ => .error (.unclosed f.element.tag)
  | [], some e => .ok ⟨e⟩
  | [], none => .error .noRoot

end Builder

namespace Document

/-- The document of a reading. A fault of an earlier event comes before the fault of the reading. -/
def ofReading (r : Reading) : Except DocumentFault Document := do
  let b ← r.events.foldlM Builder.step Builder.empty
  match r.fault with
  | some (f, position) => .error (.unreadable position f)
  | none => b.finish

def parse (source : String) : Except DocumentFault Document := ofReading (.ofText source)

end Document

end LayoutSync.Markup
