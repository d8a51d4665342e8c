import LayoutSync.Text.Ranges

/-!
Paths as text. Two spellings of a path differ in names that say nothing, such as the empty name
between two slashes; operations look at names and leave the rest of the spelling alone.
-/

namespace LayoutSync.Path

open Text

def isIdle (name : List Char) : Bool := name = [] || name = ['.']

def isAbsolute (p : String) : Bool := p.toList.head? = some '/'

def lead : List Char → List Char
  | '/' :: _ => ['/']
  | ['.'] => ['.']
  | '.' :: '/' :: _ => ['.']
  | _ => []

def names (cs : List Char) : List (List Char) := pieces '/' (cs.drop (lead cs).length)

def ofNames (ns : List (List Char)) : List Char := List.intercalate ['/'] ns

def trimEnd (ns : List (List Char)) : List (List Char) := (ns.reverse.dropWhile isIdle).reverse

def components (p : String) : List (List Char) :=
  let cs := p.toList
  (if lead cs = [] then [] else [lead cs]) ++ (names cs).filter (!isIdle ·)

def dropNames : Nat → List (List Char) → List (List Char)
  | 0, ns => ns
  | _ + 1, [] => []
  | k + 1, n :: ns => if isIdle n then dropNames (k + 1) ns else dropNames k ns

def dropComponents (cs : List Char) : Nat → List Char
  | 0 => lead cs ++ ofNames (trimEnd (names cs))
  | k + 1 =>
    ofNames (trimEnd ((dropNames (if lead cs = [] then k + 1 else k) (names cs)).dropWhile isIdle))

def relativeTo? (base p : String) : Option String :=
  if (components base).isPrefixOf (components p) then
    some (String.ofList (dropComponents p.toList (components base).length))
  else none

def join (p q : String) : String :=
  if isAbsolute q || p.isEmpty then q
  else if p.toList.getLast? = some '/' then p ++ q
  else p ++ "/" ++ q

def pathBelow (base : String) (ns : List String) : String := ns.foldl join base

def parent? (p : String) : Option String :=
  let cs := p.toList
  let ns := trimEnd (names cs)
  if ns.isEmpty then if lead cs = ['.'] then some "" else none
  else some (String.ofList (lead cs ++ ofNames (trimEnd ns.dropLast)))

def fileName? (p : String) : Option String :=
  match (trimEnd (names p.toList)).getLast? with
  | none => none
  | some n => if n = ['.', '.'] then none else some (String.ofList n)

def splitExtension (name : List Char) : List Char × Option (List Char) :=
  let extension := (name.reverse.takeWhile (· ≠ '.')).reverse
  let stem := name.take (name.length - extension.length - 1)
  if stem.isEmpty || extension.length = name.length then (name, none) else (stem, some extension)

def stem? (p : String) : Option String :=
  (fileName? p).map fun n => String.ofList (splitExtension n.toList).1

def extension? (p : String) : Option String :=
  (fileName? p).bind fun n => (splitExtension n.toList).2.map String.ofList

def setExtension (p extension : String) : String :=
  let cs := p.toList
  match stem? p with
  | none => p
  | some stem =>
    String.ofList (lead cs ++ ofNames ((trimEnd (names cs)).dropLast ++ [stem.toList]))
      ++ "." ++ extension

/-- Takes as many characters from the end as the extension has, and then sets the new one. -/
def withExtension (p extension : String) : String :=
  match extension? p with
  | none => setExtension p extension
  | some e =>
    let cs := p.toList
    setExtension (String.ofList (cs.take (cs.length - e.length))) extension

end LayoutSync.Path
