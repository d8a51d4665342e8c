import LayoutSync.ImportTable.Basic
import LayoutSync.Workspace.Fault

/-!
Import tables from a module repository. A package is a directory with a manifest; every type
declaration in a package or below it is imported by its path in the repository. Packages nearer to
the root come first, and a package is not searched for packages. What is in the repository is given
by the names that lead there from its root.
-/

namespace LayoutSync.ImportTable

open Path

def manifest : String := "package.json"

def declarationSuffix : String := ".d.ts"

def isPackage (t : FileTree) (root : String) (ns : List String) : Bool :=
  t.isFile (join (pathBelow root ns) manifest)

def directoriesIn (ns : List String) (entries : List (String × Entry)) : List (List String) :=
  entries.filterMap fun (name, e) => if e = .directory then some (ns ++ [name]) else none

def subdirectories (t : FileTree) (root : String) (ns : List String) :
    Except Fault (List (List String)) :=
  match t.list (pathBelow root ns) with
  | .error f => .error (.access (pathBelow root ns) f)
  | .ok entries => .ok (directoriesIn ns entries)

/-- The packages at or below directories, breadth first. A directory that cannot be listed ends the
search. -/
def packages (t : FileTree) (root : String) :
    Nat → List (List String) → Except Fault (List (List String))
  | 0, _ => return []
  | _ + 1, [] => return []
  | fuel + 1, ns :: queue => do
    if isPackage t root ns then return ns :: (← packages t root fuel queue)
    else packages t root fuel (queue ++ (← subdirectories t root ns))

def filesBelow (t : FileTree) (root : String) : Nat → List String → List (List String)
  | 0, _ => []
  | fuel + 1, ns =>
    (t.listed (pathBelow root ns)).flatMap fun (name, e) =>
      match e with
      | .file _ => [ns ++ [name]]
      | .directory => filesBelow t root fuel (ns ++ [name])

def withoutSuffix? (s : String) : Option String :=
  let cs := s.toList
  if declarationSuffix.toList.isSuffixOf cs then
    some (String.ofList (cs.take (cs.length - declarationSuffix.length)))
  else none

def withSlashes (s : String) : String := s.map fun c => if c = '\\' then '/' else c

def declaration? (file : List String) : Option (String × String) := do
  let name ← withoutSuffix? (← file.getLast?)
  let path := withSlashes ("/".intercalate file)
  return (name, (withoutSuffix? path).getD path)

def declarations (t : FileTree) (root : String) : Except Fault (List (String × String)) := do
  let size := t.entries.length + 1
  return (← packages t root size [[]]).flatMap fun package =>
    (filesBelow t root size package).filterMap declaration?

def ofRepository (t : FileTree) (root : String) : Except Fault ImportTable := do
  if t.isDirectory root then return ofList (← declarations t root)
  else return empty

structure Cache where
  root : String
  table : Option ImportTable := none

/-- Builds the table at its first use. A failed build is not kept, and the next use tries again. -/
def Cache.get (c : Cache) (t : FileTree) : Except Fault ImportTable × Cache :=
  match c.table with
  | some table => (.ok table, c)
  | none =>
    match ofRepository t c.root with
    | .error f => (.error f, c)
    | .ok table => (.ok table, { c with table := some table })

end LayoutSync.ImportTable
