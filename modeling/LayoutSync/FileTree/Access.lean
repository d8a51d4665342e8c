import LayoutSync.FileTree.Basic
import LayoutSync.Path.Basic
import LayoutSync.Text.Bytes

namespace LayoutSync

inductive AccessFault where
  | missing | occupied | notDirectory | isDirectory | nameTooLong | notText | nul
deriving DecidableEq, Repr

def AccessFault.message : AccessFault → String
  | missing => "No such file or directory (os error 2)"
  | occupied => "File exists (os error 17)"
  | notDirectory => "Not a directory (os error 20)"
  | isDirectory => "Is a directory (os error 21)"
  | nameTooLong => "File name too long (os error 36)"
  | notText => "stream did not contain valid UTF-8"
  | nul => "file name contained an unexpected NUL byte"

namespace FileTree

open Text

def maxNameBytes : Nat := 255

def maxPathBytes : Nat := 4095

def checkName (name : String) : Except AccessFault Unit :=
  if maxNameBytes < name.utf8ByteSize then .error .nameTooLong else .ok ()

def enter (t : FileTree) (l : Location) (name : String) : Except AccessFault Location :=
  if name = "." then .ok l
  else if name = ".." then .ok l.dropLast
  else do
    checkName name
    match t.find? (l ++ [name]) with
    | none => .error .missing
    | some (.file _) => .error .notDirectory
    | some .directory => .ok (l ++ [name])

structure Target where
  directory : Location
  name : String
  asDirectory : Bool

def leadsElsewhere (name : String) : Bool := name = "." || name = ".."

def target? (t : FileTree) (path : String) : Except AccessFault (Option Target) := do
  if path.toList.contains '\x00' then .error .nul
  else if path.isEmpty then .error .missing
  else if maxPathBytes < path.utf8ByteSize then .error .nameTooLong
  else
    let names := ((pieces '/' path.toList).filter (· ≠ [])).map String.ofList
    match names.getLast? with
    | none => return none
    | some name =>
      let start := if Path.isAbsolute path then [] else t.current
      let directory ← names.dropLast.foldlM t.enter start
      return some ⟨directory, name, path.toList.getLast? = some '/'⟩

def lookup (t : FileTree) (path : String) : Except AccessFault (Location × Entry) := do
  match ← t.target? path with
  | none => return ([], .directory)
  | some g =>
    if leadsElsewhere g.name || g.asDirectory then
      return (← t.enter g.directory g.name, .directory)
    else
      checkName g.name
      let l := g.directory ++ [g.name]
      match t.find? l with
      | none => .error .missing
      | some e => return (l, e)

def isFile (t : FileTree) (path : String) : Bool :=
  match t.lookup path with
  | .ok (_, .file _) => true
  | _ => false

def isDirectory (t : FileTree) (path : String) : Bool :=
  match t.lookup path with
  | .ok (_, .directory) => true
  | _ => false

def list (t : FileTree) (path : String) : Except AccessFault (List (String × Entry)) := do
  match ← t.lookup path with
  | (l, .directory) => return t.children l
  | (_, .file _) => .error .notDirectory

def listed (t : FileTree) (path : String) : List (String × Entry) :=
  match t.list path with
  | .ok entries => entries
  | .error _ => []

def read (t : FileTree) (path : String) : Except AccessFault ByteArray := do
  match ← t.lookup path with
  | (_, .file content) => return content
  | (_, .directory) => .error .isDirectory

def readText (t : FileTree) (path : String) : Except AccessFault String := do
  match String.fromUTF8? (← t.read path) with
  | some s => return s
  | none => .error .notText

def readText? (t : FileTree) (path : String) : Except AccessFault (Option String) :=
  match t.readText path with
  | .ok s => .ok (some s)
  | .error .missing => .ok none
  | .error f => .error f

def write (t : FileTree) (path : String) (content : ByteArray) : Except AccessFault FileTree := do
  match ← t.target? path with
  | none => .error .isDirectory
  | some g =>
    if g.asDirectory then .error .isDirectory
    else if leadsElsewhere g.name then
      let _ ← t.enter g.directory g.name
      .error .isDirectory
    else
      checkName g.name
      let l := g.directory ++ [g.name]
      match t.find? l with
      | some .directory => .error .isDirectory
      | _ => return t.put l (.file content)

def makeDirectory (t : FileTree) (path : String) : Except AccessFault FileTree := do
  match ← t.target? path with
  | none => .error .occupied
  | some g =>
    if leadsElsewhere g.name then .error .occupied
    else
      checkName g.name
      let l := g.directory ++ [g.name]
      match t.find? l with
      | some _ => .error .occupied
      | none => return t.put l .directory

def ensureDirectory (t : FileTree) (path : String) : FileTree × Except AccessFault Unit :=
  match t.makeDirectory path with
  | .ok u => (u, .ok ())
  | .error f => (t, if t.isDirectory path then .ok () else .error f)

/-- Makes a directory and up to `fuel` directories around it; those stay when a later one fails. -/
def makeDirectoriesWithin : Nat → FileTree → String → FileTree × Except AccessFault Unit
  | 0, t, _ => (t, .error .missing)
  | fuel + 1, t, path =>
    if path.isEmpty then (t, .ok ())
    else
      match t.makeDirectory path, Path.parent? path with
      | .error .missing, some parent =>
        match makeDirectoriesWithin fuel t parent with
        | (u, .error f) => (u, .error f)
        | (u, .ok ()) => u.ensureDirectory path
      | _, _ => t.ensureDirectory path

def makeDirectories (t : FileTree) (path : String) : FileTree × Except AccessFault Unit :=
  t.makeDirectoriesWithin (path.length + 1) path

end FileTree

end LayoutSync
