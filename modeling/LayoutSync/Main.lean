import LayoutSync.CommandLine.Run

/-!
The program. The directories that a run may look at are read before it, and what it made or changed
is written after it.
-/

namespace LayoutSync.CommandLine

def locationOf (path : String) : Location :=
  ((Text.pieces '/' path.toList).filter (· ≠ [])).map String.ofList

def pathOf (l : Location) : String := "/" ++ "/".intercalate l

def withAncestors (t : FileTree) (l : Location) : FileTree :=
  (List.range l.length).foldl (fun t n => t.put (l.take (n + 1)) .directory) t

def orWithout (t : FileTree) (path : String) (step : IO FileTree) : IO FileTree := do
  try step
  catch fault =>
    IO.eprintln ("cannot read " ++ path ++ ": " ++ toString fault)
    return t

partial def takeEntry (l : Location) (t : FileTree) (e : IO.FS.DirEntry) : IO FileTree := do
  let l := l ++ [e.fileName]
  orWithout t e.path.toString do
    match (← e.path.symlinkMetadata).type with
    | .dir =>
      let t := t.put l .directory
      orWithout t e.path.toString do (← e.path.readDir).foldlM (takeEntry l) t
    | .file => return t.put l (.file (← IO.FS.readBinFile e.path))
    | _ => return t

def takePath (t : FileTree) (path : String) : IO FileTree := do
  let place ← IO.FS.realPath path
  let l := locationOf place.toString
  if ← place.isDir then
    let t := withAncestors t l
    orWithout t path do (← place.readDir).foldlM (takeEntry l) t
  else return (withAncestors t l.dropLast).put l (.file (← IO.FS.readBinFile place))

def directories (a : Arguments) : List String :=
  let files :=
    match a.command with
    | .generate (some file) _ => [file]
    | _ => []
  let parents := (files ++ a.config.toList).filterMap Path.parent?
  a.workspace :: parents.map fun p => if p.isEmpty then "." else p

def readTree (args : List String) : IO FileTree := do
  let current := locationOf (← IO.currentDir).toString
  let paths := ((Arguments.parse? args).map directories).getD []
  paths.foldlM (fun t path => try takePath t path catch _ => return t)
    (withAncestors { current } current)

def writeEntry (p : Location × Entry) : IO Unit :=
  match p.2 with
  | .directory => IO.FS.createDirAll (pathOf p.1)
  | .file content => IO.FS.writeBinFile (pathOf p.1) content

def writeTree (before after : FileTree) : IO Unit := do
  for p in after.entries.mergeSort fun p q => p.1.length ≤ q.1.length do
    if before.find? p.1 ≠ some p.2 then writeEntry p

end LayoutSync.CommandLine

def main (args : List String) : IO UInt32 := do
  let tree ← LayoutSync.CommandLine.readTree args
  let outcome := LayoutSync.CommandLine.run tree args
  LayoutSync.CommandLine.writeTree tree outcome.tree
  IO.print outcome.output
  IO.eprint outcome.errors
  return outcome.code.toUInt32
