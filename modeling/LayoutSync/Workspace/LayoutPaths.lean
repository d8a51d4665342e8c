import LayoutSync.FileTree.Access
import LayoutSync.ImportTable.Discovery
import LayoutSync.Settings.Basic
import LayoutSync.Source.Naming

namespace LayoutSync.Workspace

open Text

/-- Whether a path in the workspace is that of a layout: `res/<any>/layout/<name>.xml`. -/
def isLayoutName (relative : List Char) : Bool :=
  match pieces '/' relative with
  | [r, a, l, f] =>
    r = "res".toList && !a.isEmpty && l = "layout".toList && 4 < f.length
      && ".xml".toList.isSuffixOf f
  | _ => false

def isLayoutFile (workspace path : String) : Bool :=
  match Path.relativeTo? workspace path with
  | none => false
  | some relative => isLayoutName (ImportTable.withSlashes relative).toList

def filesAtDepth (t : FileTree) : Nat → String → List String
  | 0, path =>
    (t.listed path).flatMap fun (name, e) =>
      match e with
      | .file _ => [Path.join path name]
      | .directory => []
  | depth + 1, path =>
    (t.listed path).flatMap fun (name, e) =>
      match e with
      | .file _ => []
      | .directory => filesAtDepth t depth (Path.join path name)

def layoutFiles (t : FileTree) (workspace : String) : List String :=
  (filesAtDepth t 2 (Path.join workspace "res")).filter (isLayoutFile workspace)

structure LayoutPaths where
  layout : String
  baseName : String
  start : String
  parameters : String
  themes : List String
  outputDir : String
  presenterDir : String
deriving DecidableEq, Repr

def themeDirectory? (layout : String) : Option String := do
  let directory ← Path.parent? (← Path.parent? (← Path.parent? layout))
  return Path.join directory "theme"

def LayoutPaths.derive? (workspace layout : String) (s : Settings) : Option LayoutPaths :=
  if !isLayoutFile workspace layout then none
  else do
    let baseName ← Path.stem? layout
    let themes ← themeDirectory? layout
    return {
      layout, baseName
      start := Source.filePrefix baseName
      parameters := Path.withExtension layout "json"
      themes := s.themeVariants.map (Path.join themes)
      outputDir := Path.join workspace s.outputDir
      presenterDir := Path.join workspace s.presenterDir }

def themeName (path : String) : String :=
  String.ofList (((Path.fileName? path).getD "").toList.takeWhile (· ≠ '.'))

end LayoutSync.Workspace
