import LayoutSync.Layout.Canonical
import LayoutSync.Markup.Printer
import LayoutSync.Settings.Decoding
import LayoutSync.Source.Binding
import LayoutSync.Source.EventDispatch
import LayoutSync.Source.EventRules
import LayoutSync.Source.Factory
import LayoutSync.Source.PresenterBase
import LayoutSync.Theme.Sync
import LayoutSync.Workspace.LayoutPaths
import LayoutSync.Workspace.Report

/-!
A workspace whose files are kept in step: saving a layout normalizes it, completes its parameter
file and the themes, and generates modules from it. A stage that fails does not stop the others.
-/

namespace LayoutSync

open Markup Layout Workspace

-- Contents are compared as in the core library, whatever else is imported.
attribute [local instance(high)] ByteArray.instDecidableEq

abbrev Step (α : Type) := FileTree × α

/-- Writes a file unless it holds the text already, and says whether it was written. -/
def writeIfChanged (t : FileTree) (path text : String) : Step (Except Fault Bool) :=
  let content := text.toUTF8
  match t.read path with
  | .ok current => if current = content then (t, .ok false) else write
  | .error .missing => write
  | .error f => (t, .error (.access path f))
where
  write : Step (Except Fault Bool) :=
    match Path.parent? path with
    | none => writeIn t
    | some parent =>
      match t.makeDirectories parent with
      | (u, .error f) => (u, .error (.access parent f))
      | (u, .ok ()) => writeIn u
  writeIn (t : FileTree) : Step (Except Fault Bool) :=
    match t.write path text.toUTF8 with
    | .ok u => (u, .ok true)
    | .error f => (t, .error (.access path f))

def Workspace.Status.ofResult : Except Fault Bool → Status
  | .ok true => .written
  | .ok false => .unchanged
  | .error f => .failed f.message

/-- Brings a file in step: the new text is made from the old one; none leaves the file alone. -/
def updateFile (t : FileTree) (path : String)
    (update : Option String → Except Fault (Option String)) : Step Status :=
  let result : Step (Except Fault Bool) :=
    match t.readText? path with
    | .error f => (t, .error (.access path f))
    | .ok existing =>
      match update existing with
      | .error f => (t, .error f)
      | .ok none => (t, .ok false)
      | .ok (some text) => writeIfChanged t path text
  (result.1, .ofResult result.2)

def Settings.parseFile (t : FileTree) (path : String) : Except Fault Settings :=
  match t.readText path with
  | .error f => .error (.access path f)
  | .ok source =>
    match Settings.parse source with
    | .ok s => .ok s
    | .error f => .error (.settings source f)

def Settings.fileName : String := "layoutgen.json"

def Settings.load (t : FileTree) (workspace : String) : Except Fault Settings :=
  let path := Path.join workspace fileName
  if t.isFile path then parseFile t path else .ok standard

structure Generator where
  workspace : String
  settings : Settings
  rules : EventRules
  imports : ImportTable.Cache

namespace Generator

def new (workspace : String) (s : Settings) : Except Fault Generator := do
  return {
    workspace
    settings := s
    rules := ← EventRules.compile s.eventRules
    imports := { root := Path.join workspace s.moduleRoot } }

def load (t : FileTree) (workspace : String) : Except Fault Generator := do
  new workspace (← Settings.load t workspace)

def withImportTable (g : Generator) (table : ImportTable) : Generator :=
  { g with imports := { root := g.imports.root, table := some table } }

variable (g : Generator)

def updateParameters (origin : String) (x : ViewIndex) (existing : Option String) :
    Except Fault (Option String) :=
  match syncParameters x existing g.settings.defaultContainerType with
  | .error f => .error (.parameters origin f)
  | .ok u => .ok (if u.changed then some u.parameters.print else none)

def syncParameterFile (paths : LayoutPaths) (x : ViewIndex) (t : FileTree) : Step Status :=
  updateFile t paths.parameters (g.updateParameters paths.parameters x)

def updateTheme (path : String) (x : ViewIndex) (set : String) (existing : Option String) :
    Except Fault (Option String) :=
  match Theme.load existing (themeName path) g.settings.baseTheme with
  | .error (.malformed f) => .error (.markup path f)
  | .error (.wrongRoot tag) => .error (.theme path tag)
  | .ok d =>
    let (root, report) := Theme.sync d.root x set
    .ok (if report.changed then some (Document.mk root).print else none)

def eachFile (stage : String → FileTree → Step Status) :
    List String → FileTree → Step (List FileStatus)
  | [], t => (t, [])
  | path :: paths, t =>
    let (t, status) := stage path t
    let (t, rest) := eachFile stage paths t
    (t, ⟨path, status⟩ :: rest)

/-- Themes are skipped where the root of the layout names no property set. -/
def syncThemeFiles (paths : LayoutPaths) (x : ViewIndex) (t : FileTree) :
    Step (List FileStatus) :=
  match x.root?.bind (·.propertySetName) with
  | none => (t, paths.themes.map (⟨·, .skipped⟩))
  | some set => eachFile (fun path t => updateFile t path (g.updateTheme path x set)) paths.themes t

def request (paths : LayoutPaths) (x : ViewIndex) (table : ImportTable) : Source.Request where
  baseName := paths.baseName
  index := x
  imports := table
  eventsOf := g.rules.eventsOf
  rootContainer := g.settings.rootContainer
  presenterBaseClass := g.settings.presenterBaseClass

def sources (paths : LayoutPaths) (q : Source.Request) : List (String × Source.File) :=
  let at_ (directory : String) (f : Source.File) := (Path.join directory f.fileName, f)
  [at_ paths.outputDir (Source.binding q), at_ paths.outputDir (Source.eventDispatch q),
    at_ paths.outputDir (Source.factory q)]
    ++ if g.settings.presenterBase then [at_ paths.presenterDir (Source.presenterBase q)] else []

def writeFiles : List (String × Source.File) → FileTree → Step (List FileStatus)
  | [], t => (t, [])
  | (path, f) :: fs, t =>
    let (t, result) := writeIfChanged t path f.render
    let (t, rest) := writeFiles fs t
    (t, ⟨path, .ofResult result⟩ :: rest)

/-- Without an import table nothing is written, and the directory of the modules is to blame. -/
def writeSources (paths : LayoutPaths) (x : ViewIndex) (imports : Except Fault ImportTable)
    (t : FileTree) : Step (List FileStatus) :=
  match imports with
  | .error f => (t, [⟨paths.outputDir, .failed f.message⟩])
  | .ok table => writeFiles (g.sources paths (g.request paths x table)) t

def readLayout (t : FileTree) (layout : String) : Except Fault Document :=
  match t.readText layout with
  | .error f => .error (.access layout f)
  | .ok source =>
    match Document.parse source with
    | .ok d => .ok d
    | .error f => .error (.markup layout f)

def writeLayout (t : FileTree) (layout : String) (root : Element) (changed : Bool) : Step Status :=
  if changed then
    let (t, result) := writeIfChanged t layout (Document.mk root).print
    (t, .ofResult result)
  else (t, .unchanged)

/-- Handles one saved file, and keeps the import table for the next one. -/
def processLayout (t : FileTree) (layout : String) : FileTree × Generator × Report :=
  match LayoutPaths.derive? g.workspace layout g.settings with
  | none => (t, g, { layout, notApplicable := true })
  | some paths =>
    match readLayout t layout with
    | .error f => (t, g, { layout, normalize := .failed f.message })
    | .ok d =>
      let (root, changed) := normalize d.root paths.baseName
      let (t, normalized) := writeLayout t layout root changed
      let x := ViewIndex.ofLayout root g.settings.parentPolicy
      let (t, parameters) := g.syncParameterFile paths x t
      let (t, themes) := g.syncThemeFiles paths x t
      let (table, imports) := g.imports.get t
      let (t, sources) := g.writeSources paths x table t
      (t, { g with imports }, { layout, normalize := normalized, parameters, themes, sources })

def processAll : Generator → FileTree → List String → FileTree × Generator × List Report
  | g, t, [] => (t, g, [])
  | g, t, layout :: layouts =>
    let (t, g, report) := g.processLayout t layout
    let (t, g, reports) := processAll g t layouts
    (t, g, report :: reports)

def processWorkspace (t : FileTree) : FileTree × Generator × List Report :=
  g.processAll t (layoutFiles t g.workspace)

end Generator

end LayoutSync
