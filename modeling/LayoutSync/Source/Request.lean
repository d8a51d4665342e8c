import LayoutSync.ImportTable.Basic
import LayoutSync.Layout.Index
import LayoutSync.Settings.Basic
import LayoutSync.Source.File
import LayoutSync.Source.Naming

namespace LayoutSync.Source

open Layout

structure Request where
  baseName : String
  index : ViewIndex
  imports : ImportTable
  eventsOf : String → List ViewEvent
  rootContainer : TypeReference
  presenterBaseClass : TypeReference

namespace Request

variable (q : Request)

def names : ModuleNames := ModuleNames.ofLayout q.baseName

def boundViews : List (Record × String) :=
  q.index.views.filterMap fun v => (q.imports.get? v.tag).map fun s => (v, s)

def viewEvents : List (Record × ViewEvent) :=
  q.index.views.flatMap fun v => (q.eventsOf v.tag).map (v, ·)

/-- The statement for a type; types that the table lacks come from their own module. -/
def typeImport (t : TypeReference) : String :=
  (q.imports.get? t.typeName).getD (importStatement t.typeName t.module)

def parameterImports (e : ViewEvent) : List String :=
  e.parameters.filterMap fun p => q.imports.get? p.type

end Request

def parameterList (e : ViewEvent) : String :=
  ", ".intercalate (e.parameters.map fun p => p.name ++ ": " ++ p.type)

def siblingImport (name : String) : String := importStatement name ("./" ++ name)

end LayoutSync.Source
