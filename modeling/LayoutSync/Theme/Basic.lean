import LayoutSync.Markup.Document
import LayoutSync.Text.Blank

namespace LayoutSync.Theme

open Markup

inductive EntryKind where
  | id
  | tag
deriving DecidableEq, Repr

def EntryKind.element : EntryKind → String
  | id => "id"
  | tag => "tag"

inductive Fault where
  | malformed (fault : DocumentFault)
  | wrongRoot (tag : String)
deriving DecidableEq

def wrongRootReason (tag : String) : String :=
  "root element is <" ++ tag ++ ">, expected <theme>"

structure EntrySummary where
  name : String
  hasContent : Bool
deriving DecidableEq, Repr

structure PropertySetSummary where
  name : String
  ids : List EntrySummary
  tags : List EntrySummary
deriving DecidableEq, Repr

structure Summary where
  theme : String
  propertySets : List PropertySetSummary
deriving DecidableEq, Repr

def nameOf (e : Element) : String := (e.attr "name").getD ""

def summarizeEntries (set : Element) (kind : EntryKind) : List EntrySummary :=
  (set.named kind.element).map fun e => ⟨nameOf e, e.hasContent⟩

def summarize (theme : Element) : Summary where
  theme := nameOf theme
  propertySets := (theme.named "property-set").map fun set =>
    ⟨nameOf set, summarizeEntries set .id, summarizeEntries set .tag⟩

def Summary.propertySet? (s : Summary) (name : String) : Option PropertySetSummary :=
  s.propertySets.find? (·.name = name)

def create (name base : String) : Document where
  root := {
    tag := "theme"
    attributes := Dict.ofList [("name", name), ("extend", base)] }

/-- The theme in a file's text; a file that is missing or blank starts a theme of the name. -/
def load (existing : Option String) (name base : String) : Except Fault Document :=
  match existing with
  | none => .ok (create name base)
  | some source =>
    if Text.allBlank source.toList then .ok (create name base)
    else
      match Document.parse source with
      | .error f => .error (.malformed f)
      | .ok d => if d.root.tag = "theme" then .ok d else .error (.wrongRoot d.root.tag)

end LayoutSync.Theme
