import LayoutSync.Layout.ParentPolicy

namespace LayoutSync

/-- A type and the module that it is imported from where the import table has no entry for it. -/
structure TypeReference where
  typeName : String
  module : String
deriving DecidableEq, Repr

structure EventParameter where
  name : String
  type : String
deriving DecidableEq, Repr

structure ViewEvent where
  eventName : String
  handlerName : String
  parameters : List EventParameter := []
deriving DecidableEq, Repr

/-- Elements whose name matches the pattern get handlers for the events. -/
structure EventRule where
  pattern : String
  events : List ViewEvent
deriving DecidableEq, Repr

namespace EventRule

def touch (eventName handlerName : String) : ViewEvent :=
  ⟨eventName, handlerName, [⟨"event", "TouchEvent"⟩]⟩

def standard : List EventRule := [
  ⟨".*View", [touch "touchend" "TouchEnd", touch "touchstart" "TouchStart",
    touch "touchmove" "TouchMove"]⟩]

end EventRule

/-- Paths that are not absolute start at the workspace. -/
structure Settings where
  moduleRoot : String := "node_modules"
  outputDir : String := "ts/presenter/viewHelper"
  presenterDir : String := "ts/presenter/base_with_view_and_event"
  themeVariants : List String := ["default.xml", "default.light.xml"]
  baseTheme : String := "hdt"
  defaultContainerType : String := "RelativeLayout"
  rootContainer : TypeReference := ⟨"CompositeView", "yunos/ui/view/CompositeView"⟩
  presenterBaseClass : TypeReference := ⟨"Presenter", "yunos/appmodel/Presenter"⟩
  eventRules : List EventRule := EventRule.standard
  parentPolicy : Layout.ParentPolicy := .structural
  presenterBase : Bool := false
  /-- Whether generated modules are checked for syntax; what is found is only logged. -/
  checkSyntax : Bool := true
deriving DecidableEq, Repr

namespace Settings

def standard : Settings := {}

end Settings

end LayoutSync
