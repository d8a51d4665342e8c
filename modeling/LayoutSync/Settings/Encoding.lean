import LayoutSync.Json.Value
import LayoutSync.Settings.Basic

namespace LayoutSync

open Json

namespace TypeReference

def toJson (t : TypeReference) : Value :=
  .object [("typeName", .string t.typeName), ("module", .string t.module)]

end TypeReference

namespace EventParameter

def toJson (p : EventParameter) : Value :=
  .object [("name", .string p.name), ("type", .string p.type)]

end EventParameter

namespace ViewEvent

def toJson (e : ViewEvent) : Value :=
  .object [("eventName", .string e.eventName), ("handlerName", .string e.handlerName),
    ("params", .array (e.parameters.map EventParameter.toJson))]

end ViewEvent

namespace EventRule

def toJson (r : EventRule) : Value :=
  .object [("pattern", .string r.pattern), ("events", .array (r.events.map ViewEvent.toJson))]

end EventRule

namespace Settings

def members (s : Settings) : List (String × Value) := [
  ("moduleRoot", .string s.moduleRoot),
  ("outputDir", .string s.outputDir),
  ("presenterDir", .string s.presenterDir),
  ("themeVariants", .array (s.themeVariants.map Value.string)),
  ("baseTheme", .string s.baseTheme),
  ("defaultContainerType", .string s.defaultContainerType),
  ("rootContainer", s.rootContainer.toJson),
  ("presenterBaseClass", s.presenterBaseClass.toJson),
  ("eventRules", .array (s.eventRules.map EventRule.toJson)),
  ("parentPolicy", .string s.parentPolicy.name),
  ("presenterBase", .bool s.presenterBase),
  ("checkSyntax", .bool s.checkSyntax)]

def toJson (s : Settings) : Value := .object s.members

end Settings

end LayoutSync
