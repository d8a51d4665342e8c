import LayoutSync.Json.Record
import LayoutSync.Settings.Basic

namespace LayoutSync

open Json

def storing {σ α : Type} (read : Nat → List Char → Except Fault (α × List Char))
    (store : σ → α → σ) (room : Nat) (t : σ) (cs : List Char) : Except Fault (σ × List Char) := do
  let (a, r) ← read room cs
  return (store t a, r)

def needed {α : Type} (name : String) : Option α → Except String α
  | some a => .ok a
  | none => .error name

def readText (_room : Nat) (cs : List Char) : Except Fault (String × List Char) :=
  expectString "a string" cs

def readPath (_room : Nat) (cs : List Char) : Except Fault (String × List Char) :=
  expectString "path string" cs

def readFlag (_room : Nat) (cs : List Char) : Except Fault (Bool × List Char) := expectBool cs

namespace TypeReference

structure Draft where
  typeName : Option String := none
  module : Option String := none

def shape : Shape Draft TypeReference where
  name := "struct TypeRef"
  fields := [
    ⟨"typeName", true, fun t => t.typeName.isSome,
      storing readText fun t a => { t with typeName := some a }⟩,
    ⟨"module", true, fun t => t.module.isSome,
      storing readText fun t a => { t with module := some a }⟩]
  start := {}
  finish t := do return ⟨← needed "typeName" t.typeName, ← needed "module" t.module⟩

end TypeReference

namespace EventParameter

structure Draft where
  name : Option String := none
  type : Option String := none

def shape : Shape Draft EventParameter where
  name := "struct EventParam"
  fields := [
    ⟨"name", true, fun t => t.name.isSome,
      storing readText fun t a => { t with name := some a }⟩,
    ⟨"type", true, fun t => t.type.isSome,
      storing readText fun t a => { t with type := some a }⟩]
  start := {}
  finish t := do return ⟨← needed "name" t.name, ← needed "type" t.type⟩

end EventParameter

namespace ViewEvent

structure Draft where
  eventName : Option String := none
  handlerName : Option String := none
  parameters : Option (List EventParameter) := none

def shape : Shape Draft ViewEvent where
  name := "struct EventSpec"
  fields := [
    ⟨"eventName", true, fun t => t.eventName.isSome,
      storing readText fun t a => { t with eventName := some a }⟩,
    ⟨"handlerName", true, fun t => t.handlerName.isSome,
      storing readText fun t a => { t with handlerName := some a }⟩,
    ⟨"params", false, fun t => t.parameters.isSome,
      storing (fun room => expectArray room EventParameter.shape.read)
        fun t a => { t with parameters := some a }⟩]
  start := {}
  finish t := do
    return ⟨← needed "eventName" t.eventName, ← needed "handlerName" t.handlerName,
      t.parameters.getD []⟩

end ViewEvent

namespace EventRule

structure Draft where
  pattern : Option String := none
  events : Option (List ViewEvent) := none

def shape : Shape Draft EventRule where
  name := "struct EventRuleConfig"
  fields := [
    ⟨"pattern", true, fun t => t.pattern.isSome,
      storing readText fun t a => { t with pattern := some a }⟩,
    ⟨"events", true, fun t => t.events.isSome,
      storing (fun room => expectArray room ViewEvent.shape.read)
        fun t a => { t with events := some a }⟩]
  start := {}
  finish t := do return ⟨← needed "pattern" t.pattern, ← needed "events" t.events⟩

end EventRule

namespace Settings

structure Draft where
  settings : Settings := {}
  seen : List String := []

def field {α : Type} (name : String) (read : Nat → List Char → Except Fault (α × List Char))
    (store : Settings → α → Settings) : RecordField Draft where
  name := name
  required := false
  isSet t := t.seen.contains name
  read := storing read fun t a => ⟨store t.settings a, name :: t.seen⟩

def readParentPolicy (room : Nat) (cs : List Char) :
    Except Fault (Layout.ParentPolicy × List Char) := do
  let (n, r) ← expectName (Layout.ParentPolicy.all.map (·.name)) room cs
  return ((Layout.ParentPolicy.ofName? n).getD default, r)

def shape : Shape Draft Settings where
  name := "struct GeneratorConfig"
  fields := [
    field "moduleRoot" readPath fun s a => { s with moduleRoot := a },
    field "outputDir" readPath fun s a => { s with outputDir := a },
    field "presenterDir" readPath fun s a => { s with presenterDir := a },
    field "themeVariants" (fun room => expectArray room readText)
      fun s a => { s with themeVariants := a },
    field "baseTheme" readText fun s a => { s with baseTheme := a },
    field "defaultContainerType" readText fun s a => { s with defaultContainerType := a },
    field "rootContainer" TypeReference.shape.read fun s a => { s with rootContainer := a },
    field "presenterBaseClass" TypeReference.shape.read
      fun s a => { s with presenterBaseClass := a },
    field "eventRules" (fun room => expectArray room EventRule.shape.read)
      fun s a => { s with eventRules := a },
    field "parentPolicy" readParentPolicy fun s a => { s with parentPolicy := a },
    field "presenterBase" readFlag fun s a => { s with presenterBase := a },
    field "checkSyntax" readFlag fun s a => { s with checkSyntax := a }]
  start := {}
  finish t := .ok t.settings

def parse (source : String) : Except Fault Settings := shape.parse source

end Settings

end LayoutSync
