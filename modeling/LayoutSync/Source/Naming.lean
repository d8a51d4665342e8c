import LayoutSync.Text.Upper

namespace LayoutSync.Source

open Text

def joinWords : Bool → List Char → List Char
  | _, [] => []
  | start, c :: cs =>
    if c.isAlphanum then (if start then c.toUpper else c) :: joinWords false cs
    else joinWords true cs

/-- The words of a text in one; letters and digits other than the Latin ones divide words too. -/
def camelCase (s : String) : String := String.ofList (joinWords true s.toList)

def lowerCamelCase (s : String) : String :=
  match joinWords true s.toList with
  | [] => ""
  | c :: cs => String.ofList (c.toLower :: cs)

def filePrefix (baseName : String) : String := String.ofList (capitalize baseName.toList)

def handlerMethod (viewId handlerName : String) : String :=
  "handle" ++ camelCase viewId ++ camelCase handlerName

def presenterHook (viewId handlerName : String) : String :=
  "on" ++ camelCase viewId ++ camelCase handlerName

def joinParts : List Char → List Char
  | cs => ((parts cs).map capitalize).flatten
where
  parts : List Char → List (List Char)
    | [] => [[]]
    | c :: cs =>
      if c = '-' ∨ c = '_' then [] :: parts cs
      else
        match parts cs with
        | [] => [[c]]
        | p :: ps => (c :: p) :: ps

structure ModuleNames where
  start : String
  binding : String
  event : String
  handler : String
  viewAndHandler : String
  factory : String
  presenterBase : String
deriving DecidableEq, Repr

def ModuleNames.ofLayout (baseName : String) : ModuleNames :=
  let start := filePrefix baseName
  { start
    binding := start ++ "ViewBinding"
    event := start ++ "ViewEvent"
    handler := start ++ "ViewEventHandler"
    viewAndHandler := start ++ "ViewAndEventHandler"
    factory := "create" ++ start ++ "ViewBindingAndEvent"
    presenterBase :=
      String.ofList (joinParts baseName.toList) ++ "BasePresenterWithViewAndEvent" }

end LayoutSync.Source
