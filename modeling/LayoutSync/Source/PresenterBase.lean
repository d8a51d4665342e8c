import LayoutSync.Source.Request

namespace LayoutSync.Source

open Layout

def fieldLine (v : Record) : String := indent 1 ("protected " ++ v.id ++ ": " ++ v.tag ++ ";")

def hookLine (v : Record) (e : ViewEvent) : String :=
  indent 1 ("protected abstract " ++ presenterHook v.id e.handlerName ++ "(" ++ parameterList e
    ++ "): void;")

def presenterMembers (q : Request) (v : Record) : List String :=
  (if q.imports.contains v.tag then [fieldLine v] else [])
    ++ (q.eventsOf v.tag).map (hookLine v)

def viewImports (q : Request) (v : Record) : List String :=
  (q.imports.get? v.tag).toList ++ (q.eventsOf v.tag).flatMap q.parameterImports

def presenterImports (q : Request) : List String :=
  q.typeImport q.presenterBaseClass :: q.index.views.flatMap (viewImports q)

def presenterBase (q : Request) : File :=
  let name := q.names.presenterBase
  (({ fileName := name ++ ".ts" : File }.addImports (presenterImports q)).push "class"
    (block ("abstract class " ++ name ++ " extends " ++ q.presenterBaseClass.typeName)
      (q.index.views.flatMap (presenterMembers q)))).push "export"
    ("export = " ++ name ++ ";")

end LayoutSync.Source
