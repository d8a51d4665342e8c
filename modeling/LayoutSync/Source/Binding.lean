import LayoutSync.Source.Request

namespace LayoutSync.Source

open Layout

def propertyLine (v : Record) : String := indent 1 ("public " ++ v.id ++ ": " ++ v.tag ++ ";")

def assignmentLine (v : Record) : String :=
  indent 2 ("this." ++ v.id ++ " = rootView.findViewById('" ++ v.id ++ "') as " ++ v.tag ++ ";")

def bindingMembers (container : String) (views : List Record) : List String :=
  views.map propertyLine ++ (if views.isEmpty then [] else [""])
    ++ [indent 1 ("constructor(rootView: " ++ container ++ ") \x7b")]
    ++ views.map assignmentLine ++ [indent 1 "\x7d"]

def bindingImports (q : Request) : List String :=
  q.typeImport q.rootContainer :: q.boundViews.map Prod.snd

def binding (q : Request) : File :=
  let name := q.names.binding
  let views := q.boundViews.map Prod.fst
  (({ fileName := name ++ ".ts" : File }.addImports (bindingImports q)).push "class"
    (block ("class " ++ name) (bindingMembers q.rootContainer.typeName views))).push "export"
    ("export = " ++ name ++ ";")

end LayoutSync.Source
