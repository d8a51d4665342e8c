import LayoutSync.Source.Request

namespace LayoutSync.Source

def factoryImports (q : Request) : List String := [
  q.typeImport q.rootContainer,
  siblingImport q.names.binding,
  "import \x7b " ++ q.names.event ++ ", " ++ q.names.handler ++ " \x7d from \"./" ++ q.names.event
    ++ "\";"]

def factoryBody (names : ModuleNames) : List String := [
  indent 1 ("const viewBinding = new " ++ names.binding ++ "(viewAndEventHandler.view);"),
  indent 1 ("const viewEvent = new " ++ names.event ++ "(viewBinding, viewAndEventHandler);"),
  "",
  indent 1 "return \x7b",
  indent 2 "viewBinding,",
  indent 2 "viewEvent,",
  indent 1 "\x7d;"]

def factory (q : Request) : File :=
  let names := q.names
  ((({ fileName := names.factory ++ ".ts" : File }.addImports (factoryImports q)).push "interface"
    (block ("interface " ++ names.viewAndHandler ++ " extends " ++ names.handler)
      [indent 1 ("view: " ++ q.rootContainer.typeName ++ ";")])).push "function"
    (block ("function " ++ names.factory ++ "(viewAndEventHandler: " ++ names.viewAndHandler ++ ")")
      (factoryBody names))).push "export"
    ("export = " ++ names.factory ++ ";")

end LayoutSync.Source
