import LayoutSync.Source.Request

namespace LayoutSync.Source

open Layout

def handlerName (v : Record) (e : ViewEvent) : String := handlerMethod v.id e.handlerName

def handlerLine (v : Record) (e : ViewEvent) : String :=
  indent 1 (handlerName v e ++ "?(" ++ parameterList e ++ "): void;")

def listenerLine (v : Record) (e : ViewEvent) : String :=
  indent 2 ("this.viewBinding." ++ v.id ++ ".on('" ++ e.eventName ++ "', this.eventHandler."
    ++ handlerName v e ++ "?.bind(this.eventHandler));")

def dispatcherMembers (names : ModuleNames) (listeners : List String) : List String :=
  [indent 1 ("private eventHandler: " ++ names.handler ++ ";"),
    "",
    indent 1 ("private viewBinding: " ++ names.binding ++ ";"),
    "",
    indent 1 ("constructor(viewBinding: " ++ names.binding ++ ", eventHandler: " ++ names.handler
      ++ ") \x7b"),
    indent 2 "this.viewBinding = viewBinding;",
    indent 2 "this.eventHandler = eventHandler;",
    indent 2 "this.attachListeners();",
    indent 1 "\x7d",
    "",
    indent 1 "private attachListeners(): void \x7b"]
    ++ listeners ++ [indent 1 "\x7d"]

def eventDispatchImports (q : Request) : List String :=
  siblingImport q.names.binding :: q.viewEvents.flatMap fun p => q.parameterImports p.2

def eventDispatch (q : Request) : File :=
  let names := q.names
  let handlers := q.viewEvents.map fun p => handlerLine p.1 p.2
  let listeners := q.viewEvents.map fun p => listenerLine p.1 p.2
  (({ fileName := names.event ++ ".ts" : File }.addImports (eventDispatchImports q)).push "handler"
    (block ("export interface " ++ names.handler) handlers)).push "dispatcher"
    (block ("export class " ++ names.event) (dispatcherMembers names listeners))

end LayoutSync.Source
