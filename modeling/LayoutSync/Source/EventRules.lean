import LayoutSync.Pattern.Basic
import LayoutSync.Settings.Basic
import LayoutSync.Workspace.Fault

namespace LayoutSync

structure EventRules where
  rules : List (Pattern × List ViewEvent)

namespace EventRules

def compileRule (r : EventRule) : Except Fault (Pattern × List ViewEvent) :=
  match Pattern.parse r.pattern with
  | .ok p => .ok (p, r.events)
  | .error f => .error (.pattern r.pattern f)

def compile (rules : List EventRule) : Except Fault EventRules :=
  EventRules.mk <$> rules.mapM compileRule

def eventsOf (r : EventRules) (tag : String) : List ViewEvent :=
  r.rules.flatMap fun (p, events) => if p.isMatch tag then events else []

end EventRules

end LayoutSync
