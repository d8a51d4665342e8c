import LayoutSync.FileTree.Access
import LayoutSync.Json.Fault
import LayoutSync.Layout.Parameters
import LayoutSync.Pattern.Fault
import LayoutSync.Theme.Basic

namespace LayoutSync

inductive Fault where
  | access (path : String) (fault : AccessFault)
  | markup (origin : String) (fault : Markup.DocumentFault)
  | parameters (origin : String) (fault : Layout.ParametersFault)
  | theme (path tag : String)
  | settings (source : String) (fault : Json.Fault)
  | pattern (source : String) (refusal : Pattern.Refusal)

namespace Fault

def cause? : Fault → Option String
  | access _ f => some f.message
  | pattern source r => some (r.message source)
  | _ => none

def message : Fault → String
  | access path f => "I/O error on " ++ path ++ ": " ++ f.message
  | markup origin f => "malformed XML in " ++ origin ++ ": " ++ f.message
  | parameters origin f => "malformed JSON in " ++ origin ++ ": " ++ f.message
  | theme path tag => "invalid theme document " ++ path ++ ": " ++ Theme.wrongRootReason tag
  | settings source f => "invalid configuration: " ++ f.message source
  | pattern source r => "invalid event pattern '" ++ source ++ "': " ++ r.message source

end Fault

end LayoutSync
