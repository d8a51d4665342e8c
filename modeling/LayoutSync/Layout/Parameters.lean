import LayoutSync.Json.Printer
import LayoutSync.Json.Reader
import LayoutSync.Layout.Index
import LayoutSync.Text.Blank

/-!
The parameter file of a layout: a JSON object with an entry for every container, which holds its
type and the parameters of the views in it. Only what is missing is added.
-/

namespace LayoutSync.Layout

open Json

inductive ParametersFault where
  | malformed (fault : Json.Fault) (source : String)
  | notObject (kind : String)

def ParametersFault.message : ParametersFault → String
  | malformed f source => f.message source
  | notObject kind => "expected an object at top level, found " ++ kind

abbrev Parameters := List (String × Value)

namespace Parameters

def parse (existing : Option String) : Except ParametersFault Parameters :=
  match existing with
  | none => .ok []
  | some source =>
    if Text.allBlank source.toList then .ok []
    else
      match Value.parse source with
      | .ok (.object ms) => .ok ms
      | .ok v => .error (.notObject v.kind)
      | .error f => .error (.malformed f source)

def print (p : Parameters) : String := (Value.object p).printFile

def ensure (k : String) (v : Value) (ms : Parameters) : Parameters :=
  if (Assoc.get? k ms).isSome then ms else ms ++ [(k, v)]

def missing (ms : Parameters) (ks : List String) : List String :=
  ks.filter fun k => (Assoc.get? k ms).isNone

def completeEntry (defaultType : String) (children : List String) (entry : Parameters) :
    Parameters :=
  let entry := ensure "params" (.object []) (ensure "type" (.string defaultType) entry)
  match Assoc.get? "params" entry with
  | some (.object ps) =>
    Assoc.put "params" (.object (children.foldl (fun ps c => ensure c (.object []) ps) ps)) entry
  | _ => entry

def missingParameters (children : List String) (entry : Parameters) : List String :=
  match Assoc.get? "params" entry with
  | some (.object ps) => missing ps children
  | some _ => []
  | none => children

def isComplete (children : List String) (entry : Parameters) : Bool :=
  (Assoc.get? "type" entry).isSome && (Assoc.get? "params" entry).isSome
    && (missingParameters children entry).isEmpty

end Parameters

structure ParametersUpdate where
  parameters : Parameters
  changed : Bool := false
  addedEntries : List String := []
  addedParameters : List (String × String) := []

namespace ParametersUpdate

open Parameters

/-- Completes the entry of one container; an entry that is no object is left as it is. -/
def addContainer (x : ViewIndex) (defaultType : String) (u : ParametersUpdate) (r : Record) :
    ParametersUpdate :=
  let children := (x.childrenOf r).map (·.id)
  let complete (entry : Parameters) (isNew : Bool) : ParametersUpdate := {
    parameters := Assoc.put r.id (.object (completeEntry defaultType children entry)) u.parameters
    changed := u.changed || !isComplete children entry
    addedEntries := u.addedEntries ++ if isNew then [r.id] else []
    addedParameters := u.addedParameters ++ (missingParameters children entry).map (r.id, ·) }
  match Assoc.get? r.id u.parameters with
  | none => complete [] true
  | some (.object entry) => complete entry false
  | some _ => u

def ofParameters (x : ViewIndex) (defaultType : String) (p : Parameters) : ParametersUpdate :=
  x.containers.foldl (addContainer x defaultType) { parameters := p }

end ParametersUpdate

/-- Brings the text of a parameter file up to date with a layout. -/
def syncParameters (x : ViewIndex) (existing : Option String) (defaultType : String) :
    Except ParametersFault ParametersUpdate := do
  return ParametersUpdate.ofParameters x defaultType (← Parameters.parse existing)

end LayoutSync.Layout
