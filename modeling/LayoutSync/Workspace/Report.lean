namespace LayoutSync.Workspace

inductive Status where
  | written
  | unchanged
  | skipped
  | failed (message : String)
deriving DecidableEq, Repr

namespace Status

def isFailed : Status → Bool
  | failed _ => true
  | _ => false

def isQuiet : Status → Bool
  | unchanged => true
  | skipped => true
  | _ => false

end Status

structure FileStatus where
  path : String
  status : Status
deriving DecidableEq, Repr

structure Report where
  layout : String
  notApplicable : Bool := false
  normalize : Status := .skipped
  parameters : Status := .skipped
  themes : List FileStatus := []
  sources : List FileStatus := []
deriving DecidableEq, Repr

namespace Report

/-- All statuses; the layout's path also stands for its parameter file. -/
def statuses (r : Report) : List FileStatus :=
  [⟨r.layout, r.normalize⟩, ⟨r.layout, r.parameters⟩] ++ r.themes ++ r.sources

def hasFailures (r : Report) : Bool := r.statuses.any (·.status.isFailed)

def isUnchanged (r : Report) : Bool := r.statuses.all (·.status.isQuiet)

end Report

end LayoutSync.Workspace
