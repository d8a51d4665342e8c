import LayoutSync.CommandLine.Arguments
import LayoutSync.Workspace.Generator

namespace LayoutSync.CommandLine

open Workspace

structure Outcome where
  tree : FileTree
  code : Nat
  output : String := ""
  errors : String := ""

structure Failure where
  message : String
  cause : Option String := none

def indented (s : String) : String := "    " ++ "\n    ".intercalate (s.splitOn "\n")

def Failure.print (f : Failure) : String :=
  let causes :=
    match f.cause with
    | none => ""
    | some c => "\n\nCaused by:\n" ++ indented c
  "Error: " ++ f.message ++ causes ++ "\n"

def Failure.ofFault (f : Fault) : Failure := ⟨f.message, f.cause?⟩

def padded (width : Nat) (s : String) : String :=
  s ++ String.ofList (List.replicate (width - s.length) ' ')

def label : Status → String
  | .written => "written"
  | .unchanged => "unchanged"
  | .skipped => "skipped"
  | .failed message => "FAILED: " ++ message

def printReport (r : Report) : String :=
  if r.notApplicable then "skipped  " ++ r.layout ++ "\n"
  else
    r.layout ++ "\n" ++ String.join (r.statuses.map fun s =>
      "  " ++ padded 10 (label s.status) ++ " " ++ s.path ++ "\n")

def printTable (t : ImportTable) : String :=
  String.join (t.statements.entries.map fun (name, statement) =>
    padded 32 name ++ " " ++ statement ++ "\n") ++ toString t.size ++ " types\n"

def canonical (t : FileTree) (label path : String) : Except Failure String :=
  match t.lookup path with
  | .ok (l, _) => .ok ("/" ++ "/".intercalate l)
  | .error f => .error ⟨label ++ path ++ " not found", some f.message⟩

def settings (t : FileTree) (workspace : String) : Option String → Except Fault Settings
  | some path => Settings.parseFile t path
  | none => Settings.load t workspace

def prepare (t : FileTree) (a : Arguments) : Except Failure Generator := do
  let workspace ← canonical t "workspace " a.workspace
  match settings t workspace a.config >>= Generator.new workspace with
  | .ok g => return g
  | .error f => .error (.ofFault f)

def verdict? (reports : List Report) : Option Failure :=
  let failed := (reports.filter (·.hasFailures)).length
  if 0 < failed then
    some ⟨toString failed ++ " of " ++ toString reports.length ++ " layouts had failures", none⟩
  else if reports.any (·.notApplicable) then
    some ⟨"not a layout file (expected res/<dir>/layout/<name>.xml)", none⟩
  else none

def conclude (t : FileTree) (reports : List Report) : Outcome :=
  let output := String.join (reports.map printReport)
  match verdict? reports with
  | none => { tree := t, code := 0, output }
  | some f => { tree := t, code := 1, output, errors := f.print }

def fails (t : FileTree) (f : Failure) : Outcome := { tree := t, code := 1, errors := f.print }

def execute (t : FileTree) (g : Generator) : Command → Outcome
  | .imports =>
    match (g.imports.get t).1 with
    | .error f => fails t (.ofFault f)
    | .ok table => { tree := t, code := 0, output := printTable table }
  | .generate _ true =>
    let (t, _, reports) := g.processWorkspace t
    conclude t reports
  | .generate none false => fails t ⟨"pass a layout file or --all", none⟩
  | .generate (some file) false =>
    match canonical t "" file with
    | .error f => fails t f
    | .ok file =>
      let (t, _, report) := g.processLayout t file
      conclude t [report]

def run (t : FileTree) (args : List String) : Outcome :=
  match Arguments.parse? args with
  | none => { tree := t, code := 2 }
  | some a =>
    match prepare t a with
    | .error f => fails t f
    | .ok g => execute t g a.command

end LayoutSync.CommandLine
