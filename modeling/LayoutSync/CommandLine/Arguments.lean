namespace LayoutSync.CommandLine

inductive Command where
  | generate (file : Option String) (all : Bool)
  | imports
deriving DecidableEq, Repr

structure Arguments where
  workspace : String := "."
  config : Option String := none
  command : Command
deriving DecidableEq, Repr

structure Draft where
  workspace : Option String := none
  config : Option String := none
  all : Bool := false
  files : List String := []
deriving DecidableEq, Repr

inductive PathOption where
  | workspace
  | config
deriving DecidableEq, Repr

def Draft.store? (d : Draft) (o : PathOption) (value : String) : Option Draft :=
  if value.isEmpty then none
  else
    match o with
    | .workspace => if d.workspace.isSome then none else some { d with workspace := some value }
    | .config => if d.config.isSome then none else some { d with config := some value }

def longOption? (name : List Char) : Option PathOption :=
  if name = "workspace".toList then some .workspace
  else if name = "config".toList then some .config
  else none

def shortOption? (c : Char) : Option PathOption :=
  if c = 'w' then some .workspace else if c = 'c' then some .config else none

inductive Argument where
  | positional (value : String)
  | separator
  | flagAll
  | option (o : PathOption) (value : Option String)
  | unknown
deriving DecidableEq, Repr

def splitEquals (cs : List Char) : List Char × Option String :=
  match cs.dropWhile (· ≠ '=') with
  | [] => (cs, none)
  | _ :: value => (cs.takeWhile (· ≠ '='), some (String.ofList value))

def Argument.ofLong (cs : List Char) : Argument :=
  match splitEquals cs with
  | (name, value) =>
    match longOption? name with
    | some o => .option o value
    | none => if name = "all".toList ∧ value = none then .flagAll else .unknown

def Argument.ofShort (c : Char) (value : List Char) : Argument :=
  match shortOption? c, value with
  | none, _ => .unknown
  | some o, [] => .option o none
  | some o, '=' :: r => .option o (some (String.ofList r))
  | some o, r => .option o (some (String.ofList r))

def Argument.ofString (s : String) : Argument :=
  match s.toList with
  | ['-', '-'] => .separator
  | '-' :: '-' :: r => .ofLong r
  | '-' :: c :: r => .ofShort c r
  | _ => .positional s

def isPositional (s : String) : Bool :=
  match Argument.ofString s with
  | .positional _ => true
  | _ => false

def readOptions (allowAll : Bool) : Draft → List String → Option (Draft × List String)
  | d, [] => some (d, [])
  | d, s :: r =>
    match Argument.ofString s with
    | .positional _ => some (d, s :: r)
    | .separator => some (d, s :: r)
    | .unknown => none
    | .flagAll => if allowAll ∧ !d.all then readOptions allowAll { d with all := true } r else none
    | .option o (some value) => (d.store? o value).bind fun d => readOptions allowAll d r
    | .option o none =>
      match r with
      | [] => none
      | value :: r =>
        if isPositional value then
          (d.store? o value).bind fun d => readOptions allowAll d r
        else none

def readRest (allowAll : Bool) : Nat → Draft → List String → Option Draft
  | 0, _, _ => none
  | fuel + 1, d, args =>
    match readOptions allowAll d args with
    | none => none
    | some (d, []) => some d
    | some (d, s :: r) =>
      if s = "--" then some { d with files := d.files ++ r }
      else readRest allowAll fuel { d with files := d.files ++ [s] } r

def command? (name : String) (d : Draft) : Option Command :=
  if name = "generate" then
    match d.files with
    | [] => some (.generate none d.all)
    | [file] => if d.all || file.isEmpty then none else some (.generate (some file) false)
    | _ => none
  else if name = "imports" then if d.files.isEmpty then some .imports else none
  else none

/-- Options may stand on both sides of the command's name; those behind it count. -/
def Arguments.parse? (args : List String) : Option Arguments := do
  let (before, rest) ← readOptions false {} args
  let name ← rest.head?
  let after ← readRest (name = "generate") (rest.length + 1) {} rest.tail
  let command ← command? name after
  return {
    workspace := (after.workspace.or before.workspace).getD "."
    config := after.config.or before.config
    command }

end LayoutSync.CommandLine
