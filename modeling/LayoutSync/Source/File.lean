namespace LayoutSync.Source

structure Section where
  name : String
  text : String
deriving DecidableEq, Repr

structure File where
  fileName : String
  imports : List String := []
  sections : List Section := []
deriving DecidableEq, Repr

namespace File

def addImport (f : File) (statement : String) : File :=
  if f.imports.contains statement then f else { f with imports := f.imports ++ [statement] }

def addImports (f : File) (statements : List String) : File := statements.foldl addImport f

def push (f : File) (name text : String) : File :=
  { f with sections := f.sections ++ [⟨name, text⟩] }

def section? (f : File) (name : String) : Option String :=
  (f.sections.find? (·.name = name)).map (·.text)

def blocks (f : File) : List String :=
  (if f.imports.isEmpty then [] else ["\n".intercalate f.imports]) ++ f.sections.map (·.text)

def render (f : File) : String := "\n\n".intercalate f.blocks ++ "\n"

end File

def block (header : String) (members : List String) : String :=
  header ++ " \x7b\n" ++ String.join (members.map (· ++ "\n")) ++ "\x7d"

def indent (level : Nat) (line : String) : String :=
  String.join (List.replicate level "    ") ++ line

end LayoutSync.Source
