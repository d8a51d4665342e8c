import LayoutSync.Markup.Element
import LayoutSync.Markup.Entity

/-!
Written documents. Elements stand on lines of their own, two spaces deeper than their parent,
except where they touch character data.
-/

namespace LayoutSync.Markup

namespace Element

def printAttributes (l : List (String × String)) : List Char :=
  l.flatMap fun e => ' ' :: e.1.toList ++ '=' :: '"' :: escape e.2.toList ++ ['"']

def lineBreak (depth : Nat) (wanted : Bool) : List Char :=
  if wanted then '\n' :: List.replicate (2 * depth) ' ' else []

def printData (data : Option String) : List Char := escape (data.getD "").toList

def noData (data : Option String) : Bool := data.getD "" = ""

mutual

def print (depth : Nat) (wanted : Bool) : Element → List Char
  | ⟨tag, attributes, text, _, children⟩ =>
    lineBreak depth wanted ++ '<' :: tag.toList ++ printAttributes attributes.entries ++
      if children.isEmpty && noData text then "/>".toList
      else
        '>' :: printData text ++ printChildren depth (noData text) children ++ "</".toList
          ++ tag.toList ++ ['>']

def printChildren (depth : Nat) (wanted : Bool) : List Element → List Char
  | [] => lineBreak depth wanted
  | c :: cs =>
    print (depth + 1) wanted c ++ printData c.tail ++ printChildren depth (noData c.tail) cs

end

end Element

namespace Document

def declaration : String := "<?xml version=\"1.0\" encoding=\"UTF-8\"?>"

def print (d : Document) : String :=
  String.ofList (declaration.toList ++ d.root.print 0 true ++ ['\n'])

end Document

end LayoutSync.Markup
