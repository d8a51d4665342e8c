import LayoutSync.Pattern.Meaning
import LayoutSync.Pattern.Nesting
import LayoutSync.Pattern.Parser
import LayoutSync.Pattern.Size

namespace LayoutSync

/-- Patterns are sought anywhere in a text. -/
structure Pattern where
  matcher : Pattern.Matcher

namespace Pattern

def checkNesting (t : Term) : Except Fault Unit :=
  match t.tooDeep? 0 with
  | some span => fail .nesting span
  | none => .ok ()

def readTerm (source : String) : Except Fault (Term × Matcher) := do
  let t ← Term.ofText source.toList
  checkNesting t
  let (m, _) ← t.meaning {}
  return (t, m)

def parse (source : String) : Except Refusal Pattern :=
  match readTerm source with
  | .error f => .error (.malformed f)
  | .ok (t, m) => if maxSize < t.size then .error .tooLarge else .ok ⟨m⟩

def isMatch (p : Pattern) (text : String) : Bool := p.matcher.matchesIn text.toList

end Pattern

end LayoutSync
