import LayoutSync.Pattern.Term

/-!
How large a pattern grows when it is made ready. A counted repetition stands for as many copies of
its body; sizes are estimates in bytes.
-/

namespace LayoutSync.Pattern

def stepSize : Nat := 32

def setSize (intervals : Nat) : Nat := 100 + 60 * intervals

def dotIntervals : Nat := 15

def propertyIntervals : Nat := 600

def ShorthandKind.intervals : ShorthandKind → Nat
  | digit => 71
  | space => 10
  | word => 771

mutual

def ClassTerm.intervals : ClassTerm → Nat
  | .empty _ => 0
  | .literal _ => 1
  | .range _ _ _ => 1
  | .ascii _ _ _ => 1
  | .property _ _ _ => propertyIntervals
  | .shorthand _ kind _ => kind.intervals
  | .bracketed _ _ body => body.intervals
  | .union _ items => classIntervals items
  | .binary _ _ lhs rhs => lhs.intervals + rhs.intervals

def classIntervals : List ClassTerm → Nat
  | [] => 0
  | t :: ts => t.intervals + classIntervals ts

end

mutual

def Term.consumes : Term → Bool
  | .empty _ => false
  | .flags _ _ => false
  | .assertion _ _ => false
  | .repetition _ _ most body => most ≠ some 0 && body.consumes
  | .group _ _ body => body.consumes
  | .alternation _ branches => anyConsumes branches
  | .sequence _ parts => anyConsumes parts
  | _ => true

def anyConsumes : List Term → Bool
  | [] => false
  | t :: ts => t.consumes || anyConsumes ts

end

/-- Copies that must be there, and copies that may; of what is empty one is enough. -/
def copies (least : Nat) (most : Option Nat) (consumes : Bool) : Nat × Nat :=
  let more := most.getD (least + 1) - least
  if consumes then (least, more) else (min least 1, min more 1)

mutual

def Term.size : Term → Nat
  | .empty _ => 0
  | .flags _ _ => 0
  | .literal l => stepSize * l.char.utf8Size
  | .dot _ => setSize dotIntervals
  | .assertion _ _ => stepSize
  | .property _ _ _ => setSize propertyIntervals
  | .shorthand _ kind _ => setSize kind.intervals
  | .bracketed _ _ body => setSize body.intervals
  | .repetition _ least most body =>
    let (needed, more) := copies least most body.consumes
    needed * body.size + more * (body.size + stepSize)
  | .group _ _ body => body.size + stepSize
  | .alternation _ branches => totalSize branches
  | .sequence _ parts => totalSize parts

def totalSize : List Term → Nat
  | [] => 0
  | t :: ts => t.size + totalSize ts

end

end LayoutSync.Pattern
