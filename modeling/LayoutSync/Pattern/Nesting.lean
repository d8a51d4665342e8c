import LayoutSync.Pattern.Term

namespace LayoutSync.Pattern

mutual

def ClassTerm.tooDeep? (depth : Nat) : ClassTerm → Option Span
  | .bracketed span _ body =>
    if maxNesting ≤ depth then some span else body.tooDeep? (depth + 1)
  | .union span items =>
    if maxNesting ≤ depth then some span else anyClassTooDeep? (depth + 1) items
  | .binary span _ lhs rhs =>
    if maxNesting ≤ depth then some span
    else (lhs.tooDeep? (depth + 1)).or (rhs.tooDeep? (depth + 1))
  | _ => none

def anyClassTooDeep? (depth : Nat) : List ClassTerm → Option Span
  | [] => none
  | t :: ts => (t.tooDeep? depth).or (anyClassTooDeep? depth ts)

end

mutual

def Term.tooDeep? (depth : Nat) : Term → Option Span
  | .bracketed span _ body =>
    if maxNesting ≤ depth then some span else body.tooDeep? (depth + 1)
  | .repetition span _ _ body =>
    if maxNesting ≤ depth then some span else body.tooDeep? (depth + 1)
  | .group span _ body => if maxNesting ≤ depth then some span else body.tooDeep? (depth + 1)
  | .alternation span branches =>
    if maxNesting ≤ depth then some span else anyTooDeep? (depth + 1) branches
  | .sequence span parts =>
    if maxNesting ≤ depth then some span else anyTooDeep? (depth + 1) parts
  | _ => none

def anyTooDeep? (depth : Nat) : List Term → Option Span
  | [] => none
  | t :: ts => (t.tooDeep? depth).or (anyTooDeep? depth ts)

end

end LayoutSync.Pattern
