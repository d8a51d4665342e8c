/-!
Matching. A set of places in a text is a number: bit `i` stands for the place before character
`i`. A matcher takes the places where a match may start to those where it may end.
-/

namespace LayoutSync.Pattern

-- Powers are those of the core library, whatever else is imported.
attribute [local instance(high)] instPowNat

inductive Matcher where
  | empty
  | char (p : Char → Bool)
  | condition (h : Option Char → Option Char → Bool)
  | sequence (a b : Matcher)
  | choice (a b : Matcher)
  | repetition (least : Nat) (most : Option Nat) (m : Matcher)

namespace Matcher

def bit (b : Bool) : Nat := if b then 1 else 0

def charPlaces (p : Char → Bool) : List Char → Nat
  | [] => 0
  | c :: cs => bit (p c) + 2 * charPlaces p cs

def conditionPlaces (h : Option Char → Option Char → Bool) (before : Option Char) :
    List Char → Nat
  | [] => bit (h before none)
  | c :: cs => bit (h before (some c)) + 2 * conditionPlaces h (some c) cs

def iterate (f : Nat → Nat) : Nat → Nat → Nat
  | 0, s => s
  | n + 1, s => if s = 0 then 0 else iterate f n (f s)

def gather (f : Nat → Nat) : Nat → Nat → Nat → Nat
  | 0, all, _ => all
  | n + 1, all, s =>
    let t := f s
    if all ||| t = all then all else gather f n (all ||| t) t

/-- More repetitions than places add nothing: one of them is empty and can be left out. -/
def run (text : List Char) : Matcher → Nat → Nat
  | empty, s => s
  | char p, s => (s &&& charPlaces p text) <<< 1
  | condition h, s => s &&& conditionPlaces h none text
  | sequence a b, s => run text b (run text a s)
  | choice a b, s => run text a s ||| run text b s
  | repetition least most m, s =>
    let bound := text.length + 1
    let low := min least bound
    let high := min (most.getD bound) bound
    let start := iterate (run text m) low s
    gather (run text m) (high - low) start start

def matchesIn (m : Matcher) (text : List Char) : Bool :=
  m.run text (2 ^ (text.length + 1) - 1) ≠ 0

def all : List Matcher → Matcher
  | [] => empty
  | [m] => m
  | m :: ms => sequence m (all ms)

def any : List Matcher → Matcher
  | [] => char fun _ => false
  | [m] => m
  | m :: ms => choice m (any ms)

end Matcher

end LayoutSync.Pattern
