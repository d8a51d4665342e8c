namespace LayoutSync.Text

abbrev Ranges := List (Nat × Nat)

def hexDigit? (c : Char) : Option Nat :=
  if '0' ≤ c ∧ c ≤ '9' then some (c.toNat - '0'.toNat)
  else if 'a' ≤ c ∧ c ≤ 'f' then some (c.toNat - 'a'.toNat + 10)
  else if 'A' ≤ c ∧ c ≤ 'F' then some (c.toNat - 'A'.toNat + 10)
  else none

def hexValue (cs : List Char) : Nat :=
  cs.foldl (fun n c => (hexDigit? c).elim n (16 * n + ·)) 0

def pieces (separator : Char) : List Char → List (List Char)
  | [] => [[]]
  | c :: r =>
    match pieces separator r with
    | [] => [[c]]
    | p :: ps => if c = separator then [] :: p :: ps else (c :: p) :: ps

namespace Ranges

def contains (r : Ranges) (c : Char) : Bool := r.any fun (lo, hi) => lo ≤ c.toNat && c.toNat ≤ hi

def readInterval (last : Nat) (cs : List Char) : Nat × Nat :=
  let lo := last + hexValue (cs.takeWhile (· ≠ '+'))
  (lo, lo + hexValue (cs.dropWhile (· ≠ '+')))

/--
Reads intervals in hexadecimal, each by its distance from the end of the one before and its
extent: `41+19,7+19` are the letters of the Latin alphabet. Line breaks count for nothing.
-/
def ofText (s : String) : Ranges :=
  if s.isEmpty then []
  else
    ((pieces ',' s.toList).foldl (fun (done, last) p =>
      let i := readInterval last p
      (i :: done, i.2)) ([], 0)).1.reverse

end Ranges

end LayoutSync.Text
