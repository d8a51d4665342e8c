import LayoutSync.Dict
import LayoutSync.Markup.Entity

namespace LayoutSync.Markup

open Text

def isSpace (c : Char) : Bool := c = ' ' || c = '\t' || c = '\r' || c = '\n'

structure RawAttribute where
  key : List Char
  position : Nat
  value : List Char
  stop : Nat
  rest : List Char

def skipSpace (position : Nat) (cs : List Char) : Nat × List Char :=
  (position + (cs.takeWhile isSpace).length, cs.dropWhile isSpace)

def endsKey (c : Char) : Bool := c = '=' || isSpace c

def readValue (total : Nat) (key : List Char) (start position : Nat) (cs : List Char) :
    Except AttributeFault RawAttribute :=
  match skipSpace position cs with
  | (_, []) => .error (.noValue total)
  | (p, q :: r) =>
    if q = '"' ∨ q = '\'' then
      match r.dropWhile (· ≠ q) with
      | [] => .error (.noClosingQuote total q)
      | _ :: rest =>
        let value := r.takeWhile (· ≠ q)
        .ok ⟨key, start, value, p + utf8Length value + 2, rest⟩
    else .error (.noQuote p)

def readAttribute (total start : Nat) (seen : List (List Char × Nat)) (k : Char) (r : List Char) :
    Except AttributeFault RawAttribute :=
  let key := k :: r.takeWhile (!endsKey ·)
  let stop := start + utf8Length key
  match skipSpace stop (r.dropWhile (!endsKey ·)) with
  | (_, []) => .error (.noEquals total)
  | (p, c :: rest) =>
    if c = '=' then
      match seen.find? (·.1 = key) with
      | some (_, earlier) => .error (.duplicated start earlier)
      | none => readValue total key start (p + 1) rest
    else .error (.noEquals p)

theorem length_skipSpace_le (p : Nat) (cs : List Char) :
    (skipSpace p cs).2.length ≤ cs.length :=
  (List.dropWhile_sublist _).length_le

theorem length_rest_of_readValue {total : Nat} {key : List Char} {start p : Nat} {cs : List Char}
    {a : RawAttribute} (h : readValue total key start p cs = .ok a) :
    a.rest.length ≤ cs.length := by
  have hs := length_skipSpace_le p cs
  unfold readValue at h
  split at h
  · simp at h
  next p q r hq =>
    rw [hq] at hs
    simp only [List.length_cons] at hs
    split at h
    · split at h
      · simp at h
      next d rest hd =>
        have := (List.dropWhile_sublist (l := r) (· ≠ q)).length_le
        simp only [hd, List.length_cons] at this
        simp only [Except.ok.injEq] at h
        subst h
        simp only
        omega
    · simp at h

theorem length_rest_of_readAttribute {total start : Nat} {seen : List (List Char × Nat)} {k : Char}
    {r : List Char} {a : RawAttribute} (h : readAttribute total start seen k r = .ok a) :
    a.rest.length ≤ r.length := by
  have hk := (List.dropWhile_sublist (l := r) (!endsKey ·)).length_le
  have hs := length_skipSpace_le (start + utf8Length (k :: r.takeWhile (!endsKey ·)))
    (r.dropWhile (!endsKey ·))
  unfold readAttribute at h
  simp only at h
  split at h
  · simp at h
  next p c rest hq =>
    rw [hq] at hs
    simp only [List.length_cons] at hs
    split at h
    · split at h
      · simp at h
      · have := length_rest_of_readValue h
        omega
    · simp at h

def readAttributes (total : Nat) (seen : List (List Char × Nat)) (position : Nat) (cs : List Char) :
    Except AttributeFault (List (String × String)) :=
  match _h : skipSpace position cs with
  | (_, []) => .ok []
  | (start, k :: r) =>
    match _ha : readAttribute total start seen k r with
    | .error f => .error f
    | .ok a =>
      match unescape a.value with
      | .error f => .error (.value f)
      | .ok value => do
        let others ← readAttributes total (seen ++ [(a.key, start)]) a.stop a.rest
        return (String.ofList a.key, String.ofList value) :: others
termination_by cs.length
decreasing_by
  have h1 := length_skipSpace_le position cs
  have h2 := length_rest_of_readAttribute (by assumption)
  rw [show skipSpace position cs = _ by assumption] at h1
  simp only [List.length_cons] at h1
  omega

structure Tag where
  name : List Char
  rest : List Char
deriving DecidableEq, Repr

namespace Tag

def ofContent (cs : List Char) : Tag := ⟨cs.takeWhile (!isSpace ·), cs.dropWhile (!isSpace ·)⟩

def attributes (t : Tag) : Except AttributeFault (Dict String) :=
  let start := utf8Length t.name
  Dict.ofList <$> readAttributes (start + utf8Length t.rest) [] start t.rest

end Tag

end LayoutSync.Markup
