import LayoutSync.Json.Fault

/-!
Number literals. Integers of 64 bits keep their value; any other number becomes a real, made from
the digits that fit into 64 bits and a power of ten.
-/

namespace LayoutSync.Json

open Text

-- Powers are those of the core library, whatever else is imported.
attribute [local instance(high)] instPowNat

def digitValue (c : Char) : Nat := c.toNat - '0'.toNat

def readDigits (bound : Nat) (n count : Nat) : List Char → Nat × Nat × List Char
  | [] => (n, count, [])
  | c :: r =>
    if c.isDigit ∧ 10 * n + digitValue c < bound then
      readDigits bound (10 * n + digitValue c) (count + 1) r
    else (n, count, c :: r)

def startsWithDigit (cs : List Char) : Bool := cs.head?.any Char.isDigit

def skipDigits (cs : List Char) : List Char := cs.dropWhile Char.isDigit

def maxStep : Nat := 308

def tenTo (n : Nat) : Float := Float.ofScientific 1 false n

def scaleReal (f : Float) (exponent : Int) : Nat → Option Float
  | 0 => some f
  | fuel + 1 =>
    if exponent.natAbs ≤ maxStep then
      if 0 ≤ exponent then
        let g := f * tenTo exponent.natAbs
        if g.isInf then none else some g
      else some (f / tenTo exponent.natAbs)
    else if f == 0 then some f
    else if 0 ≤ exponent then none
    else scaleReal (f / tenTo maxStep) (exponent + maxStep) fuel

def signed (negative : Bool) (f : Float) : Float := if negative then -f else f

def finishReal (negative : Bool) (digits : Nat) (exponent : Int) (rest : List Char) :
    Except Fault (Number × List Char) :=
  match scaleReal digits.toUInt64.toFloat exponent (exponent.natAbs / maxStep + 2) with
  | some f => .ok (.real (signed negative f), rest)
  | none => .error (.before .numberRange rest)

def exponentSign : List Char → Bool × List Char
  | '+' :: r => (false, r)
  | '-' :: r => (true, r)
  | r => (false, r)

def readExponent (negative : Bool) (digits : Nat) (exponent : Int) (cs : List Char) :
    Except Fault (Number × List Char) :=
  let (down, cs) := exponentSign cs
  match cs with
  | [] => .error (.before .endInValue [])
  | c :: r =>
    if c.isDigit then
      let (n, _, rest) := readDigits (2 ^ (31 : Nat)) 0 0 (c :: r)
      if startsWithDigit rest then
        if digits ≠ 0 ∧ !down then .error (.before .numberRange rest.tail)
        else .ok (.real (signed negative 0), skipDigits rest)
      else finishReal negative digits (if down then exponent - n else exponent + n) rest
    else .error (.within .badNumber (c :: r))

def readExponent? (negative : Bool) (digits : Nat) (exponent : Int) :
    List Char → Except Fault (Number × List Char)
  | [] => finishReal negative digits exponent []
  | c :: r =>
    if c = 'e' ∨ c = 'E' then readExponent negative digits exponent r
    else finishReal negative digits exponent (c :: r)

def readFraction (negative : Bool) (digits : Nat) (exponent : Int) (cs : List Char) :
    Except Fault (Number × List Char) :=
  let (n, count, rest) := readDigits (2 ^ (64 : Nat)) digits 0 cs
  if startsWithDigit rest then readExponent? negative n (exponent - count) (skipDigits rest)
  else if count = 0 then
    .error (.within (if rest.isEmpty then .endInValue else .badNumber) rest)
  else readExponent? negative n (exponent - count) rest

def integer (negative : Bool) (n : Nat) : Number :=
  if negative then
    if n = 0 ∨ 2 ^ (63 : Nat) < n then .real (-n.toUInt64.toFloat) else .integer (-n)
  else .integer n

/-- What follows the digits before the point; `dropped` of them did not fit. -/
def readScale (negative : Bool) (digits dropped : Nat) :
    List Char → Except Fault (Number × List Char)
  | '.' :: r => readFraction negative digits dropped r
  | cs =>
    if dropped ≠ 0 ∨ cs.head?.any (fun c => c = 'e' || c = 'E') then
      readExponent? negative digits dropped cs
    else .ok (integer negative digits, cs)

def readMagnitude (negative : Bool) : List Char → Except Fault (Number × List Char)
  | [] => .error (.before .endInValue [])
  | c :: r =>
    if c = '0' then
      if startsWithDigit r then .error (.within .badNumber r) else readScale negative 0 0 r
    else if c.isDigit then
      let (n, _, rest) := readDigits (2 ^ (64 : Nat)) 0 0 (c :: r)
      readScale negative n (rest.takeWhile Char.isDigit).length (skipDigits rest)
    else .error (.within .badNumber (c :: r))

def skipExponent (cs : List Char) : Except Fault (List Char) :=
  let rest := (exponentSign cs).2
  if startsWithDigit rest then .ok (skipDigits rest) else .error (.within .badNumber rest)

def skipExponent? : List Char → Except Fault (List Char)
  | [] => .ok []
  | c :: r => if c = 'e' ∨ c = 'E' then skipExponent r else .ok (c :: r)

def skipMagnitude (cs : List Char) : Except Fault (List Char) :=
  if !startsWithDigit cs then .error (.within .badNumber cs)
  else if cs.head? = some '0' ∧ startsWithDigit cs.tail then .error (.within .badNumber cs.tail)
  else
    match skipDigits cs with
    | '.' :: r =>
      if startsWithDigit r then skipExponent? (skipDigits r) else .error (.within .badNumber r)
    | r => skipExponent? r

end LayoutSync.Json
