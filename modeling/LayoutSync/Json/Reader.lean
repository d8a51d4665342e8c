import LayoutSync.Dict
import LayoutSync.Json.NumberLiteral
import LayoutSync.Json.Punctuation

/-! Values read from text. Brackets nest 127 deep at most. -/

namespace LayoutSync.Json

def readScalar : List Char → Except Fault (Value × List Char)
  | 'n' :: r => do return (.null, ← readWord "ull".toList r)
  | 't' :: r => do return (.bool true, ← readWord "rue".toList r)
  | 'f' :: r => do return (.bool false, ← readWord "alse".toList r)
  | '-' :: r => do
    let (n, r) ← readMagnitude true r
    return (.number n, r)
  | '"' :: r => do
    let (s, r) ← readString r
    return (.string (String.ofList s), r)
  | cs =>
    if startsWithDigit cs then do
      let (n, r) ← readMagnitude false cs
      return (.number n, r)
    else .error (.within (if cs.isEmpty then .endInValue else .noValue) cs)

def readItems {α : Type} (item : List Char → Except Fault (α × List Char)) :
    Nat → Bool → List Char → Except Fault (List α × List Char)
  | 0, _, cs => .error (.within .endInList cs)
  | fuel + 1, first, cs => do
    match ← nextItem? first cs with
    | none => return ([], cs)
    | some cs =>
      let (a, cs) ← item cs
      let (as, cs) ← readItems item fuel false cs
      return (a :: as, cs)

def readArray {α : Type} (item : List Char → Except Fault (α × List Char)) (cs : List Char) :
    Except Fault (List α × List Char) := do
  let (as, cs) ← readItems item (cs.length + 1) true cs
  return (as, ← endArray cs)

def readMembers {σ : Type} (member : σ → String → List Char → Except Fault (σ × List Char)) :
    Nat → Bool → σ → List Char → Except Fault (σ × List Char)
  | 0, _, _, cs => .error (.within .endInObject cs)
  | fuel + 1, first, s, cs => do
    match ← nextKey? first cs with
    | none => return (s, passBracket '}' cs)
    | some (k, cs) =>
      let (s, cs) ← member s k cs
      readMembers member fuel false s cs

def readMember (value : List Char → Except Fault (Value × List Char)) (ms : List (String × Value))
    (k : String) (cs : List Char) : Except Fault (List (String × Value) × List Char) := do
  let (v, cs) ← value (← readColon cs)
  return (Assoc.put k v ms, cs)

def readValue (room : Nat) (cs : List Char) : Except Fault (Value × List Char) :=
  match skipSpace cs, room with
  | '[' :: r, 0 => .error (.within .tooDeep ('[' :: r))
  | '{' :: r, 0 => .error (.within .tooDeep ('{' :: r))
  | '[' :: r, room + 1 => do
    let (vs, r) ← readArray (readValue room) r
    return (.array vs, r)
  | '{' :: r, room + 1 => do
    let (ms, r) ← readMembers (readMember (readValue room)) (r.length + 1) true [] r
    return (.object ms, r)
  | cs, _ => readScalar cs

def maxDepth : Nat := 127

def Value.parse (source : String) : Except Fault Value := do
  let (v, r) ← readValue maxDepth source.toList
  readEnd r
  return v

/-- Passes over a value. Nothing is built from it, so brackets may nest to any depth. -/
def skipValue (fuel : Nat) (cs : List Char) : Except Fault (List Char) :=
  match fuel with
  | 0 => .error (.within .endInValue cs)
  | fuel + 1 =>
    match skipSpace cs with
    | '[' :: r => skipItems (skipValue fuel) r.length true r
    | '{' :: r => skipMembers (skipValue fuel) r.length true r
    | '-' :: r => skipMagnitude r
    | '"' :: r => skipString r
    | cs => if startsWithDigit cs then skipMagnitude cs else Prod.snd <$> readScalar cs
where
  skipItems (skip : List Char → Except Fault (List Char)) :
      Nat → Bool → List Char → Except Fault (List Char)
    | fuel, first, cs =>
      match fuel, skipSpace cs with
      | _, [] => .error (.within .endInList [])
      | 0, cs => .error (.within .endInList cs)
      | fuel + 1, c :: r => do
        if c = ']' then return r
        else if first then skipItems skip fuel false (← skip (c :: r))
        else if c = ',' then skipItems skip fuel false (← skip r)
        else .error (.within .noListComma (c :: r))
  skipMembers (skip : List Char → Except Fault (List Char)) :
      Nat → Bool → List Char → Except Fault (List Char)
    | fuel, first, cs =>
      match fuel, skipSpace cs with
      | _, [] => .error (.within .endInObject [])
      | 0, cs => .error (.within .endInObject cs)
      | fuel + 1, c :: r => do
        if c = '}' then return r
        else if first then skipMembers skip fuel false (← member skip (c :: r))
        else if c = ',' then skipMembers skip fuel false (← member skip (skipSpace r))
        else .error (.within .noObjectComma (c :: r))
  member (skip : List Char → Except Fault (List Char)) : List Char → Except Fault (List Char)
    | [] => .error (.within .endInObject [])
    | c :: r => do
      if c = '"' then skip (← readColon (← skipString r))
      else .error (.within .keyNotString (c :: r))

end LayoutSync.Json
