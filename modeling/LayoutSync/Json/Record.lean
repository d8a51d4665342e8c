import LayoutSync.Json.Reader

/-!
Values of a known shape read from text. A record is an object, or an array of its fields in order.
A fault that no character causes stands behind the brackets that were passed.
-/

namespace LayoutSync.Json

def wrongValue (expected : String) (cs : List Char) : Fault :=
  match skipSpace cs with
  | '[' :: r => .before (.mismatch .array expected) ('[' :: r)
  | '{' :: r => .before (.mismatch .object expected) ('{' :: r)
  | r =>
    match readScalar r with
    | .error f => f
    | .ok (v, rest) => .before (.mismatch (found v) expected) rest
where
  found : Value → Found
    | .null => .null
    | .bool b => .bool b
    | .number n => .number n
    | .string s => .string s
    | .array _ => .array
    | .object _ => .object

def expectString (expected : String) (cs : List Char) : Except Fault (String × List Char) :=
  match skipSpace cs with
  | '"' :: r => do
    let (s, r) ← readString r
    return (String.ofList s, r)
  | cs => .error (wrongValue expected cs)

def expectBool (cs : List Char) : Except Fault (Bool × List Char) :=
  match skipSpace cs with
  | 't' :: r => do return (true, ← readWord "rue".toList r)
  | 'f' :: r => do return (false, ← readWord "alse".toList r)
  | cs => .error (wrongValue "a boolean" cs)

def expectNull (cs : List Char) : Except Fault (List Char) :=
  match skipSpace cs with
  | 'n' :: r => readWord "ull".toList r
  | cs => .error (wrongValue "unit" cs)

def expectArray {α : Type} (room : Nat)
    (item : Nat → List Char → Except Fault (α × List Char)) (cs : List Char) :
    Except Fault (List α × List Char) :=
  match skipSpace cs, room with
  | '[' :: r, 0 => .error (.within .tooDeep ('[' :: r))
  | '[' :: r, room + 1 => readArray (item room) r
  | cs, _ => .error (wrongValue "a sequence" cs)

structure RecordField (σ : Type) where
  name : String
  required : Bool
  isSet : σ → Bool
  read : Nat → σ → List Char → Except Fault (σ × List Char)

structure Shape (σ α : Type) where
  name : String
  fields : List (RecordField σ)
  start : σ
  finish : σ → Except String α

namespace Shape

variable {σ α : Type}

def close (s : Shape σ α) (t : σ) (rest : List Char) : Except Fault (α × List Char) :=
  match s.finish t with
  | .ok a => .ok (a, rest)
  | .error name => .error (.before (.missingField name) rest)

def lengthName (s : Shape σ α) : String :=
  s.name ++ " with " ++ toString s.fields.length ++ " elements"

def readItems (s : Shape σ α) (room : Nat) :
    List (RecordField σ) → Nat → σ → List Char → Except Fault (σ × List Char)
  | [], _, t, cs => .ok (t, cs)
  | f :: fs, index, t, cs => do
    match ← nextItem? (index = 0) cs with
    | some r =>
      let (t, r) ← f.read room t r
      readItems s room fs (index + 1) t r
    | none =>
      if f.required then
        .error (.before (.wrongLength index s.lengthName) (passBracket ']' cs))
      else
        match fs.findIdx? RecordField.required with
        | some i =>
          .error (.before (.wrongLength (index + 1 + i) s.lengthName) (passBracket ']' cs))
        | none => .ok (t, cs)

def readMember (s : Shape σ α) (room : Nat) (t : σ) (k : String) (cs : List Char) :
    Except Fault (σ × List Char) :=
  match s.fields.find? (·.name = k) with
  | some f =>
    if f.isSet t then .error (.before (.duplicateField k) (passBracket '}' cs))
    else do f.read room t (← readColon cs)
  | none => do
    let r ← readColon cs
    return (t, ← skipValue (r.length + 1) r)

def read (s : Shape σ α) (room : Nat) (cs : List Char) : Except Fault (α × List Char) :=
  match skipSpace cs, room with
  | '[' :: r, 0 => .error (.within .tooDeep ('[' :: r))
  | '{' :: r, 0 => .error (.within .tooDeep ('{' :: r))
  | '[' :: r, room + 1 => do
    let (t, r) ← s.readItems room s.fields 0 s.start r
    s.close t (← endArray r)
  | '{' :: r, room + 1 => do
    let (t, r) ← readMembers (s.readMember room) (r.length + 1) true s.start r
    s.close t r
  | cs, _ => .error (wrongValue s.name cs)

def parse (s : Shape σ α) (source : String) : Except Fault α := do
  let (a, r) ← s.read maxDepth source.toList
  readEnd r
  return a

end Shape

/-- One of a list of names, as a string or as the only key of an object whose value is `null`. -/
def expectName (names : List String) (room : Nat) (cs : List Char) :
    Except Fault (String × List Char) :=
  match skipSpace cs, room with
  | '{' :: r, 0 => .error (.within .tooDeep ('{' :: r))
  | '{' :: r, _ + 1 => do
    let (name, r) ← known "variant identifier" r
    let r ← expectNull (← readColon r)
    match skipSpace r with
    | [] => .error (.before .endInObject [])
    | c :: r => if c = '}' then return (name, r) else .error (.before .noValue (c :: r))
  | '"' :: r, _ => known "variant identifier" ('"' :: r)
  | [], _ => .error (.within .endInValue [])
  | cs, _ => .error (.within .noValue cs)
where
  known (expected : String) (cs : List Char) : Except Fault (String × List Char) := do
    let (name, r) ← expectString expected cs
    if names.contains name then return (name, r)
    else
      .error (.before (.unknownVariant name
        (" or ".intercalate (names.map fun n => "`" ++ n ++ "`"))) r)

end LayoutSync.Json
