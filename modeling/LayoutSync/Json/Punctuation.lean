import LayoutSync.Json.StringLiteral

namespace LayoutSync.Json

def isSpace (c : Char) : Bool := c = ' ' || c = '\n' || c = '\t' || c = '\r'

def skipSpace (cs : List Char) : List Char := cs.dropWhile isSpace

def nextItem? (first : Bool) (cs : List Char) : Except Fault (Option (List Char)) :=
  match skipSpace cs with
  | [] => .error (.within .endInList [])
  | c :: r =>
    if c = ']' then .ok none
    else if first then .ok (some (c :: r))
    else if c = ',' then
      match skipSpace r with
      | [] => .error (.within .endInValue [])
      | d :: s => if d = ']' then .error (.within .trailingComma (d :: s)) else .ok (some (d :: s))
    else .error (.within .noListComma (c :: r))

def endArray (cs : List Char) : Except Fault (List Char) :=
  match skipSpace cs with
  | [] => .error (.within .endInList [])
  | c :: r =>
    if c = ']' then .ok r
    else if c = ',' then
      let s := skipSpace r
      .error (.within (if s.head? = some ']' then .trailingComma else .trailingCharacters) s)
    else .error (.within .trailingCharacters (c :: r))

def nextKey? (first : Bool) (cs : List Char) : Except Fault (Option (String × List Char)) :=
  match skipSpace cs with
  | [] => .error (.within .endInObject [])
  | c :: r =>
    if c = '}' then .ok none
    else if first then
      if c = '"' then key r else .error (.within .keyNotString (c :: r))
    else if c = ',' then
      match skipSpace r with
      | [] => .error (.within .endInValue [])
      | d :: s =>
        if d = '"' then key s
        else .error (.within (if d = '}' then .trailingComma else .keyNotString) (d :: s))
    else .error (.within .noObjectComma (c :: r))
where
  key (cs : List Char) : Except Fault (Option (String × List Char)) := do
    let (k, r) ← readString cs
    return some (String.ofList k, r)

def readColon (cs : List Char) : Except Fault (List Char) :=
  match skipSpace cs with
  | [] => .error (.within .endInObject [])
  | c :: r => if c = ':' then .ok r else .error (.within .noColon (c :: r))

def passBracket (bracket : Char) (cs : List Char) : List Char :=
  match skipSpace cs with
  | [] => []
  | c :: r => if c = bracket then r else c :: r

def readEnd (cs : List Char) : Except Fault Unit :=
  match skipSpace cs with
  | [] => .ok ()
  | c :: r => .error (.within .trailingCharacters (c :: r))

def readWord : List Char → List Char → Except Fault (List Char)
  | [], cs => .ok cs
  | _ :: _, [] => .error (.before .endInValue [])
  | e :: es, c :: r => if c = e then readWord es r else .error (.within .noIdentifier (c :: r))

end LayoutSync.Json
