import LayoutSync.Markup.Attribute

/-!
Events: the pieces a document is made of, read from left to right. Closing tags are checked
against the tags that are open, character data and attributes are left as written.
-/

namespace LayoutSync.Markup

open Text

inductive Event where
  | opening (tag : Tag)
  | empty (tag : Tag)
  | closing
  | text (raw : List Char)
  | cdata (text : List Char)
  | aside
deriving DecidableEq, Repr

structure Step where
  event : Event
  opened : List (List Char)
  position : Nat
  rest : List Char

abbrev Stop := ReadFault × Nat

def readBracket (complete : List Char → Bool) (seen : List Char) :
    List Char → Option (List Char × List Char)
  | [] => none
  | c :: r =>
    if c = '>' && complete seen then some (seen.reverse, r) else readBracket complete (c :: seen) r

def commentComplete (seen : List Char) : Bool := "--".toList.isPrefixOf seen && 4 ≤ utf8Length seen

def cdataComplete (seen : List Char) : Bool := "]]".toList.isPrefixOf seen

def doctypeComplete (seen : List Char) : Bool := seen.count '<' = seen.count '>'

def bangEvent (construct : Construct) (content : List Char) : Except ReadFault Event :=
  match construct with
  | .comment =>
    if "--".toList.isPrefixOf content then .ok .aside else .error (.endInside .comment)
  | .cdata =>
    if (content.take 7).map Char.toUpper = "[CDATA[".toList then
      .ok (.cdata (content.drop 7).dropLast.dropLast)
    else .error (.endInside .cdata)
  | _ =>
    if (content.take 7).map Char.toUpper = "DOCTYPE".toList then
      if (content.drop 7).any (!isSpace ·) then .ok .aside else .error .emptyDoctype
    else .error (.endInside .doctype)

def readConstruct (opened : List (List Char)) (position : Nat) (construct : Construct)
    (complete : List Char → Bool) (cs : List Char) : Except Stop Step :=
  match readBracket complete [] cs with
  | none => .error (.endInside construct, position)
  | some (content, rest) =>
    let stop := position + utf8Length content + 2
    match bangEvent construct content with
    | .ok e => .ok ⟨e, opened, stop, rest⟩
    | .error f => .error (f, stop)

def readBang (opened : List (List Char)) (position : Nat) (cs : List Char) : Except Stop Step :=
  match cs with
  | [] => .error (.endInside .bang, position)
  | c :: _ =>
    if c = '[' then readConstruct opened position .cdata cdataComplete cs
    else if c = '-' then readConstruct opened position .comment commentComplete cs
    else if c = 'D' ∨ c = 'd' then readConstruct opened position .doctype doctypeComplete cs
    else .error (.unknownBang (firstByte c), position)

def readPlain (cs : List Char) : List Char × Nat × List Char :=
  let content := cs.takeWhile (· ≠ '>')
  match cs.dropWhile (· ≠ '>') with
  | [] => (content, utf8Length content, [])
  | _ :: rest => (content, utf8Length content + 1, rest)

def closingName (content : List Char) : List Char :=
  if content.all isSpace then content else (content.reverse.dropWhile isSpace).reverse

def readClosing (opened : List (List Char)) (position : Nat) (cs : List Char) : Except Stop Step :=
  let (content, size, rest) := readPlain cs
  let mismatch (expected found : List Char) : Except Stop Step :=
    .error (.mismatched (String.ofList expected) (String.ofList found),
      position + size - utf8Length content)
  match opened with
  | [] => mismatch [] content
  | expected :: outer =>
    let found := closingName content
    if found = expected then .ok ⟨.closing, outer, position + 1 + size, rest⟩
    else mismatch expected found

def readInstruction (opened : List (List Char)) (position : Nat) (cs : List Char) :
    Except Stop Step :=
  let (content, size, rest) := readPlain cs
  if 2 ≤ content.length ∧ content.getLast? = some '?' then
    .ok ⟨.aside, opened, position + 1 + size, rest⟩
  else .error (.endInside .instruction, position + size - utf8Length content)

def readTag (quote : Option Char) : List Char → List Char × Option (List Char)
  | [] => ([], none)
  | c :: r =>
    match quote with
    | some q =>
      let (content, rest) := readTag (if c = q then none else quote) r
      (c :: content, rest)
    | none =>
      if c = '>' then ([], some r)
      else
        let (content, rest) := readTag (if c = '"' ∨ c = '\'' then some c else none) r
        (c :: content, rest)

def readOpening (opened : List (List Char)) (position : Nat) (cs : List Char) : Step :=
  let (content, tail) := readTag none cs
  let stop := if tail.isSome then position + utf8Length content + 1 else position
  let rest := tail.getD []
  if content.getLast? = some '/' then
    ⟨.empty (Tag.ofContent content.dropLast), opened, stop, rest⟩
  else
    let tag := Tag.ofContent content
    ⟨.opening tag, tag.name :: opened, stop, rest⟩

def readMarkup (opened : List (List Char)) (position : Nat) (c : Char) (r : List Char) :
    Except Stop Step :=
  if c = '!' then readBang opened position r
  else if c = '/' then readClosing opened position r
  else if c = '?' then readInstruction opened position r
  else .ok (readOpening opened position (c :: r))

theorem length_of_readBracket {complete : List Char → Bool} {seen cs content rest : List Char}
    (h : readBracket complete seen cs = some (content, rest)) : rest.length < cs.length := by
  induction cs generalizing seen with
  | nil => simp [readBracket] at h
  | cons c r ih =>
    unfold readBracket at h
    split at h
    · simp only [Option.some.injEq, Prod.mk.injEq] at h
      simp [h.2]
    · have := ih h
      simp only [List.length_cons]
      omega

theorem length_of_readConstruct {opened : List (List Char)} {p : Nat} {k : Construct}
    {complete : List Char → Bool} {cs : List Char} {s : Step}
    (h : readConstruct opened p k complete cs = .ok s) : s.rest.length < cs.length := by
  unfold readConstruct at h
  split at h
  · simp at h
  next content rest hb =>
    simp only at h
    split at h
    · simp only [Except.ok.injEq] at h
      subst h
      exact length_of_readBracket hb
    · simp at h

theorem length_readPlain_le (cs : List Char) : (readPlain cs).2.2.length ≤ cs.length := by
  have h := (List.dropWhile_sublist (l := cs) (· ≠ '>')).length_le
  unfold readPlain
  simp only
  split
  next hd => simp
  next c rest hd =>
    rw [hd] at h
    simp only [List.length_cons] at h
    simp only
    omega

theorem length_readTag_le (quote : Option Char) (cs : List Char) :
    ((readTag quote cs).2.getD []).length ≤ cs.length := by
  induction cs generalizing quote with
  | nil => simp [readTag]
  | cons c r ih =>
    unfold readTag
    cases quote with
    | some q => exact Nat.le_succ_of_le (ih _)
    | none =>
      simp only
      split
      · simp
      · exact Nat.le_succ_of_le (ih _)

theorem length_of_readMarkup {opened : List (List Char)} {p : Nat} {c : Char} {r : List Char}
    {s : Step} (h : readMarkup opened p c r = .ok s) : s.rest.length ≤ r.length + 1 := by
  unfold readMarkup at h
  split at h
  · unfold readBang at h
    split at h
    · simp at h
    · split at h
      · exact Nat.le_of_lt (Nat.lt_succ_of_lt (length_of_readConstruct h))
      · split at h
        · exact Nat.le_of_lt (Nat.lt_succ_of_lt (length_of_readConstruct h))
        · split at h
          · exact Nat.le_of_lt (Nat.lt_succ_of_lt (length_of_readConstruct h))
          · simp at h
  · have hp := length_readPlain_le r
    split at h
    · unfold readClosing at h
      simp only at h
      split at h
      · simp at h
      · split at h
        · simp only [Except.ok.injEq] at h
          subst h
          exact Nat.le_succ_of_le hp
        · simp at h
    · split at h
      · unfold readInstruction at h
        simp only at h
        split at h
        · simp only [Except.ok.injEq] at h
          subst h
          exact Nat.le_succ_of_le hp
        · simp at h
      · have ht := length_readTag_le none (c :: r)
        simp only [Except.ok.injEq] at h
        subst h
        simp only [readOpening]
        split <;> simpa using ht

structure Reading where
  events : List (Event × Nat)
  fault : Option Stop

def Reading.cons (e : Event) (position : Nat) (r : Reading) : Reading :=
  { r with events := (e, position) :: r.events }

/--
Reads events from byte `position` on. A run of character data ends before the next opening bracket;
at the end of the text its position is one byte short of its end.
-/
def readEvents (opened : List (List Char)) (position : Nat) (cs : List Char) : Reading :=
  match cs with
  | [] => ⟨[], none⟩
  | c :: r =>
    if c = '<' then
      match r with
      | [] => ⟨[], none⟩
      | d :: r =>
        match _h : readMarkup opened (position + 1) d r with
        | .error stop => ⟨[], some stop⟩
        | .ok s => .cons s.event s.position (readEvents s.opened s.position s.rest)
    else
      let raw := c :: r.takeWhile (· ≠ '<')
      let rest := r.dropWhile (· ≠ '<')
      let stop := position + utf8Length raw
      .cons (.text raw) (if rest.isEmpty then stop - 1 else stop) (readEvents opened stop rest)
termination_by cs.length
decreasing_by
  · have := length_of_readMarkup (by assumption)
    simp only [List.length_cons]
    omega
  · have := (List.dropWhile_sublist (l := r) (· ≠ '<')).length_le
    simp only [List.length_cons]
    omega

/-- Reads a whole text. A byte order mark at its start is dropped and not counted. -/
def Reading.ofText (source : String) : Reading :=
  match source.toList with
  | '\ufeff' :: cs => readEvents [] 0 cs
  | cs => readEvents [] 0 cs

theorem Reading.ofText_of_head? {source : String} (h : source.toList.head? ≠ some '\ufeff') :
    Reading.ofText source = readEvents [] 0 source.toList := by
  unfold Reading.ofText
  split
  next cs hs =>
    rw [hs] at h
    exact absurd rfl h
  · rfl

end LayoutSync.Markup
