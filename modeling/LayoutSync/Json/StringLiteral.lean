import LayoutSync.Fallible
import LayoutSync.Json.Fault
import LayoutSync.Text.Ranges

namespace LayoutSync.Json

open Text

/-- Four hexadecimal digits. The place of a fault counts bytes, not characters. -/
def readHex (cs : List Char) : Except Fault (Nat × List Char) :=
  if utf8Length (cs.take 4) < 4 then .error ⟨.endInString, 0⟩
  else
    match (cs.take 4).mapM hexDigit? with
    | some ds => .ok (ds.foldl (16 * · + ·) 0, cs.drop 4)
    | none => .error ⟨.badEscape, utf8Length cs - 4⟩

def readLowHalf (high : Nat) : List Char → Except Fault (Char × List Char)
  | [] => .error ⟨.endInString, 0⟩
  | '\\' :: [] => .error ⟨.endInString, 0⟩
  | '\\' :: 'u' :: r => do
    let (low, r) ← readHex r
    if 0xdc00 ≤ low ∧ low ≤ 0xdfff then
      return (Char.ofNat (0x10000 + 0x400 * (high - 0xd800) + (low - 0xdc00)), r)
    else .error (.before .loneSurrogate r)
  | '\\' :: r => .error (.within .endOfHexEscape r)
  | r => .error (.within .endOfHexEscape r)

def readCode (cs : List Char) : Except Fault (Char × List Char) := do
  let (n, r) ← readHex cs
  if 0xdc00 ≤ n ∧ n ≤ 0xdfff then .error (.before .loneSurrogate r)
  else if 0xd800 ≤ n ∧ n ≤ 0xdbff then readLowHalf n r
  else return (Char.ofNat n, r)

def simpleEscape? (c : Char) : Option Char :=
  if c = '"' ∨ c = '\\' ∨ c = '/' then some c
  else if c = 'b' then some '\x08'
  else if c = 'f' then some '\x0c'
  else if c = 'n' then some '\n'
  else if c = 'r' then some '\r'
  else if c = 't' then some '\t'
  else none

def readEscape : List Char → Except Fault (Char × List Char)
  | [] => .error ⟨.endInString, 0⟩
  | c :: r =>
    match simpleEscape? c with
    | some d => .ok (d, r)
    | none => if c = 'u' then readCode r else .error (.within .badEscape (c :: r))

theorem length_of_readHex {cs r : List Char} {n : Nat} (h : readHex cs = .ok (n, r)) :
    r.length ≤ cs.length := by
  unfold readHex at h
  split at h
  · simp at h
  · split at h
    · simp only [Except.ok.injEq, Prod.mk.injEq] at h
      rw [← h.2]
      simp
    · simp at h

theorem length_of_readLowHalf {n : Nat} {cs r : List Char} {c : Char}
    (h : readLowHalf n cs = .ok (c, r)) : r.length ≤ cs.length := by
  unfold readLowHalf at h
  split at h <;> try simp at h
  next s =>
    obtain ⟨⟨low, s'⟩, hx, h⟩ := bind_eq_ok.mp h
    have := length_of_readHex hx
    dsimp only at h
    split at h
    · obtain ⟨_, rfl⟩ := Prod.mk.inj (Except.ok.inj h)
      simp only [List.length_cons]
      omega
    · simp at h

theorem length_of_readCode {cs r : List Char} {c : Char} (h : readCode cs = .ok (c, r)) :
    r.length ≤ cs.length := by
  obtain ⟨⟨n, s⟩, hx, h⟩ := bind_eq_ok.mp h
  have hs := length_of_readHex hx
  dsimp only at h
  split at h
  · simp at h
  · split at h
    · have := length_of_readLowHalf h
      omega
    · obtain ⟨_, rfl⟩ := Prod.mk.inj (Except.ok.inj h)
      exact hs

theorem length_of_readEscape {cs r : List Char} {c : Char} (h : readEscape cs = .ok (c, r)) :
    r.length < cs.length := by
  unfold readEscape at h
  split at h
  · simp at h
  next d s =>
    split at h
    · simp only [Except.ok.injEq, Prod.mk.injEq] at h
      simp [← h.2]
    · split at h
      · have := length_of_readCode h
        simp only [List.length_cons]
        omega
      · simp at h

def readString : List Char → Except Fault (List Char × List Char)
  | [] => .error ⟨.endInString, 0⟩
  | c :: r =>
    if c = '"' then .ok ([], r)
    else if c = '\\' then
      match _h : readEscape r with
      | .error f => .error f
      | .ok (d, r) => do
        let (ds, r) ← readString r
        return (d :: ds, r)
    else if c.toNat < 0x20 then .error (.within .controlCharacter (c :: r))
    else do
      let (ds, r) ← readString r
      return (c :: ds, r)
termination_by cs => cs.length
decreasing_by
  · have := length_of_readEscape (by assumption)
    simp only [List.length_cons]
    omega
  · simp

def skipEscape : List Char → Except Fault (List Char)
  | [] => .error ⟨.endInString, 0⟩
  | c :: r =>
    match simpleEscape? c with
    | some _ => .ok r
    | none => if c = 'u' then Prod.snd <$> readHex r else .error (.within .badEscape (c :: r))

theorem length_of_skipEscape {cs r : List Char} (h : skipEscape cs = .ok r) :
    r.length < cs.length := by
  unfold skipEscape at h
  split at h
  · simp at h
  next d s =>
    split at h
    · simp only [Except.ok.injEq] at h
      simp [← h]
    · split at h
      · obtain ⟨⟨n, t⟩, hx, rfl⟩ := map_eq_ok.mp h
        have := length_of_readHex hx
        simp only [List.length_cons]
        omega
      · simp at h

def skipString : List Char → Except Fault (List Char)
  | [] => .error ⟨.endInString, 0⟩
  | c :: r =>
    if c = '"' then .ok r
    else if c = '\\' then
      match _h : skipEscape r with
      | .error f => .error f
      | .ok r => skipString r
    else if c.toNat < 0x20 then .error (.before .controlCharacter (c :: r))
    else skipString r
termination_by cs => cs.length
decreasing_by
  · have := length_of_skipEscape (by assumption)
    simp only [List.length_cons]
    omega
  · simp

end LayoutSync.Json
