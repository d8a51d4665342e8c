import LayoutSync.Proofs.Json.Reading

/-!
How far readers go. What is read at a JSON text, if it is read at all, is the whole of it: a reader for
values of a known shape never stops within a value or runs beyond it.
-/

namespace LayoutSync.Json

section Strings

variable {e r cs : List Char} {c : Char}

lemma skipEscape_code {n : Nat} (h : readHex cs = .ok (n, r)) : skipEscape ('u' :: cs) = .ok r := by
  have hu : simpleEscape? 'u' = none := by decide
  rw [skipEscape, hu]
  dsimp only
  rw [if_pos rfl, h]
  rfl

lemma readLowHalf_ok {high : Nat} (h : readLowHalf high cs = .ok (c, r)) :
    ∃ x n, cs = '\\' :: 'u' :: x ∧ readHex x = .ok (n, r) := by
  unfold readLowHalf at h
  split at h
  · cases h
  · cases h
  next x =>
    obtain ⟨⟨n, y⟩, hy, h⟩ := bind_eq_ok.mp h
    dsimp only at h
    split at h
    · obtain ⟨_, rfl⟩ := Prod.mk.inj (Except.ok.inj h)
      exact ⟨x, n, rfl, hy⟩
    · cases h
  · cases h
  · cases h

lemma readCode_ok (h : readCode cs = .ok (c, r)) : ∃ n x, readHex cs = .ok (n, x) ∧
    (x = r ∨ ∃ y low, x = '\\' :: 'u' :: y ∧ readHex y = .ok (low, r)) := by
  obtain ⟨⟨n, x⟩, hx, h⟩ := bind_eq_ok.mp h
  refine ⟨n, x, hx, ?_⟩
  dsimp only at h
  split at h
  · cases h
  · split at h
    · exact .inr (readLowHalf_ok h)
    · exact .inl (Prod.mk.inj (Except.ok.inj h)).2

lemma skipEscape_of_readEscape (h : readEscape e = .ok (c, r)) : skipEscape e = .ok r ∨
    ∃ s, skipEscape e = .ok ('\\' :: s) ∧ skipEscape s = .ok r := by
  cases e with
  | nil => cases h
  | cons d s =>
    rw [readEscape] at h
    cases hd : simpleEscape? d with
    | some c' =>
      rw [hd] at h
      obtain ⟨_, rfl⟩ := Prod.mk.inj (Except.ok.inj h)
      exact .inl (by rw [skipEscape, hd])
    | none =>
      rw [hd] at h
      dsimp only at h
      split at h
      next hu =>
        subst hu
        obtain ⟨n, x, hx, rfl | ⟨y, low, rfl, hy⟩⟩ := readCode_ok h
        · exact .inl (skipEscape_code hx)
        · exact .inr ⟨'u' :: y, skipEscape_code hx, skipEscape_code hy⟩
      · cases h

lemma skipString_of_readString {ds : List Char} (h : readString cs = .ok (ds, r)) :
    skipString cs = .ok r := by
  induction cs using readString.induct generalizing ds with
  | case1 => rw [readString] at h; cases h
  | case2 s =>
    rw [readString, if_pos rfl] at h
    obtain ⟨_, rfl⟩ := Prod.mk.inj (Except.ok.inj h)
    rw [skipString, if_pos rfl]
  | case3 s f hf hq =>
    rw [readString, if_neg hq, if_pos rfl] at h
    split at h
    · cases h
    next hd => simp [hf] at hd
  | case4 s d x hd hq ih =>
    rw [readString_escape hd] at h
    obtain ⟨⟨es, y⟩, hy, h⟩ := bind_eq_ok.mp h
    obtain ⟨_, rfl⟩ := Prod.mk.inj (Except.ok.inj h)
    -- A pair of escapes is one character that is read, and two that are passed over.
    rcases skipEscape_of_readEscape hd with he | ⟨z, he, hz⟩
    · rw [skipString_escape he]
      exact ih hy
    · rw [skipString_escape he, skipString_escape hz]
      exact ih hy
  | case5 c s hq hb hc =>
    rw [readString, if_neg hq, if_neg hb, if_pos hc] at h
    cases h
  | case6 c s hq hb hc ih =>
    rw [readString, if_neg hq, if_neg hb, if_neg hc] at h
    obtain ⟨⟨es, y⟩, hy, h⟩ := bind_eq_ok.mp h
    obtain ⟨_, rfl⟩ := Prod.mk.inj (Except.ok.inj h)
    rw [skipString, if_neg hq, if_neg hb, if_neg hc]
    exact ih hy

lemma eq_of_readString {ds r' : List Char} (hs : IsString cs)
    (h : readString (cs ++ r) = .ok (ds, r')) : r' = r := by
  have hskip := skipString_of_readString h
  rw [skipString_isString hs] at hskip
  exact (Except.ok.inj hskip).symm

end Strings

section Texts

inductive IsRest : Char → List Char → Prop
  | null : IsRest 'n' "ull".toList
  | true : IsRest 't' "rue".toList
  | false : IsRest 'f' "alse".toList
  | minus (s : List Char) : IsRest '-' s
  | digit {c : Char} (h : c.isDigit = .true) (s : List Char) : IsRest c s
  | string {s : List Char} (h : IsString s) : IsRest '"' s
  | array {ts : List (List Char)} {body : List Char} (h : ∀ t ∈ ts, IsJson t) (hj : Joined ts body) :
    IsRest '[' (body ++ [']'])
  | object {ms : List (List Char × List Char)} {body : List Char}
    (h : ∀ m ∈ ms, IsKey m.1 ∧ IsJson m.2) (hj : Joined (ms.map fun m => m.1 ++ ':' :: m.2) body) :
    IsRest '{' (body ++ ['}'])

variable {t : List Char}

lemma IsJson.exists_isRest (h : IsJson t) : ∃ c s d, IsRest c s ∧ Blank d ∧
    ∀ r, skipSpace (t ++ r) = c :: (s ++ (d ++ r)) := by
  have hpadded : ∀ {c s}, Padded (c :: s) t → isSpace c = false → IsRest c s →
      ∃ c s d, IsRest c s ∧ Blank d ∧ ∀ r, skipSpace (t ++ r) = c :: (s ++ (d ++ r)) := by
    intro c s hp hc hrest
    obtain ⟨d, hd, hskip⟩ := hp.skipSpace hc
    exact ⟨c, s, d, hrest, hd, hskip⟩
  cases h with
  | word h hp =>
    simp only [List.mem_cons, List.not_mem_nil, or_false] at h
    rcases h with rfl | rfl | rfl
    · exact hpadded hp rfl .null
    · exact hpadded hp rfl .true
    · exact hpadded hp rfl .false
  | number h hp =>
    obtain ⟨c, s, rfl, hc⟩ := isDigit_head h
    rcases hp with hp | hp
    · exact hpadded hp (not_isSpace_of_isDigit hc) (.digit hc s)
    · exact hpadded hp rfl (.minus _)
  | string h hp => exact hpadded hp rfl (.string h)
  | array h hj hp => exact hpadded hp rfl (.array h hj)
  | object hk h hj hp => exact hpadded hp rfl (.object (fun m hm => ⟨hk m hm, h m hm⟩) hj)

lemma IsJson.isRest {c : Char} {r x : List Char} (h : IsJson t) (hx : skipSpace (t ++ r) = c :: x) :
    ∃ s d, IsRest c s ∧ Blank d ∧ x = s ++ (d ++ r) := by
  obtain ⟨e, s, d, hrest, hd, hskip⟩ := h.exists_isRest
  obtain ⟨rfl, rfl⟩ := List.cons.inj ((hskip r).symm.trans hx)
  exact ⟨s, d, hrest, hd, rfl⟩

end Texts

section Readers

variable {α : Type} {cs r : List Char}

lemma expectString_ok {expected : String} {s : String} (h : expectString expected cs = .ok (s, r)) :
    ∃ x ds, skipSpace cs = '"' :: x ∧ readString x = .ok (ds, r) := by
  rw [expectString.eq_def] at h
  split at h
  next x hx =>
    obtain ⟨⟨ds, y⟩, hy, h⟩ := bind_eq_ok.mp h
    obtain ⟨_, rfl⟩ := Prod.mk.inj (Except.ok.inj h)
    exact ⟨x, ds, hx, hy⟩
  · cases h

lemma expectBool_ok {b : Bool} (h : expectBool cs = .ok (b, r)) :
    ∃ x, skipSpace cs = 't' :: x ∧ readWord "rue".toList x = .ok r ∨
      skipSpace cs = 'f' :: x ∧ readWord "alse".toList x = .ok r := by
  rw [expectBool.eq_def] at h
  split at h
  next x hx =>
    obtain ⟨y, hy, h⟩ := bind_eq_ok.mp h
    obtain ⟨_, rfl⟩ := Prod.mk.inj (Except.ok.inj h)
    exact ⟨x, .inl ⟨hx, hy⟩⟩
  next x hx =>
    obtain ⟨y, hy, h⟩ := bind_eq_ok.mp h
    obtain ⟨_, rfl⟩ := Prod.mk.inj (Except.ok.inj h)
    exact ⟨x, .inr ⟨hx, hy⟩⟩
  · cases h

lemma expectNull_ok (h : expectNull cs = .ok r) :
    ∃ x, skipSpace cs = 'n' :: x ∧ readWord "ull".toList x = .ok r := by
  rw [expectNull.eq_def] at h
  split at h
  next x hx => exact ⟨x, hx, h⟩
  · cases h

lemma expectArray_ok {room : Nat} {item : Nat → List Char → Except Fault (α × List Char)} {as : List α}
    (h : expectArray room item cs = .ok (as, r)) :
    ∃ x room', skipSpace cs = '[' :: x ∧ readArray (item room') x = .ok (as, r) := by
  rw [expectArray.eq_def] at h
  split at h
  · cases h
  next x room' hx => exact ⟨x, room', hx, h⟩
  · cases h

lemma endArray_ok (h : endArray cs = .ok r) : skipSpace cs = ']' :: r := by
  rw [endArray] at h
  split at h
  · cases h
  next c x hx =>
    split at h
    next hc =>
      obtain rfl := Except.ok.inj h
      rw [hx, hc]
    · split at h
      · cases h
      · cases h

end Readers

section Extents

variable {α : Type} {read : List Char → Except Fault (α × List Char)} {t : List Char}

def Spans (read : List Char → Except Fault (α × List Char)) (t : List Char) : Prop :=
  ∀ r, Ends r → ∀ a r', read (t ++ r) = .ok (a, r') → ∃ b, Blank b ∧ r' = b ++ r

structure ReadsWhole (read : List Char → Except Fault (α × List Char)) : Prop where
  ignoresSpace : IgnoresSpace read
  spans {t : List Char} (h : IsJson t) : Spans read t

lemma readsWhole_string (expected : String) : ReadsWhole (expectString expected) where
  ignoresSpace := ignoresSpace_string expected
  spans h r _ a r' hread := by
    obtain ⟨x, ds, hx, hs⟩ := expectString_ok hread
    obtain ⟨s, d, hrest, hd, rfl⟩ := h.isRest hx
    refine ⟨d, hd, ?_⟩
    cases hrest with
    | string h => exact eq_of_readString h hs
    | digit hc => cases hc

lemma readsWhole_bool : ReadsWhole expectBool where
  ignoresSpace := ignoresSpace_bool
  spans h r _ a r' hread := by
    obtain ⟨x, ⟨hx, hw⟩ | ⟨hx, hw⟩⟩ := expectBool_ok hread
    · obtain ⟨s, d, hrest, hd, rfl⟩ := h.isRest hx
      refine ⟨d, hd, ?_⟩
      cases hrest with
      | true => exact (Except.ok.inj hw).symm
      | digit hc => cases hc
    · obtain ⟨s, d, hrest, hd, rfl⟩ := h.isRest hx
      refine ⟨d, hd, ?_⟩
      cases hrest with
      | false => exact (Except.ok.inj hw).symm
      | digit hc => cases hc

variable {item : List Char → Except Fault (α × List Char)} {as : List α} {ts : List (List Char)}
  {b r r' : List Char} {n : Nat}

lemma readItems_spans (hi : ReadsWhole item) (hts : ∀ t ∈ ts, IsJson t) (hb : Blank b)
    (h : readItems item n false (b ++ (ts.flatMap (',' :: ·) ++ ']' :: r)) = .ok (as, r')) :
    ∃ d, Blank d ∧ r' = d ++ ']' :: r := by
  induction ts generalizing as b n with
  | nil =>
    cases n with
    | zero => cases h
    | succ n =>
      rw [List.flatMap_nil, List.nil_append, readItems, nextItem?_close hb] at h
      obtain ⟨_, rfl⟩ := Prod.mk.inj (Except.ok.inj h)
      exact ⟨b, hb, rfl⟩
  | cons t ts ih =>
    have ht := hts t List.mem_cons_self
    cases n with
    | zero => cases h
    | succ n =>
      rw [List.flatMap_cons, List.append_assoc, List.cons_append, readItems,
        nextItem?_next hb ht.begins] at h
      change (item _ >>= _) = _ at h
      obtain ⟨⟨a, x⟩, hx, h⟩ := bind_eq_ok.mp h
      obtain ⟨⟨bs, y⟩, hy, h⟩ := bind_eq_ok.mp h
      obtain ⟨_, rfl⟩ := Prod.mk.inj (Except.ok.inj h)
      rw [hi.ignoresSpace] at hx
      -- The item leaves space at most, and the next round starts with it.
      obtain ⟨d, hd, rfl⟩ := hi.spans ht _ (ends_flatMap ts (ends_bracket r)) a x hx
      exact ih (fun u hu => hts u (List.mem_cons_of_mem _ hu)) hd hy

lemma eq_of_readArray {body : List Char} (hi : ReadsWhole item) (hts : ∀ t ∈ ts, IsJson t)
    (hj : Joined ts body) (h : readArray item (body ++ ']' :: r) = .ok (as, r')) : r' = r := by
  obtain ⟨⟨bs, x⟩, hx, h⟩ := bind_eq_ok.mp h
  obtain ⟨y, hy, h⟩ := bind_eq_ok.mp h
  obtain ⟨_, rfl⟩ := Prod.mk.inj (Except.ok.inj h)
  have hclose : ∃ d, Blank d ∧ x = d ++ ']' :: r := by
    cases hj with
    | none hb =>
      rw [readItems, nextItem?_close hb] at hx
      obtain ⟨_, rfl⟩ := Prod.mk.inj (Except.ok.inj hx)
      exact ⟨body, hb, rfl⟩
    | some t ts =>
      rw [List.append_assoc, readItems_first (hts t List.mem_cons_self).begins] at hx
      apply readItems_spans hi hts blank_nil
      simp only [List.flatMap_cons, List.nil_append, List.append_assoc, List.cons_append]
      exact hx
  obtain ⟨d, hd, rfl⟩ := hclose
  rw [endArray_close hd] at hy
  exact (Except.ok.inj hy).symm

lemma readsWhole_array {item : Nat → List Char → Except Fault (α × List Char)}
    (hi : ∀ room, ReadsWhole (item room)) (room : Nat) : ReadsWhole (expectArray room item) where
  ignoresSpace := ignoresSpace_array room item
  spans h r _ a r' hread := by
    obtain ⟨x, room', hx, harray⟩ := expectArray_ok hread
    obtain ⟨s, d, hrest, hd, rfl⟩ := h.isRest hx
    refine ⟨d, hd, ?_⟩
    cases hrest with
    | array hts hj =>
      rw [List.append_assoc, List.singleton_append] at harray
      exact eq_of_readArray (hi room') hts hj harray
    | digit hc => cases hc

end Extents

end LayoutSync.Json
