import LayoutSync.Proofs.Json.Skipping
import LayoutSync.Proofs.Json.Spelling

namespace LayoutSync.Json

section Strings

variable {c : Char} {e r t : List Char}

lemma readHex_of_isCode {n : Nat} {ds : List Char} (h : IsCode n ds) (r : List Char) :
    readHex (ds ++ r) = .ok (n, r) := by
  obtain ⟨hl, hx, rfl⟩ := h
  exact readHex_of_digits hl hx r

lemma readEscape_code {n : Nat} {ds : List Char} (h : IsCode n ds) (hn : n < 0xd800 ∨ 0xdfff < n)
    (r : List Char) : readEscape ('u' :: (ds ++ r)) = .ok (Char.ofNat n, r) := by
  have hu : simpleEscape? 'u' = none := by decide
  have hl : ¬ (0xdc00 ≤ n ∧ n ≤ 0xdfff) := by omega
  have hh : ¬ (0xd800 ≤ n ∧ n ≤ 0xdbff) := by omega
  simp [readEscape, hu, readCode, readHex_of_isCode h, ok_bind, hl, hh, pure_eq_ok]

lemma readEscape_pair {high low : Nat} {ds es : List Char} (hd : IsCode high ds) (he : IsCode low es)
    (hh : 0xd800 ≤ high ∧ high ≤ 0xdbff) (hl : 0xdc00 ≤ low ∧ low ≤ 0xdfff) (r : List Char) :
    readEscape ('u' :: (ds ++ '\\' :: 'u' :: (es ++ r))) =
      .ok (Char.ofNat (0x10000 + 0x400 * (high - 0xd800) + (low - 0xdc00)), r) := by
  have hu : simpleEscape? 'u' = none := by decide
  have hn : ¬ (0xdc00 ≤ high ∧ high ≤ 0xdfff) := by omega
  simp [readEscape, hu, readCode, readHex_of_isCode hd, ok_bind, hn, hh, readLowHalf,
    readHex_of_isCode he, hl, pure_eq_ok]

lemma readString_escape (h : readEscape e = .ok (c, r)) :
    readString ('\\' :: e) = (do let (ds, s) ← readString r; return (c :: ds, s)) := by
  have hq : ('\\' : Char) ≠ '"' := by decide
  rw [readString, if_neg hq, if_pos rfl]
  split
  next f hf => simp [h] at hf
  next d s hs =>
    obtain ⟨rfl, rfl⟩ : c = d ∧ r = s := by simpa [h] using hs
    rfl

lemma readString_char (h : SpellsChar c t) (r : List Char) :
    readString (t ++ r) = (do let (ds, s) ← readString r; return (c :: ds, s)) := by
  cases h with
  | plain hq hb hc => rw [List.singleton_append, readString, if_neg hq, if_neg hb, if_neg hc]
  | @short c d h => exact readString_escape (by simp [readEscape, h])
  | code h hn => exact readString_escape (readEscape_code h hn r)
  | pair hd he hh hl =>
    have hr := readEscape_pair hd he hh hl r
    simp only [List.cons_append, List.append_assoc]
    exact readString_escape hr

lemma readString_spelled {s : String} {cs : List Char} (h : SpellsString s cs) (r : List Char) :
    readString (cs ++ r) = .ok (s.toList, r) := by
  obtain ⟨ts, hts, rfl⟩ := h
  generalize s.toList = ds at hts
  induction hts with
  | nil => rw [List.flatten_nil, List.nil_append, List.singleton_append, readString, if_pos rfl]
  | cons hc _ ih =>
    rw [List.flatten_cons, List.append_assoc, List.append_assoc, readString_char hc,
      ← List.append_assoc, ih]
    rfl

end Strings

section Values

def Reads {α : Type} (read : List Char → Except Fault (α × List Char)) (t : List Char) (a : α) : Prop :=
  ∀ r, Ends r → ∃ b, Blank b ∧ read (t ++ r) = .ok (a, b ++ r)

def IgnoresSpace {β : Type} (read : List Char → β) : Prop := ∀ cs, read (skipSpace cs) = read cs

variable {α : Type} {cs : List Char} {read : List Char → Except Fault (α × List Char)}

lemma Reads.of_padded {c : Char} {s : List Char} {a : α} (hp : Padded (c :: s) cs)
    (hc : isSpace c = false) (hs : IgnoresSpace read)
    (h : ∀ r, Ends r → read (c :: (s ++ r)) = .ok (a, r)) : Reads read cs a := by
  intro r hr
  obtain ⟨d, hd, hskip⟩ := hp.skipSpace hc
  refine ⟨d, hd, ?_⟩
  rw [← hs, hskip, h _ (ends_blank_append hd hr)]

lemma ignoresSpace_string (expected : String) : IgnoresSpace (expectString expected) := by
  intro cs
  rw [expectString.eq_def, expectString.eq_def expected cs, skipSpace_skipSpace]

lemma ignoresSpace_bool : IgnoresSpace expectBool := by
  intro cs
  rw [expectBool.eq_def, expectBool.eq_def cs, skipSpace_skipSpace]

lemma ignoresSpace_array (room : Nat) (item : Nat → List Char → Except Fault (α × List Char)) :
    IgnoresSpace (expectArray room item) := by
  intro cs
  rw [expectArray.eq_def, expectArray.eq_def room item cs, skipSpace_skipSpace]

lemma ignoresSpace_name (names : List String) (room : Nat) : IgnoresSpace (expectName names room) := by
  intro cs
  rw [expectName.eq_def, expectName.eq_def names room cs, skipSpace_skipSpace]

lemma expectString_spelled {s : String} {w : List Char} (h : SpellsString s w) (expected : String)
    (r : List Char) : expectString expected ('"' :: (w ++ r)) = .ok (s, r) := by
  change (readString (w ++ r) >>= _) = _
  rw [readString_spelled h]
  simp only [ok_bind, String.ofList_toList]
  rfl

lemma reads_string {s : String} (h : Spells (.string s) cs) (expected : String) :
    Reads (expectString expected) cs s := by
  cases h with
  | string h hp =>
    exact Reads.of_padded hp rfl (ignoresSpace_string expected) fun r _ =>
      expectString_spelled h expected r

lemma expectName_string {names : List String} {s : String} {w : List Char} (hs : SpellsString s w)
    (hn : names.contains s = true) (room : Nat) (r : List Char) :
    expectName names room ('"' :: (w ++ r)) = .ok (s, r) := by
  change expectName.known names "variant identifier" ('"' :: (w ++ r)) = _
  rw [expectName.known, expectString_spelled hs]
  simp only [ok_bind, hn, if_true]
  rfl

lemma reads_bool {b : Bool} (h : Spells (.bool b) cs) : Reads expectBool cs b := by
  cases h with
  | bool hp =>
    cases b with
    | true => exact Reads.of_padded hp rfl ignoresSpace_bool fun r _ => rfl
    | false => exact Reads.of_padded hp rfl ignoresSpace_bool fun r _ => rfl

end Values

section Arrays

variable {α : Type} {item : List Char → Except Fault (α × List Char)} {as : List α}
  {ts : List (List Char)} {b r t : List Char}

lemma nextItem?_close (hb : Blank b) (first : Bool) (r : List Char) :
    nextItem? first (b ++ ']' :: r) = .ok none := by
  rw [nextItem?, skipSpace_blank hb, skipSpace_of_not_isSpace rfl]
  rfl

lemma nextItem?_first (h : Begins t) (r : List Char) :
    nextItem? true (t ++ r) = .ok (some (skipSpace (t ++ r))) := by
  obtain ⟨c, s, hskip, hc, _⟩ := h.skipSpace
  rw [nextItem?, hskip]
  dsimp only
  rw [if_neg hc, if_pos rfl]

lemma nextItem?_next (hb : Blank b) (h : Begins t) (r : List Char) :
    nextItem? false (b ++ ',' :: (t ++ r)) = .ok (some (skipSpace (t ++ r))) := by
  obtain ⟨c, s, hskip, hc, _⟩ := h.skipSpace
  rw [nextItem?, skipSpace_blank hb, skipSpace_of_not_isSpace rfl]
  dsimp only
  rw [if_neg (by decide), if_neg (by decide), if_pos rfl, hskip]
  dsimp only
  rw [if_neg hc]

lemma readItems_first (h : Begins t) (n : Nat) (r : List Char) :
    readItems item (n + 1) true (t ++ r) = readItems item (n + 1) false (',' :: (t ++ r)) := by
  have hnext := nextItem?_next blank_nil h r
  rw [List.nil_append] at hnext
  rw [readItems, readItems, nextItem?_first h, hnext]
  rfl

lemma readItems_next (hs : IgnoresSpace item)
    (h : List.Forall₂ (fun a t => Begins t ∧ Reads item t a) as ts) (hb : Blank b) (r : List Char)
    {n : Nat} (hn : ts.length < n) : ∃ d, Blank d ∧
      readItems item n false (b ++ (ts.flatMap (',' :: ·) ++ ']' :: r)) = .ok (as, d ++ ']' :: r) := by
  induction h generalizing b n with
  | nil =>
    obtain ⟨n, rfl⟩ := Nat.exists_eq_succ_of_ne_zero (Nat.ne_zero_of_lt hn)
    refine ⟨b, hb, ?_⟩
    rw [List.flatMap_nil, List.nil_append, readItems, nextItem?_close hb]
    rfl
  | @cons a t as ts hf _ ih =>
    obtain ⟨n, rfl⟩ := Nat.exists_eq_succ_of_ne_zero (Nat.ne_zero_of_lt hn)
    obtain ⟨d, hd, he⟩ := hf.2 _ (ends_flatMap ts (ends_bracket r))
    obtain ⟨d', hd', hi⟩ := ih hd (Nat.lt_of_succ_lt_succ hn)
    refine ⟨d', hd', ?_⟩
    have hitem := (hs _).trans he
    rw [List.flatMap_cons, List.append_assoc, List.cons_append, readItems, nextItem?_next hb hf.1]
    simp only [ok_bind, hitem, hi]
    rfl

lemma endArray_close (hb : Blank b) (r : List Char) : endArray (b ++ ']' :: r) = .ok r := by
  rw [endArray, skipSpace_blank hb, skipSpace_of_not_isSpace rfl]
  rfl

lemma readArray_joined {body : List Char} (hs : IgnoresSpace item)
    (h : List.Forall₂ (fun a t => Begins t ∧ Reads item t a) as ts) (hj : Joined ts body)
    (r : List Char) : readArray item (body ++ ']' :: r) = .ok (as, r) := by
  have hlen := hj.length_le (by
    intro t ht
    obtain ⟨a, _, hbegins, _⟩ := exists_of_forall₂ h t ht
    exact hbegins.ne_nil)
  have hitems : ∃ d, Blank d ∧
      readItems item ((body ++ ']' :: r).length + 1) true (body ++ ']' :: r) =
        .ok (as, d ++ ']' :: r) := by
    cases hj with
    | none hb =>
      cases h
      refine ⟨_, hb, ?_⟩
      rw [readItems, nextItem?_close hb]
      rfl
    | some t ts =>
      have hbegins : Begins t := by
        cases h with
        | cons h _ => exact h.1
      have hn : (t :: ts).length < (t ++ ts.flatMap (',' :: ·) ++ ']' :: r).length + 1 := by
        simp only [List.length_append, List.length_cons] at hlen ⊢
        omega
      obtain ⟨d, hd, he⟩ := readItems_next hs h blank_nil r hn
      refine ⟨d, hd, ?_⟩
      simp only [List.flatMap_cons, List.nil_append, List.append_assoc, List.cons_append] at he ⊢
      exact (readItems_first hbegins _ _).trans he
  obtain ⟨d, hd, he⟩ := hitems
  rw [readArray, he]
  simp only [ok_bind, endArray_close hd]
  rfl

lemma reads_expectArray {room : Nat} {item : Nat → List Char → Except Fault (α × List Char)}
    {encode : α → Value} {cs : List Char} (h : Spells (.array (as.map encode)) cs)
    (hs : IgnoresSpace (item room)) (hn : ∀ a n, encode a ≠ .number n)
    (hr : ∀ a ∈ as, ∀ t, Spells (encode a) t → Reads (item room) t a) :
    Reads (expectArray (room + 1) item) cs as := by
  cases h with
  | @array _ ts body _ h hj hp =>
    have hitems : List.Forall₂ (fun a t => Begins t ∧ Reads (item room) t a) as ts := by
      rw [List.forall₂_map_left_iff] at h
      apply ((List.forall₂_and_left as ts).mpr ⟨hr, h⟩).imp
      intro a t ht
      exact ⟨ht.2.begins (hn a), ht.1 t ht.2⟩
    refine Reads.of_padded hp rfl (ignoresSpace_array _ _) fun r _ => ?_
    rw [List.append_assoc, List.singleton_append]
    exact readArray_joined hs hitems hj r

end Arrays

section Objects

variable {σ : Type} {member : σ → String → List Char → Except Fault (σ × List Char)} {s t : σ}
  {m : MemberText} {ms : List MemberText} {b r : List Char}

lemma nextKey?_padded {cs k : List Char} (hp : Padded ('"' :: cs) k) : ∃ d, Blank d ∧ ∀ r,
    nextKey? true (k ++ r) = nextKey?.key (cs ++ (d ++ r)) := by
  obtain ⟨d, hd, hskip⟩ := hp.skipSpace rfl
  refine ⟨d, hd, fun r => ?_⟩
  rw [nextKey?, hskip]
  rfl

lemma nextKey?_comma {cs k : List Char} (hp : Padded ('"' :: cs) k) (hb : Blank b) (r : List Char) :
    nextKey? false (b ++ ',' :: (k ++ r)) = nextKey? true (k ++ r) := by
  obtain ⟨d, _, hskip⟩ := hp.skipSpace rfl
  rw [nextKey?, skipSpace_blank hb, skipSpace_of_not_isSpace rfl]
  dsimp only
  rw [if_neg (by decide), if_neg (by decide), if_pos rfl, nextKey?, hskip]
  rfl

lemma nextKey?_keyed (h : m.Keyed) : ∃ d, Blank d ∧ ∀ r,
    nextKey? true (m.key ++ r) = .ok (some (m.name, d ++ r)) := by
  obtain ⟨cs, hcs, hp⟩ := h
  obtain ⟨d, hd, hkey⟩ := nextKey?_padded hp
  refine ⟨d, hd, fun r => ?_⟩
  rw [hkey, nextKey?.key, readString_spelled hcs]
  simp only [ok_bind, String.ofList_toList]
  rfl

lemma nextKey?_close (hb : Blank b) (first : Bool) (r : List Char) :
    nextKey? first (b ++ '}' :: r) = .ok none := by
  rw [nextKey?, skipSpace_blank hb, skipSpace_of_not_isSpace rfl]
  rfl

lemma passBracket_close (hb : Blank b) (r : List Char) : passBracket '}' (b ++ '}' :: r) = r := by
  rw [passBracket, skipSpace_blank hb, skipSpace_of_not_isSpace rfl]
  rfl

def TakesOne (member : σ → String → List Char → Except Fault (σ × List Char)) (s : σ) (m : MemberText)
    (t : σ) : Prop :=
  ∀ d, Blank d → Reads (member s m.name) (d ++ ':' :: m.value) t

inductive Takes (member : σ → String → List Char → Except Fault (σ × List Char)) :
    σ → List MemberText → σ → Prop
  | nil (s : σ) : Takes member s [] s
  | cons {s t u : σ} {m : MemberText} {ms : List MemberText} (h : TakesOne member s m t)
    (hs : Takes member t ms u) : Takes member s (m :: ms) u

lemma readMembers_next (h : Takes member s ms t) (hk : ∀ m ∈ ms, m.Keyed) (hb : Blank b)
    (hr : Ends r) : ∃ d, Blank d ∧ ∀ n,
      readMembers member (n + ms.length) false s
          (b ++ ((ms.map MemberText.text).flatMap (',' :: ·) ++ r)) =
        readMembers member n false t (d ++ r) := by
  induction h generalizing b with
  | nil s => exact ⟨b, hb, fun n => rfl⟩
  | @cons s t u m ms h _ ih =>
    obtain ⟨d, hd, hkey⟩ := nextKey?_keyed (hk m List.mem_cons_self)
    obtain ⟨_, _, hp⟩ := hk m List.mem_cons_self
    obtain ⟨e, he, hm⟩ := h d hd _ (ends_flatMap (ms.map MemberText.text) hr)
    obtain ⟨f, hf, hi⟩ := ih (fun m hm => hk m (List.mem_cons_of_mem _ hm)) he
    refine ⟨f, hf, fun n => ?_⟩
    rw [List.append_assoc, List.cons_append] at hm
    rw [List.map_cons, List.flatMap_cons, List.append_assoc, List.cons_append, MemberText.text,
      List.append_assoc, List.cons_append, List.length_cons, ← Nat.add_assoc, readMembers,
      nextKey?_comma hp hb, hkey]
    simp only [ok_bind, hm, hi]

lemma readMembers_first {cs k : List Char} (hp : Padded ('"' :: cs) k) (n : Nat) (r : List Char) :
    readMembers member (n + 1) true s (k ++ r) = readMembers member (n + 1) false s (',' :: (k ++ r)) := by
  have hcomma := nextKey?_comma hp blank_nil r
  obtain ⟨d, _, hkey⟩ := nextKey?_padded hp
  rw [List.nil_append] at hcomma
  rw [readMembers, readMembers, hcomma, hkey, nextKey?.key]
  cases readString (cs ++ (d ++ r)) with
  | error f => rfl
  | ok p => rfl

lemma readMembers_joined {body : List Char} (h : Takes member s ms t) (hk : ∀ m ∈ ms, m.Keyed)
    (hj : Joined (ms.map MemberText.text) body) (hr : Ends r) : ∃ d first, Blank d ∧ ∀ n,
      readMembers member (n + ms.length) true s (body ++ r) = readMembers member n first t (d ++ r) := by
  cases ms with
  | nil =>
    cases h
    cases hj with
    | none hb => exact ⟨body, true, hb, fun n => rfl⟩
  | cons m ms =>
    cases hj with
    | some =>
      obtain ⟨d, hd, he⟩ := readMembers_next h hk blank_nil hr
      obtain ⟨cs, _, hp⟩ := hk m List.mem_cons_self
      refine ⟨d, false, hd, fun n => ?_⟩
      have hn := he n
      simp only [MemberText.text, List.map_cons, List.flatMap_cons, List.nil_append, List.append_assoc,
        List.cons_append] at hn ⊢
      exact (readMembers_first hp _ _).trans hn

end Objects

namespace Shape

variable {σ α : Type} {s : Shape σ α} {room : Nat} {t u : σ} {m : MemberText} {ms : List MemberText}
  {f : RecordField σ} {cs : List Char}

lemma takesOne_known (hf : s.fields.find? (·.name = m.name) = some f) (hset : f.isSet t = false)
    (h : Reads (f.read room t) m.value u) : TakesOne (s.readMember room) t m u := by
  intro d hd r hr
  obtain ⟨b, hb, he⟩ := h r hr
  refine ⟨b, hb, ?_⟩
  rw [Shape.readMember, hf]
  dsimp only
  rw [hset, if_neg Bool.false_ne_true, List.append_assoc, List.cons_append, readColon_blank hd]
  exact he

lemma takesOne_unknown (hf : s.fields.find? (·.name = m.name) = none) (h : IsJson m.value) :
    TakesOne (s.readMember room) t m t := by
  intro d hd r hr
  have hlen : m.value.length < (m.value ++ r).length + 1 := by
    rw [List.length_append]
    omega
  obtain ⟨b, hb, he⟩ := skipValue_isJson h hlen r hr
  refine ⟨b, hb, ?_⟩
  rw [Shape.readMember, hf]
  dsimp only
  rw [List.append_assoc, List.cons_append, readColon_blank hd]
  simp only [ok_bind, he]
  rfl

lemma ignoresSpace (s : Shape σ α) (room : Nat) : IgnoresSpace (s.read room) := by
  intro cs
  rw [Shape.read.eq_def, Shape.read.eq_def s room cs, skipSpace_skipSpace]

lemma reads_isObject {a : α} (ho : IsObject ms cs) (h : Takes (s.readMember room) s.start ms t)
    (hfinish : s.finish t = .ok a) : Reads (s.read (room + 1)) cs a := by
  obtain ⟨hk, body, hj, hp⟩ := ho
  refine Reads.of_padded hp rfl (s.ignoresSpace _) fun r _ => ?_
  obtain ⟨d, first, hd, he⟩ := readMembers_joined h hk hj (ends_brace r)
  have hlen : ms.length ≤ body.length := by
    have hl := hj.length_le (by
      intro t ht
      obtain ⟨m, _, rfl⟩ := List.mem_map.mp ht
      simp [MemberText.text])
    rwa [List.length_map] at hl
  -- There is a round for each character and one more, which is enough for the members.
  obtain ⟨n, hn⟩ : ∃ n, (body ++ '}' :: r).length + 1 = n + 1 + ms.length :=
    ⟨(body ++ '}' :: r).length - ms.length, by
      simp only [List.length_append]
      omega⟩
  have hmembers : readMembers (s.readMember room) ((body ++ '}' :: r).length + 1) true s.start
      (body ++ '}' :: r) = .ok (t, r) := by
    rw [hn, he, readMembers, nextKey?_close hd]
    simp only [ok_bind, passBracket_close hd]
    rfl
  rw [List.append_assoc, List.singleton_append]
  change (readMembers (s.readMember room) ((body ++ '}' :: r).length + 1) true s.start
    (body ++ '}' :: r) >>= _) = _
  rw [hmembers]
  simp only [ok_bind, Shape.close, hfinish]

end Shape

end LayoutSync.Json
