import LayoutSync.Json.Reader
import LayoutSync.Proofs.Json.RoundTrip
import Mathlib.Data.List.DropRight

namespace LayoutSync.Json

section Space

def Blank (b : List Char) : Prop := ∀ c ∈ b, isSpace c = true

def Padded (word cs : List Char) : Prop := ∃ b d, Blank b ∧ Blank d ∧ cs = b ++ (word ++ d)

def Ends (r : List Char) : Prop := ∀ c ∈ r.head?, isSpace c = true ∨ c = ',' ∨ c = ']' ∨ c = '}'

inductive Joined : List (List Char) → List Char → Prop
  | none {b : List Char} (h : Blank b) : Joined [] b
  | some (t : List Char) (ts : List (List Char)) : Joined (t :: ts) (t ++ ts.flatMap (',' :: ·))

def Begins (t : List Char) : Prop :=
  ∃ b c s, Blank b ∧ t = b ++ c :: s ∧ isSpace c = false ∧ c ≠ ']' ∧ c ≠ '}'

variable {b r t : List Char}

lemma blank_nil : Blank [] := List.forall_mem_nil _

lemma skipSpace_blank (h : Blank b) (r : List Char) : skipSpace (b ++ r) = skipSpace r :=
  List.dropWhile_append_of_pos h

lemma skipSpace_skipSpace (cs : List Char) : skipSpace (skipSpace cs) = skipSpace cs :=
  List.dropWhile_idempotent isSpace cs

lemma skipSpace_of_blank (h : Blank b) : skipSpace b = [] := List.dropWhile_eq_nil_iff.mpr h

lemma ends_blank_append (h : Blank b) (hr : Ends r) : Ends (b ++ r) := by
  cases b with
  | nil => exact hr
  | cons c b =>
    intro d hd
    obtain rfl := Option.some.inj hd
    exact .inl (h c List.mem_cons_self)

lemma ends_comma (r : List Char) : Ends (',' :: r) := by
  intro c hc
  obtain rfl := Option.some.inj hc
  exact .inr (.inl rfl)

lemma ends_bracket (r : List Char) : Ends (']' :: r) := by
  intro c hc
  obtain rfl := Option.some.inj hc
  exact .inr (.inr (.inl rfl))

lemma ends_brace (r : List Char) : Ends ('}' :: r) := by
  intro c hc
  obtain rfl := Option.some.inj hc
  exact .inr (.inr (.inr rfl))

lemma ends_flatMap (ts : List (List Char)) (hr : Ends r) : Ends (ts.flatMap (',' :: ·) ++ r) := by
  cases ts with
  | nil => exact hr
  | cons t ts => exact ends_comma _

lemma Padded.skipSpace {c : Char} {s cs : List Char} (h : Padded (c :: s) cs) (hc : isSpace c = false) :
    ∃ d, Blank d ∧ ∀ r, skipSpace (cs ++ r) = c :: (s ++ (d ++ r)) := by
  obtain ⟨b, d, hb, hd, rfl⟩ := h
  refine ⟨d, hd, fun r => ?_⟩
  rw [List.append_assoc, skipSpace_blank hb, List.cons_append, List.cons_append, List.append_assoc,
    skipSpace_of_not_isSpace hc]

lemma Begins.skipSpace (h : Begins t) : ∃ c s, (∀ r, skipSpace (t ++ r) = c :: (s ++ r)) ∧ c ≠ ']' ∧
    c ≠ '}' := by
  obtain ⟨b, c, s, hb, rfl, hc, h1, h2⟩ := h
  refine ⟨c, s, fun r => ?_, h1, h2⟩
  rw [List.append_assoc, skipSpace_blank hb, List.cons_append, skipSpace_of_not_isSpace hc]

lemma readColon_blank (hb : Blank b) (r : List Char) : readColon (b ++ ':' :: r) = .ok r := by
  rw [readColon, skipSpace_blank hb, skipSpace_of_not_isSpace rfl]
  rfl

lemma begins_of_padded {c : Char} {s cs : List Char} (h : Padded (c :: s) cs) (hc : isSpace c = false)
    (h1 : c ≠ ']') (h2 : c ≠ '}') : Begins cs := by
  obtain ⟨b, d, hb, _, rfl⟩ := h
  exact ⟨b, c, s ++ d, hb, rfl, hc, h1, h2⟩

end Space

section Strings

inductive IsStringPart : List Char → Prop
  | plain {c : Char} (hq : c ≠ '"') (hb : c ≠ '\\') (hc : ¬ c.toNat < 0x20) : IsStringPart [c]
  | short {c : Char} (h : (simpleEscape? c).isSome) : IsStringPart ['\\', c]
  | code {ds : List Char} (hl : ds.length = 4) (hx : ∀ d ∈ ds, (Text.hexDigit? d).isSome) :
    IsStringPart ('\\' :: 'u' :: ds)

def IsString (cs : List Char) : Prop :=
  ∃ ts : List (List Char), (∀ t ∈ ts, IsStringPart t) ∧ cs = ts.flatten ++ ['"']

variable {t ds : List Char}

lemma length_le_utf8Length (cs : List Char) : cs.length ≤ Text.utf8Length cs := by
  induction cs with
  | nil => exact Nat.le_refl 0
  | cons c cs ih =>
    have hc := c.utf8Size_pos
    rw [List.length_cons, Text.utf8Length_cons]
    omega

lemma mapM_hexDigit? (hx : ∀ d ∈ ds, (Text.hexDigit? d).isSome) :
    ds.mapM Text.hexDigit? = some (ds.filterMap Text.hexDigit?) := by
  induction ds with
  | nil => rfl
  | cons d ds ih =>
    obtain ⟨n, hn⟩ := Option.isSome_iff_exists.mp (hx d List.mem_cons_self)
    simp [List.mapM_cons, hn, ih fun e he => hx e (List.mem_cons_of_mem _ he)]

lemma readHex_of_digits (hl : ds.length = 4) (hx : ∀ d ∈ ds, (Text.hexDigit? d).isSome)
    (r : List Char) :
    readHex (ds ++ r) = .ok ((ds.filterMap Text.hexDigit?).foldl (16 * · + ·) 0, r) := by
  have htake : (ds ++ r).take 4 = ds := by rw [← hl, List.take_left]
  have hdrop : (ds ++ r).drop 4 = r := by rw [← hl, List.drop_left]
  have hlen := length_le_utf8Length ds
  rw [readHex, htake, hdrop, mapM_hexDigit? hx, if_neg (by omega)]

lemma skipString_escape {e : List Char} {r : List Char} (h : skipEscape e = .ok r) :
    skipString ('\\' :: e) = skipString r := by
  have hq : ('\\' : Char) ≠ '"' := by decide
  rw [skipString, if_neg hq, if_pos rfl]
  split
  next f hf => simp [h] at hf
  next s hs =>
    obtain rfl : r = s := by simpa [h] using hs
    rfl

lemma skipString_part (h : IsStringPart t) (r : List Char) : skipString (t ++ r) = skipString r := by
  cases h with
  | plain hq hb hc => rw [List.singleton_append, skipString, if_neg hq, if_neg hb, if_neg hc]
  | @short c hs =>
    obtain ⟨d, hd⟩ := Option.isSome_iff_exists.mp hs
    exact skipString_escape (by simp [skipEscape, hd])
  | @code ds hl hx =>
    have hu : simpleEscape? 'u' = none := by decide
    exact skipString_escape (by simp [skipEscape, hu, readHex_of_digits hl hx])

lemma skipString_isString {cs : List Char} (h : IsString cs) (r : List Char) :
    skipString (cs ++ r) = .ok r := by
  obtain ⟨ts, hts, rfl⟩ := h
  induction ts with
  | nil => rw [List.flatten_nil, List.nil_append, List.singleton_append, skipString, if_pos rfl]
  | cons t ts ih =>
    rw [List.flatten_cons, List.append_assoc, List.append_assoc,
      skipString_part (hts t List.mem_cons_self), ← List.append_assoc,
      ih fun u hu => hts u (List.mem_cons_of_mem _ hu)]

end Strings

section Numbers

def IsDigits (ds : List Char) : Prop := ds ≠ [] ∧ ∀ d ∈ ds, d.isDigit = true

def IsWhole (ds : List Char) : Prop := IsDigits ds ∧ (ds.head? = some '0' → ds = ['0'])

def IsFraction (cs : List Char) : Prop := cs = [] ∨ ∃ ds, IsDigits ds ∧ cs = '.' :: ds

def IsExponent (cs : List Char) : Prop :=
  cs = [] ∨ ∃ e sign ds, (e = 'e' ∨ e = 'E') ∧ (sign = [] ∨ sign = ['+'] ∨ sign = ['-']) ∧
    IsDigits ds ∧ cs = e :: (sign ++ ds)

def IsMagnitude (cs : List Char) : Prop :=
  ∃ whole fraction exponent, IsWhole whole ∧ IsFraction fraction ∧ IsExponent exponent ∧
    cs = whole ++ (fraction ++ exponent)

variable {ds cs r : List Char}

lemma IsDigits.startsWithDigit (h : IsDigits ds) (r : List Char) : startsWithDigit (ds ++ r) = true := by
  obtain ⟨d, ds, rfl⟩ := List.exists_cons_of_ne_nil h.1
  exact h.2 d List.mem_cons_self

lemma skipDigits_append (h : IsDigits ds) (hr : startsWithDigit r = false) :
    skipDigits (ds ++ r) = r := by
  rw [skipDigits, List.dropWhile_append_of_pos h.2]
  cases r with
  | nil => rfl
  | cons c r => exact List.dropWhile_cons_of_neg (by simpa [Json.startsWithDigit] using hr)

lemma Ends.cases (h : Ends r) : r = [] ∨ ∃ c s, r = c :: s ∧ c.isDigit = false ∧ c ≠ '.' ∧ c ≠ 'e' ∧
    c ≠ 'E' := by
  cases r with
  | nil => exact .inl rfl
  | cons c s =>
    refine .inr ⟨c, s, rfl, ?_⟩
    rcases h c rfl with hs | rfl | rfl | rfl
    · simp only [isSpace, Bool.or_eq_true, decide_eq_true_eq] at hs
      rcases hs with ((rfl | rfl) | rfl) | rfl <;> decide
    · decide
    · decide
    · decide

lemma startsWithDigit_ends (h : Ends r) : startsWithDigit r = false := by
  rcases h.cases with rfl | ⟨c, s, rfl, hd, _⟩
  · rfl
  · exact hd

lemma startsWithDigit_exponent (h : IsExponent cs) (hr : Ends r) :
    startsWithDigit (cs ++ r) = false := by
  rcases h with rfl | ⟨e, sign, ds, rfl | rfl, _, _, rfl⟩
  · exact startsWithDigit_ends hr
  · rfl
  · rfl

lemma exponentSign_append {sign : List Char} (hs : sign = [] ∨ sign = ['+'] ∨ sign = ['-'])
    (hd : IsDigits ds) (r : List Char) : (exponentSign (sign ++ (ds ++ r))).2 = ds ++ r := by
  rcases hs with rfl | rfl | rfl
  · obtain ⟨d, ds, rfl⟩ := List.exists_cons_of_ne_nil hd.1
    have hdigit := hd.2 d List.mem_cons_self
    rw [List.nil_append, List.cons_append, exponentSign.eq_def]
    split
    next he =>
      obtain ⟨rfl, _⟩ := List.cons.inj he
      exact absurd hdigit (by decide)
    next he =>
      obtain ⟨rfl, _⟩ := List.cons.inj he
      exact absurd hdigit (by decide)
    · rfl
  · rfl
  · rfl

lemma skipExponent?_append (h : IsExponent cs) (hr : Ends r) : skipExponent? (cs ++ r) = .ok r := by
  rcases h with rfl | ⟨e, sign, ds, he, hs, hd, rfl⟩
  · rcases hr.cases with rfl | ⟨c, s, rfl, _, _, h1, h2⟩
    · rfl
    · rw [List.nil_append, skipExponent?, if_neg (by simp [h1, h2])]
  · rw [List.cons_append, skipExponent?, if_pos he, List.append_assoc, skipExponent,
      exponentSign_append hs hd, if_pos (hd.startsWithDigit r),
      skipDigits_append hd (startsWithDigit_ends hr)]

lemma startsWithDigit_fraction {fraction : List Char} (hf : IsFraction fraction) (h : IsExponent cs)
    (hr : Ends r) : startsWithDigit (fraction ++ (cs ++ r)) = false := by
  rcases hf with rfl | ⟨ds, _, rfl⟩
  · rw [List.nil_append]
    exact startsWithDigit_exponent h hr
  · rfl

lemma head?_exponent (h : IsExponent cs) (hr : Ends r) : (cs ++ r).head? ≠ some '.' := by
  rcases h with rfl | ⟨e, sign, ds, rfl | rfl, _, _, rfl⟩
  · rcases hr.cases with rfl | ⟨c, s, rfl, _, hc, _⟩
    · simp
    · simpa using hc
  · simp
  · simp

lemma skipMagnitude_append (h : IsMagnitude cs) (hr : Ends r) : skipMagnitude (cs ++ r) = .ok r := by
  obtain ⟨whole, fraction, exponent, ⟨hw, hz⟩, hf, he, rfl⟩ := h
  have hstop := startsWithDigit_fraction hf he hr
  rw [List.append_assoc, List.append_assoc, skipMagnitude, hw.startsWithDigit,
    skipDigits_append hw hstop, Bool.not_true, if_neg Bool.false_ne_true, if_neg]
  · rcases hf with rfl | ⟨ds, hd, rfl⟩
    · split
      next s hs =>
        rw [List.nil_append] at hs
        exact absurd (congrArg List.head? hs) (head?_exponent he hr)
      · exact skipExponent?_append he hr
    · change (if startsWithDigit (ds ++ (exponent ++ r)) = true then
        skipExponent? (skipDigits (ds ++ (exponent ++ r))) else _) = _
      rw [if_pos (hd.startsWithDigit _), skipDigits_append hd (startsWithDigit_exponent he hr),
        skipExponent?_append he hr]
  · -- A zero that another digit follows is not all of its digits.
    rintro ⟨hhead, htail⟩
    obtain ⟨d, ds, rfl⟩ := List.exists_cons_of_ne_nil hw.1
    have hd := hz hhead
    rw [hd, List.singleton_append, List.tail_cons, hstop] at htail
    cases htail

end Numbers

def IsKey (k : List Char) : Prop := ∃ cs, IsString cs ∧ Padded ('"' :: cs) k

/-- Texts of JSON values, with the space around them. -/
inductive IsJson : List Char → Prop
  | word {w cs : List Char} (h : w ∈ ["null".toList, "true".toList, "false".toList])
    (hp : Padded w cs) : IsJson cs
  | number {n cs : List Char} (h : IsMagnitude n) (hp : Padded n cs ∨ Padded ('-' :: n) cs) : IsJson cs
  | string {s cs : List Char} (h : IsString s) (hp : Padded ('"' :: s) cs) : IsJson cs
  | array {ts : List (List Char)} {body cs : List Char} (h : ∀ t ∈ ts, IsJson t) (hj : Joined ts body)
    (hp : Padded ('[' :: (body ++ [']'])) cs) : IsJson cs
  | object {ms : List (List Char × List Char)} {body cs : List Char} (hk : ∀ m ∈ ms, IsKey m.1)
    (h : ∀ m ∈ ms, IsJson m.2) (hj : Joined (ms.map fun m => m.1 ++ ':' :: m.2) body)
    (hp : Padded ('{' :: (body ++ ['}'])) cs) : IsJson cs

section Texts

variable {ts : List (List Char)}

lemma length_le_commas (ts : List (List Char)) : ts.length ≤ (ts.flatMap (',' :: ·)).length := by
  induction ts with
  | nil => exact Nat.le_refl 0
  | cons t ts ih =>
    rw [List.flatMap_cons, List.length_append, List.length_cons, List.length_cons]
    omega

lemma Joined.length_le {body : List Char} (hj : Joined ts body) (h : ∀ t ∈ ts, t ≠ []) :
    ts.length ≤ body.length := by
  cases hj with
  | none _ => exact Nat.zero_le _
  | some t ts =>
    have ht := List.length_pos_iff.mpr (h t List.mem_cons_self)
    have hts := length_le_commas ts
    rw [List.length_append, List.length_cons]
    omega

lemma Joined.length_mem {body t : List Char} (hj : Joined ts body) (ht : t ∈ ts) :
    t.length ≤ body.length := by
  cases hj with
  | none _ => cases ht
  | some u us =>
    rw [List.length_append]
    rcases List.mem_cons.mp ht with rfl | ht
    · omega
    · obtain ⟨xs, ys, rfl⟩ := List.append_of_mem ht
      simp only [List.flatMap_append, List.flatMap_cons, List.length_append, List.length_cons]
      omega

lemma Begins.ne_nil {t : List Char} (h : Begins t) : t ≠ [] := by
  obtain ⟨b, c, s, _, rfl, _⟩ := h
  simp

lemma isDigit_head {n : List Char} (h : IsMagnitude n) : ∃ c s, n = c :: s ∧ c.isDigit = true := by
  obtain ⟨whole, fraction, exponent, ⟨hw, _⟩, _, _, rfl⟩ := h
  obtain ⟨d, ds, rfl⟩ := List.exists_cons_of_ne_nil hw.1
  exact ⟨d, ds ++ (fraction ++ exponent), rfl, hw.2 d List.mem_cons_self⟩

lemma IsJson.begins {cs : List Char} (h : IsJson cs) : Begins cs := by
  cases h with
  | word h hp =>
    simp only [List.mem_cons, List.not_mem_nil, or_false] at h
    rcases h with rfl | rfl | rfl
    · exact begins_of_padded hp (by decide) (by decide) (by decide)
    · exact begins_of_padded hp (by decide) (by decide) (by decide)
    · exact begins_of_padded hp (by decide) (by decide) (by decide)
  | number h hp =>
    obtain ⟨c, s, rfl, hc⟩ := isDigit_head h
    rcases hp with hp | hp
    · exact begins_of_padded hp (not_isSpace_of_isDigit hc) (ne_of_isDigit hc rfl)
        (ne_of_isDigit hc rfl)
    · exact begins_of_padded hp (by decide) (by decide) (by decide)
  | string _ hp => exact begins_of_padded hp (by decide) (by decide) (by decide)
  | array _ _ hp => exact begins_of_padded hp (by decide) (by decide) (by decide)
  | object _ _ _ hp => exact begins_of_padded hp (by decide) (by decide) (by decide)

lemma IsKey.begins {k : List Char} (h : IsKey k) (t : List Char) : Begins (k ++ t) := by
  obtain ⟨cs, _, b, d, hb, _, rfl⟩ := h
  refine ⟨b, '"', cs ++ (d ++ t), hb, ?_, by decide, by decide, by decide⟩
  simp

lemma length_of_padded {word cs : List Char} (h : Padded word cs) : word.length ≤ cs.length := by
  obtain ⟨b, d, _, _, rfl⟩ := h
  simp only [List.length_append]
  omega

end Texts

end LayoutSync.Json
