import LayoutSync.Proofs.Json.Numbers
import LayoutSync.Proofs.Json.Strings

/-!
Values are read as they are written, if brackets do not nest too deep, keys are not repeated and
numbers read back. All but the last holds of every value that was read.
-/

namespace LayoutSync.Json

namespace Value

inductive AllNumbers (P : Number → Prop) : Value → Prop
  | null : AllNumbers P .null
  | bool (b : Bool) : AllNumbers P (.bool b)
  | string (s : String) : AllNumbers P (.string s)
  | number {n : Number} (h : P n) : AllNumbers P (.number n)
  | array {vs : List Value} (h : ∀ v ∈ vs, AllNumbers P v) : AllNumbers P (.array vs)
  | object {ms : List (String × Value)} (h : ∀ m ∈ ms, AllNumbers P m.2) : AllNumbers P (.object ms)

/-- A value in which brackets nest `room` deep, no key is repeated and numbers have the property. -/
inductive Fits (P : Number → Prop) : Nat → Value → Prop
  | null (room : Nat) : Fits P room .null
  | bool (room : Nat) (b : Bool) : Fits P room (.bool b)
  | string (room : Nat) (s : String) : Fits P room (.string s)
  | number (room : Nat) {n : Number} (h : P n) : Fits P room (.number n)
  | array {room : Nat} {vs : List Value} (h : ∀ v ∈ vs, Fits P room v) : Fits P (room + 1) (.array vs)
  | object {room : Nat} {ms : List (String × Value)} (hk : (Assoc.keys ms).Nodup)
      (h : ∀ m ∈ ms, Fits P room m.2) : Fits P (room + 1) (.object ms)

lemma Fits.strengthen {P Q R : Number → Prop} {room : Nat} {v : Value} (h : v.Fits P room)
    (hq : v.AllNumbers Q) (hr : ∀ n, P n → Q n → R n) : v.Fits R room := by
  induction h with
  | null room => exact .null room
  | bool room b => exact .bool room b
  | string room s => exact .string room s
  | number room hp =>
    cases hq with
    | number hq => exact .number room (hr _ hp hq)
  | array _ ih =>
    cases hq with
    | array hq => exact .array fun v hv => ih v hv (hq v hv)
  | object hk _ ih =>
    cases hq with
    | object hq => exact .object hk fun m hm => ih m hm (hq m hm)

lemma Fits.allNumbers {P : Number → Prop} {room : Nat} {v : Value} (h : v.Fits P room) :
    v.AllNumbers P := by
  induction h with
  | null => exact .null
  | bool _ b => exact .bool b
  | string _ s => exact .string s
  | number _ h => exact .number h
  | array _ ih => exact .array ih
  | object _ _ ih => exact .object ih

end Value

section Space

lemma skipSpace_lineStart (depth : Nat) (cs : List Char) :
    skipSpace (lineStart depth ++ cs) = skipSpace cs := by
  unfold skipSpace
  rw [List.dropWhile_append_of_pos]
  intro c hc
  rcases List.mem_cons.mp hc with rfl | hc
  · rfl
  · obtain rfl := (List.mem_replicate.mp hc).2
    rfl

lemma skipSpace_of_not_isSpace {c : Char} (h : isSpace c = false) (cs : List Char) :
    skipSpace (c :: cs) = c :: cs := by
  simp [skipSpace, h]

lemma readValue_congr {room : Nat} {cs ds : List Char} (h : skipSpace cs = skipSpace ds) :
    readValue room cs = readValue room ds := by
  rw [readValue.eq_def, readValue.eq_def room ds, h]

lemma readValue_scalar {c : Char} (hs : isSpace c = false) (ha : c ≠ '[') (ho : c ≠ '{')
    (room : Nat) (cs : List Char) : readValue room (c :: cs) = readScalar (c :: cs) := by
  rw [readValue.eq_def, skipSpace_of_not_isSpace hs]
  split
  next he => exact absurd (List.cons.inj he).1 ha
  next he => exact absurd (List.cons.inj he).1 ho
  next he => exact absurd (List.cons.inj he).1 ha
  next he => exact absurd (List.cons.inj he).1 ho
  · rfl

lemma readValue_array (room : Nat) (cs : List Char) :
    readValue (room + 1) ('[' :: cs) =
      (do let (vs, r) ← readArray (readValue room) cs; return (.array vs, r)) := rfl

lemma readValue_object (room : Nat) (cs : List Char) :
    readValue (room + 1) ('{' :: cs) =
      (do
        let (ms, r) ← readMembers (readMember (readValue room)) (cs.length + 1) true [] cs
        return (.object ms, r)) := rfl

lemma followsValue_lineStart (depth : Nat) (cs : List Char) : FollowsValue (lineStart depth ++ cs) :=
  ⟨_, .inr rfl⟩

end Space

section Print

lemma ne_of_isDigit {c d : Char} (h : c.isDigit = true) (hd : d.isDigit = false) : c ≠ d := by
  rintro rfl
  rw [h] at hd
  cases hd

lemma not_isSpace_of_isDigit {c : Char} (h : c.isDigit = true) : isSpace c = false := by
  simp only [isSpace, Bool.or_eq_false_iff, decide_eq_false_iff_not]
  exact ⟨⟨⟨ne_of_isDigit h rfl, ne_of_isDigit h rfl⟩, ne_of_isDigit h rfl⟩, ne_of_isDigit h rfl⟩

lemma readScalar_head {cs r : List Char} {v : Value} (h : readScalar cs = .ok (v, r)) :
    ∃ c s, cs = c :: s ∧ isSpace c = false ∧ c ≠ ']' ∧ c ≠ '[' ∧ c ≠ '{' := by
  unfold readScalar at h
  split at h
  · exact ⟨_, _, rfl, by decide, by decide, by decide, by decide⟩
  · exact ⟨_, _, rfl, by decide, by decide, by decide, by decide⟩
  · exact ⟨_, _, rfl, by decide, by decide, by decide, by decide⟩
  · exact ⟨_, _, rfl, by decide, by decide, by decide, by decide⟩
  · exact ⟨_, _, rfl, by decide, by decide, by decide, by decide⟩
  · split at h
    next hd =>
      cases cs with
      | nil => cases hd
      | cons c s =>
        have hc : c.isDigit = true := hd
        exact ⟨c, s, rfl, not_isSpace_of_isDigit hc, ne_of_isDigit hc rfl, ne_of_isDigit hc rfl,
          ne_of_isDigit hc rfl⟩
    · cases h

lemma printNumber_head {n : Number} (h : n.ReadsBack) :
    ∃ c s, printNumber n = c :: s ∧ isSpace c = false ∧ c ≠ ']' ∧ c ≠ '[' ∧ c ≠ '{' := by
  obtain ⟨c, s, hc, h1, h2⟩ := readScalar_head (h [','] ⟨[], .inl rfl⟩)
  cases hp : printNumber n with
  | cons d ds =>
    rw [hp, List.cons_append] at hc
    obtain ⟨rfl, _⟩ := List.cons.inj hc
    exact ⟨d, ds, rfl, h1, h2⟩
  | nil =>
    have := h [','] ⟨[], .inl rfl⟩
    rw [hp] at this
    cases this

lemma print_head {room : Nat} {v : Value} (h : v.Fits Number.ReadsBack room) (depth : Nat) :
    ∃ c s, v.print depth = c :: s ∧ isSpace c = false ∧ c ≠ ']' := by
  cases h with
  | null => exact ⟨_, _, by rw [Value.print]; rfl, by decide, by decide⟩
  | bool _ b => cases b <;> exact ⟨_, _, by rw [Value.print]; rfl, by decide, by decide⟩
  | string _ s =>
    exact ⟨_, _, by rw [Value.print, printString]; rfl, by decide, by decide⟩
  | number _ hn =>
    obtain ⟨c, s, hc, h1, h2, _⟩ := printNumber_head hn
    exact ⟨c, s, by rw [Value.print, hc], h1, h2⟩
  | @array _ vs _ =>
    cases vs with
    | nil => exact ⟨_, _, by rw [Value.print]; rfl, by decide, by decide⟩
    | cons v vs => exact ⟨_, _, by rw [Value.print]; rfl, by decide, by decide⟩
  | @object _ ms _ _ =>
    cases ms with
    | nil => exact ⟨_, _, by rw [Value.print]; rfl, by decide, by decide⟩
    | cons m ms => exact ⟨_, _, by rw [Value.print]; rfl, by decide, by decide⟩

end Print

def Value.Reads (room : Nat) (v : Value) : Prop :=
  ∀ depth r, FollowsValue r → readValue room (v.print depth ++ r) = .ok (v, r)

section Items

variable {room : Nat}

lemma followsValue_items (depth d : Nat) (vs : List Value) (r : List Char) :
    FollowsValue (printItems depth vs ++ (lineStart d ++ r)) := by
  cases vs with
  | nil => exact followsValue_lineStart d r
  | cons v vs => exact ⟨_, .inl rfl⟩

lemma length_printItems (depth : Nat) (vs : List Value) :
    vs.length ≤ (printItems depth vs).length := by
  induction vs with
  | nil => exact Nat.zero_le _
  | cons v vs ih =>
    simp only [printItems, List.length_cons, List.length_append]
    omega

lemma readItems_print (depth d : Nat) (r : List Char) (vs : List Value)
    (hf : ∀ v ∈ vs, v.Fits Number.ReadsBack room) (h : ∀ v ∈ vs, v.Reads room) (fuel : Nat)
    (hl : vs.length < fuel) :
    readItems (readValue room) fuel false (printItems depth vs ++ (lineStart d ++ ']' :: r)) =
      .ok (vs, lineStart d ++ ']' :: r) := by
  induction vs generalizing fuel with
  | nil =>
    obtain ⟨fuel, rfl⟩ := Nat.exists_eq_add_of_lt hl
    have hn : nextItem? false (lineStart d ++ ']' :: r) = .ok none := by
      rw [nextItem?, skipSpace_lineStart, skipSpace_of_not_isSpace rfl]
      rfl
    rw [printItems, List.nil_append, readItems, hn]
    rfl
  | cons v vs ih =>
    cases fuel with
    | zero => exact absurd hl (by omega)
    | succ fuel =>
      obtain ⟨c, s, hc, hs, hb⟩ := print_head (hf v (by simp)) depth
      have hr := h v (by simp) depth _ (followsValue_items depth d vs (']' :: r))
      have hi := ih (fun w hw => hf w (by simp [hw])) (fun w hw => h w (by simp [hw]))
        fuel (by simpa using hl)
      rw [hc, List.cons_append] at hr
      have hn : nextItem? false (',' :: (lineStart depth ++
          (c :: (s ++ (printItems depth vs ++ (lineStart d ++ ']' :: r)))))) =
            .ok (some (c :: (s ++ (printItems depth vs ++ (lineStart d ++ ']' :: r))))) := by
        rw [nextItem?, skipSpace_of_not_isSpace rfl]
        dsimp only
        rw [skipSpace_lineStart, skipSpace_of_not_isSpace hs]
        simp [hb]
      rw [printItems, hc]
      simp only [List.cons_append, List.append_assoc]
      rw [readItems, hn]
      simp only [ok_bind, hr, hi]
      rfl

end Items

section Members

variable {room : Nat}

lemma followsValue_members (depth d : Nat) (ms : List (String × Value)) (r : List Char) :
    FollowsValue (printMembers depth ms ++ (lineStart d ++ r)) := by
  cases ms with
  | nil => exact followsValue_lineStart d r
  | cons m ms => exact ⟨_, .inl rfl⟩

lemma length_printMembers (depth : Nat) (ms : List (String × Value)) :
    ms.length ≤ (printMembers depth ms).length := by
  induction ms with
  | nil => exact Nat.zero_le _
  | cons m ms ih =>
    obtain ⟨k, v⟩ := m
    simp only [printMembers, List.length_cons, List.length_append]
    omega

lemma key_printString (k : String) (r : List Char) :
    nextKey?.key ((k.toList.flatMap escapeChar ++ ['"']) ++ r) = .ok (some (k, r)) := by
  rw [List.append_assoc, List.singleton_append, nextKey?.key, readString_escaped]
  simp only [ok_bind, pure_eq_ok, String.ofList_toList]

lemma nextKey?_first (depth : Nat) (k : String) (r : List Char) :
    nextKey? true (lineStart depth ++ (printString k ++ r)) = .ok (some (k, r)) := by
  rw [nextKey?, skipSpace_lineStart, printString, List.cons_append, List.cons_append,
    skipSpace_of_not_isSpace rfl]
  exact key_printString k r

lemma nextKey?_next (depth : Nat) (k : String) (r : List Char) :
    nextKey? false (',' :: (lineStart depth ++ (printString k ++ r))) = .ok (some (k, r)) := by
  rw [nextKey?, skipSpace_of_not_isSpace rfl]
  dsimp only
  rw [skipSpace_lineStart, printString, List.cons_append, List.cons_append,
    skipSpace_of_not_isSpace rfl]
  exact key_printString k r

lemma readMember_print {v : Value} (h : v.Reads room) (ms : List (String × Value)) (k : String)
    (depth : Nat) {r : List Char} (hr : FollowsValue r) :
    readMember (readValue room) ms k (": ".toList ++ (v.print depth ++ r)) =
      .ok (Assoc.put k v ms, r) := by
  have hv : readValue room (' ' :: (v.print depth ++ r)) = .ok (v, r) := by
    rw [← h depth r hr]
    exact readValue_congr rfl
  have hc : readColon (": ".toList ++ (v.print depth ++ r)) = .ok (' ' :: (v.print depth ++ r)) :=
    rfl
  rw [readMember, hc]
  simp only [ok_bind, hv]
  rfl

lemma readMembers_print (depth d : Nat) (r : List Char) (ms ns : List (String × Value))
    (hk : (Assoc.keys (ms ++ ns)).Nodup) (h : ∀ m ∈ ns, m.2.Reads room) (fuel : Nat)
    (hl : ns.length < fuel) :
    readMembers (readMember (readValue room)) fuel false ms
        (printMembers depth ns ++ (lineStart d ++ '}' :: r)) = .ok (ms ++ ns, r) := by
  -- The members read so far stand in front, and the keys that follow are new to them.
  induction ns generalizing ms fuel with
  | nil =>
    obtain ⟨fuel, rfl⟩ := Nat.exists_eq_add_of_lt hl
    have hn : nextKey? false (lineStart d ++ '}' :: r) = .ok none := by
      rw [nextKey?, skipSpace_lineStart, skipSpace_of_not_isSpace rfl]
      rfl
    have hp : passBracket '}' (lineStart d ++ '}' :: r) = r := by
      rw [passBracket, skipSpace_lineStart, skipSpace_of_not_isSpace rfl]
      rfl
    rw [printMembers, List.nil_append, readMembers, hn, List.append_nil]
    simp only [ok_bind, hp]
    rfl
  | cons m ns ih =>
    obtain ⟨k, v⟩ := m
    cases fuel with
    | zero => exact absurd hl (by omega)
    | succ fuel =>
      have hm : k ∉ Assoc.keys ms := by
        intro hk'
        simp only [Assoc.keys, List.map_append, List.map_cons, List.nodup_append] at hk
        exact hk.2.2 k hk' k (by simp) rfl
      have hput : Assoc.put k v ms = ms ++ [(k, v)] := Assoc.put_of_not_mem hm
      have hr := readMember_print (h (k, v) (by simp)) ms k depth
        (followsValue_members depth d ns ('}' :: r))
      have hi := ih (ms ++ [(k, v)]) (by simpa using hk) (fun w hw => h w (by simp [hw])) fuel
        (by simpa using hl)
      have hn := nextKey?_next depth k (": ".toList ++
        (v.print depth ++ (printMembers depth ns ++ (lineStart d ++ '}' :: r))))
      rw [printMembers]
      simp only [List.cons_append, List.append_assoc]
      rw [readMembers, hn]
      simp only [ok_bind, hr, hput, hi, List.append_assoc, List.singleton_append]

end Members

section Brackets

variable {room : Nat}

lemma reads_array {vs : List Value} (hf : ∀ v ∈ vs, v.Fits Number.ReadsBack room)
    (h : ∀ v ∈ vs, v.Reads room) : (Value.array vs).Reads (room + 1) := by
  intro depth r _
  cases vs with
  | nil =>
    rw [Value.print]
    rfl
  | cons v vs =>
    obtain ⟨c, s, hc, hs, hb⟩ := print_head (hf v (by simp)) (depth + 1)
    have hr := h v (by simp) (depth + 1) _ (followsValue_items (depth + 1) depth vs (']' :: r))
    have hl := length_printItems (depth + 1) vs
    have hi := readItems_print (depth + 1) depth r vs (fun w hw => hf w (by simp [hw]))
      (fun w hw => h w (by simp [hw]))
      ((lineStart (depth + 1) ++ (v.print (depth + 1) ++
        (printItems (depth + 1) vs ++ (lineStart depth ++ ']' :: r)))).length)
      (by
        simp only [List.length_append, List.length_cons, lineStart]
        omega)
    have hn : nextItem? true (lineStart (depth + 1) ++ (c :: (s ++
        (printItems (depth + 1) vs ++ (lineStart depth ++ ']' :: r))))) =
          .ok (some (c :: (s ++ (printItems (depth + 1) vs ++ (lineStart depth ++ ']' :: r))))) := by
      rw [nextItem?, skipSpace_lineStart, skipSpace_of_not_isSpace hs]
      simp [hb]
    have he : endArray (lineStart depth ++ ']' :: r) = .ok r := by
      rw [endArray, skipSpace_lineStart, skipSpace_of_not_isSpace rfl]
      rfl
    rw [Value.print]
    simp only [List.cons_append, List.append_assoc, List.nil_append]
    rw [readValue_array, readArray, readItems]
    rw [hc, List.cons_append] at hi hr ⊢
    simp only [ok_bind, hn, hr, hi, he, pure_eq_ok]

lemma reads_object {ms : List (String × Value)} (hk : (Assoc.keys ms).Nodup)
    (h : ∀ m ∈ ms, m.2.Reads room) : (Value.object ms).Reads (room + 1) := by
  intro depth r _
  cases ms with
  | nil =>
    rw [Value.print]
    rfl
  | cons m ms =>
    obtain ⟨k, v⟩ := m
    have hr := readMember_print (h (k, v) (by simp)) [] k (depth + 1)
      (followsValue_members (depth + 1) depth ms ('}' :: r))
    have hl := length_printMembers (depth + 1) ms
    have hi := readMembers_print (depth + 1) depth r [(k, v)] ms hk
      (fun w hw => h w (by simp [hw]))
      ((lineStart (depth + 1) ++ (printString k ++ (": ".toList ++ (v.print (depth + 1) ++
        (printMembers (depth + 1) ms ++ (lineStart depth ++ '}' :: r)))))).length)
      (by
        simp only [List.length_append, List.length_cons, lineStart]
        omega)
    have hn := nextKey?_first (depth + 1) k (": ".toList ++
      (v.print (depth + 1) ++ (printMembers (depth + 1) ms ++ (lineStart depth ++ '}' :: r))))
    rw [Value.print]
    simp only [List.cons_append, List.append_assoc, List.nil_append]
    rw [readValue_object, readMembers, hn]
    simp only [ok_bind, hr, Assoc.put, hi]
    rfl

end Brackets

lemma reads_of_fits {room : Nat} {v : Value} (h : v.Fits Number.ReadsBack room) : v.Reads room := by
  induction h with
  | null room =>
    intro depth r _
    rw [Value.print]
    exact readValue_scalar rfl (by decide) (by decide) room _
  | bool room b =>
    intro depth r _
    cases b
    · rw [Value.print]
      exact readValue_scalar rfl (by decide) (by decide) room _
    · rw [Value.print]
      exact readValue_scalar rfl (by decide) (by decide) room _
  | string room s =>
    intro depth r _
    have hs := readString_escaped s.toList r
    rw [Value.print, printString, List.cons_append, List.cons_append, List.append_assoc,
      List.singleton_append, readValue_scalar rfl (by decide) (by decide), readScalar, hs]
    simp only [ok_bind, String.ofList_toList]
    rfl
  | number room hn =>
    intro depth r hr
    obtain ⟨c, s, hc, h1, _, h3, h4⟩ := printNumber_head hn
    have hv := hn r hr
    rw [Value.print]
    rw [hc, List.cons_append] at hv ⊢
    rw [readValue_scalar h1 h3 h4, hv]
  | array hf ih => exact reads_array hf ih
  | object hk _ ih => exact reads_object hk ih

lemma parse_printFile {v : Value} (h : v.Fits Number.ReadsBack maxDepth) :
    Value.parse v.printFile = .ok v := by
  have hr := reads_of_fits h 0 ['\n'] ⟨[], .inr rfl⟩
  rw [Value.parse, Value.printFile, String.toList_ofList, hr]
  rfl

section Reading

variable {room : Nat} {cs r : List Char}

lemma fits_of_readScalar {v : Value} (h : readScalar cs = .ok (v, r)) :
    v.Fits Number.InRange room := by
  have hn : ∀ negative cs, (do
      let p ← readMagnitude negative cs
      return (Value.number p.1, p.2)) = .ok (v, r) → v.Fits Number.InRange room := by
    intro negative cs h
    obtain ⟨⟨n, s⟩, hm, h⟩ := bind_eq_ok.mp h
    obtain rfl := (Prod.mk.inj (Except.ok.inj h)).1
    exact .number room (inRange_of_readMagnitude hm)
  have hw : ∀ (w : Value) (es cs : List Char), w.Fits Number.InRange room →
      (do return (w, ← readWord es cs)) = .ok (v, r) → v.Fits Number.InRange room := by
    intro w es cs hw h
    obtain ⟨s, _, h⟩ := bind_eq_ok.mp h
    exact (Prod.mk.inj (Except.ok.inj h)).1 ▸ hw
  unfold readScalar at h
  split at h
  · exact hw _ _ _ (.null room) h
  · exact hw _ _ _ (.bool room true) h
  · exact hw _ _ _ (.bool room false) h
  · exact hn _ _ h
  · obtain ⟨⟨s, _⟩, _, h⟩ := bind_eq_ok.mp h
    exact (Prod.mk.inj (Except.ok.inj h)).1 ▸ .string room _
  · split at h
    · exact hn _ _ h
    · cases h

lemma all_of_readItems {α : Type} {P : α → Prop} {item : List Char → Except Fault (α × List Char)}
    (hi : ∀ cs a r, item cs = .ok (a, r) → P a) {fuel : Nat} {first : Bool} {as : List α}
    (h : readItems item fuel first cs = .ok (as, r)) : ∀ a ∈ as, P a := by
  induction fuel generalizing first cs as r with
  | zero => cases h
  | succ fuel ih =>
    rw [readItems] at h
    obtain ⟨o, hn, h⟩ := bind_eq_ok.mp h
    cases o with
    | none =>
      obtain rfl := (Prod.mk.inj (Except.ok.inj h)).1
      simp
    | some ds =>
      obtain ⟨⟨b, ds⟩, hb, h⟩ := bind_eq_ok.mp h
      obtain ⟨⟨bs, ds⟩, hbs, h⟩ := bind_eq_ok.mp h
      obtain rfl := (Prod.mk.inj (Except.ok.inj h)).1
      exact List.forall_mem_cons.mpr ⟨hi _ _ _ hb, ih hbs⟩

lemma invariant_of_readMembers {σ : Type} {P : σ → Prop}
    {member : σ → String → List Char → Except Fault (σ × List Char)}
    (hm : ∀ s k cs t r, P s → member s k cs = .ok (t, r) → P t) {fuel : Nat} {first : Bool} {s t : σ}
    (hs : P s) (h : readMembers member fuel first s cs = .ok (t, r)) : P t := by
  induction fuel generalizing first cs s with
  | zero => cases h
  | succ fuel ih =>
    rw [readMembers] at h
    obtain ⟨o, hn, h⟩ := bind_eq_ok.mp h
    cases o with
    | none => exact (Prod.mk.inj (Except.ok.inj h)).1 ▸ hs
    | some p =>
      obtain ⟨⟨u, ds⟩, hu, h⟩ := bind_eq_ok.mp h
      exact ih (hm _ _ _ _ _ hs hu) h

lemma forall_put {α : Type} {P : α → Prop} {k : String} {v : α} {ms : List (String × α)}
    (h : ∀ m ∈ ms, P m.2) (hv : P v) : ∀ m ∈ Assoc.put k v ms, P m.2 := by
  induction ms with
  | nil => simpa [Assoc.put] using hv
  | cons m ms ih =>
    rw [Assoc.put]
    split
    · intro n hn
      rcases List.mem_cons.mp hn with rfl | hn
      · exact hv
      · exact h n (by simp [hn])
    · intro n hn
      rcases List.mem_cons.mp hn with hn | hn
      · exact hn ▸ h m (by simp)
      · exact ih (fun m hm => h m (by simp [hm])) n hn

lemma Value.Fits.put {P : Number → Prop} {ms : List (String × Value)}
    (h : (Value.object ms).Fits P (room + 1)) (k : String) {v : Value} (hv : v.Fits P room) :
    (Value.object (Assoc.put k v ms)).Fits P (room + 1) := by
  cases h with
  | object hk hm => exact .object (Assoc.nodup_keys_put k v hk) (forall_put hm hv)

lemma all_of_readArray {α : Type} {P : α → Prop} {item : List Char → Except Fault (α × List Char)}
    (hi : ∀ cs a r, item cs = .ok (a, r) → P a) {as : List α}
    (h : readArray item cs = .ok (as, r)) : ∀ a ∈ as, P a := by
  obtain ⟨⟨bs, s⟩, hr, h⟩ := bind_eq_ok.mp h
  obtain ⟨_, _, h⟩ := bind_eq_ok.mp h
  obtain rfl := (Prod.mk.inj (Except.ok.inj h)).1
  exact all_of_readItems hi hr

lemma fits_of_readMember {P : Number → Prop} {value : List Char → Except Fault (Value × List Char)}
    (hv : ∀ cs v r, value cs = .ok (v, r) → v.Fits P room) {ms ms' : List (String × Value)}
    {k : String} (hs : (Value.object ms).Fits P (room + 1))
    (h : readMember value ms k cs = .ok (ms', r)) : (Value.object ms').Fits P (room + 1) := by
  obtain ⟨ds, _, h⟩ := bind_eq_ok.mp h
  obtain ⟨⟨v, s⟩, hr, h⟩ := bind_eq_ok.mp h
  obtain rfl := (Prod.mk.inj (Except.ok.inj h)).1
  exact hs.put k (hv ds v s hr)

lemma fits_of_readValue {v : Value} (h : readValue room cs = .ok (v, r)) :
    v.Fits Number.InRange room := by
  -- Every bracket takes away from the room that is left for the values in it.
  induction room generalizing cs v r with
  | zero =>
    rw [readValue.eq_def] at h
    split at h
    · cases h
    · cases h
    next hr => cases hr
    next hr => cases hr
    · exact fits_of_readScalar h
  | succ room ih =>
    rw [readValue.eq_def] at h
    split at h
    next hr => cases hr
    next hr => cases hr
    next s n _ hr =>
      obtain rfl : room = n := Nat.succ.inj hr
      obtain ⟨⟨vs, _⟩, ha, h⟩ := bind_eq_ok.mp h
      obtain rfl := (Prod.mk.inj (Except.ok.inj h)).1
      exact .array (all_of_readArray (fun _ _ _ => ih) ha)
    next s n _ hr =>
      obtain rfl : room = n := Nat.succ.inj hr
      obtain ⟨⟨ms, _⟩, hm, h⟩ := bind_eq_ok.mp h
      obtain rfl := (Prod.mk.inj (Except.ok.inj h)).1
      have he : (Value.object []).Fits Number.InRange (room + 1) := .object List.nodup_nil (by simp)
      exact invariant_of_readMembers
        (P := fun ms => (Value.object ms).Fits Number.InRange (room + 1))
        (fun ms k cs ms' r hs hm => fits_of_readMember (fun _ _ _ => ih) hs hm) he hm
    · exact fits_of_readScalar h

lemma fits_of_parse {source : String} {v : Value} (h : Value.parse source = .ok v) :
    v.Fits Number.InRange maxDepth := by
  obtain ⟨⟨w, _⟩, hr, h⟩ := bind_eq_ok.mp h
  obtain ⟨_, _, h⟩ := bind_eq_ok.mp h
  obtain rfl := Except.ok.inj h
  exact fits_of_readValue hr

end Reading

end LayoutSync.Json
