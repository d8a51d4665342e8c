import LayoutSync.Proofs.Json.Spelling

namespace LayoutSync.Json

section Strings

lemma isCode_digits {a b : Nat} (ha : a < 16) (hb : b < 16) :
    IsCode (16 * a + b) ['0', '0', Nat.digitChar a, Nat.digitChar b] := by
  obtain ⟨ha, -⟩ := digitChar_hex a ha
  obtain ⟨hb, -⟩ := digitChar_hex b hb
  have hz : Text.hexDigit? '0' = some 0 := (digitChar_hex 0 (by decide)).1
  refine ⟨rfl, by simp [ha, hb, hz], by simp [ha, hb, hz]⟩

lemma isCode_control {n : Nat} (h : n < 0x20) :
    IsCode n ['0', '0', Nat.digitChar (n / 16), Nat.digitChar (n % 16)] := by
  have hcode := isCode_digits (by omega : n / 16 < 16) (by omega : n % 16 < 16)
  rwa [Nat.div_add_mod] at hcode

lemma spellsChar_escapeChar (c : Char) : SpellsChar c (escapeChar c) := by
  by_cases hn : c ∈ named
  · obtain ⟨d, he, hd⟩ := escapeChar_of_named c hn
    rw [he]
    exact .short hd
  · have hq : c ≠ '"' := fun h => hn (h ▸ by decide)
    have hb : c ≠ '\\' := fun h => hn (h ▸ by decide)
    have hcode : c.toNat < 0x20 → SpellsChar c ['\\', 'u', '0', '0', Nat.digitChar (c.toNat / 16),
        Nat.digitChar (c.toNat % 16)] := by
      intro hc
      have hspells := SpellsChar.code (isCode_control hc) (.inl (by omega))
      rwa [Char.ofNat_toNat] at hspells
    rw [escapeChar_of_not_named hn]
    split
    next hs =>
      have hshort := hcode (by omega)
      rw [Nat.div_eq_of_lt hs] at hshort
      rw [hexDigits_short hs]
      exact hshort
    next hs =>
      split
      next hc =>
        rw [hexDigits_long hc hs]
        exact hcode hc
      next hc => exact .plain hq hb hc

lemma spellsString_print (s : String) : SpellsString s (s.toList.flatMap escapeChar ++ ['"']) := by
  refine ⟨s.toList.map escapeChar, ?_, by rw [List.flatMap_def]⟩
  rw [List.forall₂_map_right_iff, List.forall₂_same]
  exact fun c _ => spellsChar_escapeChar c

end Strings

section Values

variable {v : Value} {word b d t u body : List Char} {ts : List (List Char)}

lemma blank_append (hb : Blank b) (hd : Blank d) : Blank (b ++ d) := by
  intro c hc
  exact (List.mem_append.mp hc).elim (hb c) (hd c)

lemma blank_lineStart (depth : Nat) : Blank (lineStart depth) := by
  intro c hc
  rcases List.mem_cons.mp hc with rfl | hc
  · rfl
  · obtain rfl := (List.mem_replicate.mp hc).2
    rfl

lemma blank_space : Blank [' '] := by
  intro c hc
  obtain rfl := List.mem_singleton.mp hc
  rfl

lemma padded_self (word : List Char) : Padded word word :=
  ⟨[], [], blank_nil, blank_nil, by rw [List.nil_append, List.append_nil]⟩

lemma Padded.pad (h : Padded word t) (hb : Blank b) (hd : Blank d) : Padded word (b ++ (t ++ d)) := by
  obtain ⟨x, y, hx, hy, rfl⟩ := h
  exact ⟨b ++ x, y ++ d, blank_append hb hx, blank_append hy hd, by simp only [List.append_assoc]⟩

lemma Spells.pad (h : Spells v t) (hb : Blank b) (hd : Blank d) : Spells v (b ++ (t ++ d)) := by
  cases h with
  | null hp => exact .null (hp.pad hb hd)
  | bool hp => exact .bool (hp.pad hb hd)
  | number hp => exact .number (hp.pad hb hd)
  | string h hp => exact .string h (hp.pad hb hd)
  | array h hj hp => exact .array h hj (hp.pad hb hd)
  | object hk hn h hj hp => exact .object hk hn h hj (hp.pad hb hd)

lemma Joined.cons (t : List Char) (h : Joined (u :: ts) body) :
    Joined (t :: u :: ts) (t ++ ',' :: body) := by
  cases h with
  | some => exact .some t (u :: ts)

def printedMember (depth : Nat) (k : String) (value : List Char) : MemberText :=
  ⟨k, lineStart depth ++ printString k, ' ' :: value⟩

lemma text_printedMember (depth : Nat) (k : String) (value : List Char) :
    (printedMember depth k value).text =
      lineStart depth ++ (printString k ++ (": ".toList ++ value)) :=
  List.append_assoc _ _ _

lemma keyed_printedMember (depth : Nat) (k : String) (value : List Char) :
    (printedMember depth k value).Keyed := by
  have hp := (padded_self (printString k)).pad (blank_lineStart depth) blank_nil
  rw [List.append_nil] at hp
  exact ⟨_, spellsString_print k, hp⟩

end Values

mutual

theorem spells_print (depth : Nat) : (v : Value) → Spells v (v.print depth)
  | .null => .null (padded_self _)
  | .bool b => by
    rw [Value.print]
    exact .bool (padded_self _)
  | .number n => .number (padded_self _)
  | .string s => .string (spellsString_print s) (padded_self _)
  | .array [] => .array .nil (.none blank_nil) (padded_self _)
  | .array (v :: vs) => by
    have hv := (spells_print (depth + 1) v).pad (blank_lineStart (depth + 1)) blank_nil
    obtain ⟨t, ts, h, hj⟩ := spells_printItems (depth + 1) depth hv vs
    refine .array h hj ?_
    rw [Value.print]
    simp only [List.append_assoc, List.cons_append, List.nil_append]
    exact padded_self _
  | .object [] => by
    have hk : ∀ m ∈ ([] : List MemberText), m.Keyed := List.forall_mem_nil _
    exact .object hk rfl .nil (.none blank_nil) (padded_self _)
  | .object ((k, v) :: vs) => by
    have hv := (spells_print (depth + 1) v).pad blank_space blank_nil
    rw [List.append_nil] at hv
    have hk := keyed_printedMember (depth + 1) k (v.print (depth + 1))
    obtain ⟨m, ms, hks, hn, h, hj⟩ := spells_printMembers (depth + 1) depth hk hv vs
    refine .object hks hn h hj ?_
    rw [Value.print]
    simp only [text_printedMember, List.append_assoc, List.cons_append]
    exact padded_self _

theorem spells_printItems (depth d : Nat) {v : Value} {t : List Char} (h : Spells v t) :
    (vs : List Value) → ∃ u ts, List.Forall₂ Spells (v :: vs) (u :: ts) ∧
      Joined (u :: ts) (t ++ (printItems depth vs ++ lineStart d))
  | [] => by
    have hlast := h.pad blank_nil (blank_lineStart d)
    refine ⟨_, [], .cons hlast .nil, ?_⟩
    rw [printItems]
    simpa using Joined.some (t ++ lineStart d) []
  | w :: vs => by
    have hw := (spells_print depth w).pad (blank_lineStart depth) blank_nil
    obtain ⟨u, ts, hs, hj⟩ := spells_printItems depth d hw vs
    refine ⟨t, u :: ts, .cons h hs, ?_⟩
    rw [printItems]
    simpa using hj.cons t

theorem spells_printMembers (depth d : Nat) {v : Value} {m : MemberText} (hk : m.Keyed)
    (h : Spells v m.value) : (vs : List (String × Value)) → ∃ n ms, (∀ l ∈ n :: ms, l.Keyed) ∧
      (n :: ms).map MemberText.name = m.name :: vs.map Prod.fst ∧
      List.Forall₂ Spells (v :: vs.map Prod.snd) ((n :: ms).map MemberText.value) ∧
      Joined ((n :: ms).map MemberText.text) (m.text ++ (printMembers depth vs ++ lineStart d))
  | [] => by
    have hlast := h.pad blank_nil (blank_lineStart d)
    refine ⟨⟨m.name, m.key, m.value ++ lineStart d⟩, [], ?_, rfl, .cons hlast .nil, ?_⟩
    · intro l hl
      obtain rfl := List.mem_singleton.mp hl
      exact hk
    · rw [printMembers]
      simpa [MemberText.text] using Joined.some (m.key ++ ':' :: (m.value ++ lineStart d)) []
  | (k, w) :: vs => by
    have hw := (spells_print depth w).pad blank_space blank_nil
    rw [List.append_nil] at hw
    have hkey := keyed_printedMember depth k (w.print depth)
    obtain ⟨n, ms, hks, hn, hs, hj⟩ := spells_printMembers depth d hkey hw vs
    refine ⟨m, n :: ms, List.forall_mem_cons.mpr ⟨hk, hks⟩, ?_, .cons h hs, ?_⟩
    · rw [List.map_cons, hn]
      rfl
    · rw [printMembers]
      simpa [text_printedMember] using hj.cons m.text

end

end LayoutSync.Json
