import LayoutSync.Json.Printer
import LayoutSync.Json.StringLiteral
import Mathlib.Tactic.Lemma

namespace LayoutSync.Json

lemma digitChar_hex : ∀ d < 16,
    Text.hexDigit? (Nat.digitChar d) = some d ∧ (Nat.digitChar d).utf8Size = 1 := by
  decide

lemma readHex_digits {a b : Nat} (ha : a < 16) (hb : b < 16) (r : List Char) :
    readHex ('0' :: '0' :: Nat.digitChar a :: Nat.digitChar b :: r) = .ok (16 * a + b, r) := by
  obtain ⟨ha, ha'⟩ := digitChar_hex a ha
  obtain ⟨hb, hb'⟩ := digitChar_hex b hb
  have hz : Text.hexDigit? '0' = some 0 ∧ '0'.utf8Size = 1 := digitChar_hex 0 (by decide)
  simp [readHex, ha, ha', hb, hb', hz]

lemma readEscape_control {n : Nat} (h : n < 0x20) (r : List Char) :
    readEscape ('u' :: '0' :: '0' :: Nat.digitChar (n / 16) :: Nat.digitChar (n % 16) :: r) =
      .ok (Char.ofNat n, r) := by
  have hr := readHex_digits (by omega : n / 16 < 16) (by omega : n % 16 < 16) r
  rw [Nat.div_add_mod] at hr
  have hl : ¬ (0xdc00 ≤ n ∧ n ≤ 0xdfff) := by omega
  have hh : ¬ (0xd800 ≤ n ∧ n ≤ 0xdbff) := by omega
  have hs : simpleEscape? 'u' = none := by decide
  simp [readEscape, hs, readCode, hr, ok_bind, hl, hh, pure_eq_ok]

lemma hexDigits_short {n : Nat} (h : n < 0x10) : hexDigits n = [Nat.digitChar (n % 16)] := by
  rw [Nat.mod_eq_of_lt h]
  exact Nat.toDigits_of_lt_base h

lemma hexDigits_long {n : Nat} (h : n < 0x20) (h' : ¬ n < 0x10) :
    hexDigits n = [Nat.digitChar (n / 16), Nat.digitChar (n % 16)] := by
  rw [hexDigits, Nat.toDigits_eq_if (by decide), if_neg h', Nat.toDigits_of_lt_base (by omega)]
  rfl

def named : List Char := ['"', '\\', '\x08', '\t', '\n', '\x0c', '\r']

lemma escapeChar_of_named : ∀ c ∈ named, ∃ d, escapeChar c = ['\\', d] ∧ simpleEscape? d = some c := by
  intro c hc
  simp only [named, List.mem_cons, List.not_mem_nil, or_false] at hc
  rcases hc with rfl | rfl | rfl | rfl | rfl | rfl | rfl
  · exact ⟨'"', rfl, rfl⟩
  · exact ⟨'\\', rfl, rfl⟩
  · exact ⟨'b', rfl, rfl⟩
  · exact ⟨'t', rfl, rfl⟩
  · exact ⟨'n', rfl, rfl⟩
  · exact ⟨'f', rfl, rfl⟩
  · exact ⟨'r', rfl, rfl⟩

lemma escapeChar_of_not_named {c : Char} (h : c ∉ named) :
    escapeChar c =
      if c.toNat < 0x10 then "\\u000".toList ++ hexDigits c.toNat
      else if c.toNat < 0x20 then "\\u00".toList ++ hexDigits c.toNat
      else [c] := by
  simp only [named, List.mem_cons, List.not_mem_nil, or_false, not_or] at h
  obtain ⟨h1, h2, h3, h4, h5, h6, h7⟩ := h
  rw [escapeChar, if_neg h1, if_neg h2, if_neg h3, if_neg h4, if_neg h5, if_neg h6, if_neg h7]

lemma escapeChar_cases (c : Char) :
    (∃ e, escapeChar c = '\\' :: e ∧ ∀ r, readEscape (e ++ r) = .ok (c, r)) ∨
      escapeChar c = [c] ∧ c ≠ '"' ∧ c ≠ '\\' ∧ ¬ c.toNat < 0x20 := by
  by_cases hn : c ∈ named
  · obtain ⟨d, he, hd⟩ := escapeChar_of_named c hn
    exact .inl ⟨[d], he, fun r => by simp [readEscape, hd]⟩
  · have hq : c ≠ '"' := fun h => hn (h ▸ by decide)
    have hb : c ≠ '\\' := fun h => hn (h ▸ by decide)
    have ho : Char.ofNat c.toNat = c := Char.ofNat_toNat c
    rw [escapeChar_of_not_named hn]
    by_cases hs : c.toNat < 0x10
    · have hr := readEscape_control (Nat.lt_trans hs (by decide : 0x10 < 0x20))
      rw [ho, Nat.div_eq_of_lt hs] at hr
      refine .inl ⟨'u' :: '0' :: '0' :: '0' :: hexDigits c.toNat, by rw [if_pos hs]; rfl, ?_⟩
      intro r
      rw [hexDigits_short hs]
      exact hr r
    · by_cases hc : c.toNat < 0x20
      · have hr := readEscape_control hc
        rw [ho] at hr
        refine .inl ⟨'u' :: '0' :: '0' :: hexDigits c.toNat, ?_, ?_⟩
        · rw [if_neg hs, if_pos hc]
          rfl
        · intro r
          rw [hexDigits_long hc hs]
          exact hr r
      · exact .inr ⟨by rw [if_neg hs, if_neg hc], hq, hb, hc⟩

lemma readString_escapeChar (c : Char) (r : List Char) :
    readString (escapeChar c ++ r) =
      (do let (ds, s) ← readString r; return (c :: ds, s)) := by
  rcases escapeChar_cases c with ⟨e, he, hr⟩ | ⟨he, hq, hb, hc⟩
  · rw [he, List.cons_append, readString.eq_def]
    have hq : ¬ '\\' = '"' := by decide
    simp only [hq, if_false, if_true]
    split
    next f hf => simp [hr] at hf
    next d s hd =>
      obtain ⟨rfl, rfl⟩ : c = d ∧ r = s := by simpa [hr] using hd
      rfl
  · rw [he, List.singleton_append, readString.eq_def]
    simp only [hq, hb, hc, if_false]

lemma readString_escaped (cs r : List Char) :
    readString (cs.flatMap escapeChar ++ '"' :: r) = .ok (cs, r) := by
  induction cs with
  | nil =>
    rw [List.flatMap_nil, List.nil_append, readString.eq_def]
    rfl
  | cons c cs ih =>
    rw [List.flatMap_cons, List.append_assoc, readString_escapeChar, ih]
    rfl

end LayoutSync.Json
