import LayoutSync.Markup.Entity
import Mathlib.Tactic.Lemma

namespace LayoutSync.Markup

open Text

def marked : List Char := ['<', '>', '&', '\'', '"']

lemma escapeChar_of_not_marked {c : Char} (h : c ∉ marked) : escapeChar c = [c] := by
  simp only [marked, List.mem_cons, List.not_mem_nil, or_false, not_or] at h
  obtain ⟨h1, h2, h3, h4, h5⟩ := h
  unfold escapeChar
  split <;> first | contradiction | rfl

lemma escapeChar_of_marked {c : Char} (h : c ∈ marked) :
    ∃ name, escapeChar c = '&' :: name ++ [';'] ∧ (∀ d ∈ name, endsReference d = false) ∧
      ∀ start stop, resolve start stop name = .ok c := by
  simp only [marked, List.mem_cons, List.not_mem_nil, or_false] at h
  rcases h with rfl | rfl | rfl | rfl | rfl
  · exact ⟨['l', 't'], rfl, by simp [endsReference], fun _ _ => rfl⟩
  · exact ⟨['g', 't'], rfl, by simp [endsReference], fun _ _ => rfl⟩
  · exact ⟨['a', 'm', 'p'], rfl, by simp [endsReference], fun _ _ => rfl⟩
  · exact ⟨['a', 'p', 'o', 's'], rfl, by simp [endsReference], fun _ _ => rfl⟩
  · exact ⟨['q', 'u', 'o', 't'], rfl, by simp [endsReference], fun _ _ => rfl⟩

lemma unescapeFrom_reference (total p : Nat) {name : List Char} (r : List Char)
    (h : ∀ d ∈ name, endsReference d = false) :
    ∃ q, unescapeFrom total p ('&' :: name ++ ';' :: r) =
      (do let x ← resolve p q name; let xs ← unescapeFrom total (q + 1) r; return x :: xs) := by
  have ht : (name ++ ';' :: r).takeWhile (!endsReference ·) = name := by
    rw [List.takeWhile_append_of_pos (by simpa using h)]
    simp [endsReference]
  have hd : (name ++ ';' :: r).dropWhile (!endsReference ·) = ';' :: r := by
    rw [List.dropWhile_append_of_pos (by simpa using h)]
    simp [endsReference]
  rw [List.cons_append, unescapeFrom.eq_def]
  simp only [if_true, ht]
  split
  next rest hs =>
    rw [hd] at hs
    obtain ⟨_, rfl⟩ := List.cons.inj hs
    exact ⟨_, rfl⟩
  next hs => exact absurd hd (hs r)

lemma unescapeFrom_escapeChar (total p : Nat) (c : Char) (r : List Char) :
    ∃ q, unescapeFrom total p (escapeChar c ++ r) =
      (do let xs ← unescapeFrom total q r; return c :: xs) := by
  by_cases h : c ∈ marked
  · obtain ⟨name, he, hn, hr⟩ := escapeChar_of_marked h
    obtain ⟨q, hq⟩ := unescapeFrom_reference total p r hn
    refine ⟨q + 1, ?_⟩
    rw [he, List.append_assoc, List.singleton_append, hq, hr]
    rfl
  · rw [escapeChar_of_not_marked h, List.singleton_append, unescapeFrom.eq_def]
    have ha : c ≠ '&' := by
      rintro rfl
      exact h (by decide)
    simp only [ha, if_false]
    exact ⟨_, rfl⟩

lemma unescapeFrom_escape (total p : Nat) (cs : List Char) :
    unescapeFrom total p (escape cs) = .ok cs := by
  induction cs generalizing p with
  | nil => simp [escape, unescapeFrom]
  | cons c cs ih =>
    obtain ⟨q, hq⟩ := unescapeFrom_escapeChar total p c (escape cs)
    have hs : escape (c :: cs) = escapeChar c ++ escape cs := List.flatMap_cons
    rw [hs, hq, ih]
    rfl

lemma unescape_escape (cs : List Char) : unescape (escape cs) = .ok cs :=
  unescapeFrom_escape _ _ _

lemma not_mem_escape {c : Char} (h : c ∈ marked) (ha : c ≠ '&') (cs : List Char) :
    c ∉ escape cs := by
  rw [escape, List.mem_flatMap]
  rintro ⟨d, -, hd⟩
  by_cases hm : d ∈ marked
  · simp only [marked, List.mem_cons, List.not_mem_nil, or_false] at h hm
    rcases hm with rfl | rfl | rfl | rfl | rfl <;> rcases h with rfl | rfl | rfl | rfl | rfl <;>
      first | exact ha rfl | exact absurd hd (by decide)
  · rw [escapeChar_of_not_marked hm, List.mem_singleton] at hd
    exact hm (hd ▸ h)

lemma escape_eq_nil {cs : List Char} : escape cs = [] ↔ cs = [] := by
  constructor
  · intro h
    have := unescape_escape cs
    rw [h] at this
    simpa [unescape, unescapeFrom] using this.symm
  · rintro rfl
    rfl

lemma escape_of_not_marked {cs : List Char} (h : ∀ c ∈ cs, c ∉ marked) : escape cs = cs := by
  induction cs with
  | nil => rfl
  | cons c cs ih =>
    have hs : escape (c :: cs) = escapeChar c ++ escape cs := List.flatMap_cons
    rw [hs, escapeChar_of_not_marked (h c (by simp)), ih fun d hd => h d (by simp [hd])]
    rfl

end LayoutSync.Markup
