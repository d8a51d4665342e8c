import LayoutSync.Fallible
import LayoutSync.Markup.Attribute
import Mathlib.Data.List.Forall2
import Mathlib.Data.List.Nodup
import Mathlib.Tactic.Lemma

namespace LayoutSync.Markup

open Text

inductive Lists (total : Nat) : List (List Char × Nat) → Nat → List Char → List RawAttribute → Prop
  | nil {seen : List (List Char × Nat)} {position : Nat} {cs : List Char}
      (blank : (skipSpace position cs).2 = []) : Lists total seen position cs []
  | cons {seen : List (List Char × Nat)} {position start : Nat} {cs r : List Char} {k : Char}
      {a : RawAttribute} {others : List RawAttribute}
      (starts : skipSpace position cs = (start, k :: r))
      (reads : readAttribute total start seen k r = .ok a)
      (rest : Lists total (seen ++ [(a.key, start)]) a.stop a.rest others) :
      Lists total seen position cs (a :: others)

def Tag.Lists (t : Tag) (raws : List RawAttribute) : Prop :=
  Markup.Lists (utf8Length t.name + utf8Length t.rest) [] (utf8Length t.name) t.rest raws

def RawAttribute.Means (a : RawAttribute) (e : String × String) : Prop :=
  e.1 = String.ofList a.key ∧ unescape a.value = .ok e.2.toList

lemma key_of_readValue {total start p : Nat} {key cs : List Char} {a : RawAttribute}
    (h : readValue total key start p cs = .ok a) : a.key = key := by
  unfold readValue at h
  split at h
  · cases h
  · split at h
    · split at h
      · cases h
      · obtain rfl := Except.ok.inj h
        rfl
    · cases h

lemma key_not_mem_of_readAttribute {total start : Nat} {seen : List (List Char × Nat)} {k : Char}
    {r : List Char} {a : RawAttribute} (h : readAttribute total start seen k r = .ok a) :
    a.key ∉ seen.map Prod.fst := by
  unfold readAttribute at h
  simp only at h
  split at h
  · cases h
  · split at h
    · split at h
      · cases h
      next hf =>
        rw [key_of_readValue h, List.mem_map]
        rintro ⟨e, he, hk⟩
        simpa [hk] using List.find?_eq_none.mp hf e he
    · cases h

lemma Lists.nodup_keys {total p : Nat} {seen : List (List Char × Nat)} {cs : List Char}
    {raws : List RawAttribute} (h : Lists total seen p cs raws) :
    (raws.map RawAttribute.key).Nodup ∧ ∀ a ∈ raws, a.key ∉ seen.map Prod.fst := by
  induction h with
  | nil => simp
  | @cons seen position start cs r k a others starts reads rest ih =>
    obtain ⟨hn, hs⟩ := ih
    have ha := key_not_mem_of_readAttribute reads
    have hs' : ∀ b ∈ others, b.key ∉ seen.map Prod.fst ∧ b.key ≠ a.key := by
      simpa using hs
    refine ⟨List.nodup_cons.mpr ⟨?_, hn⟩, List.forall_mem_cons.mpr ⟨ha, fun b hb => (hs' b hb).1⟩⟩
    rw [List.mem_map]
    rintro ⟨b, hb, he⟩
    exact (hs' b hb).2 he

lemma lists_blank_iff {total p : Nat} {seen : List (List Char × Nat)} {cs : List Char}
    {raws : List RawAttribute} (h : (skipSpace p cs).2 = []) :
    Lists total seen p cs raws ↔ raws = [] := by
  constructor
  · intro hl
    cases hl with
    | nil => rfl
    | cons starts => simp [starts] at h
  · rintro rfl
    exact .nil h

lemma lists_starts_iff {total p start : Nat} {seen : List (List Char × Nat)} {k : Char}
    {cs r : List Char} {raws : List RawAttribute} (h : skipSpace p cs = (start, k :: r)) :
    Lists total seen p cs raws ↔ ∃ a others, readAttribute total start seen k r = .ok a ∧
      Lists total (seen ++ [(a.key, start)]) a.stop a.rest others ∧ raws = a :: others := by
  constructor
  · intro hl
    cases hl with
    | nil blank => simp [h] at blank
    | @cons _ _ start' _ r' k' a others starts reads rest =>
      rw [h] at starts
      obtain ⟨rfl, rfl, rfl⟩ : start = start' ∧ k = k' ∧ r = r' := by simpa using starts
      exact ⟨a, others, reads, rest, rfl⟩
  · rintro ⟨a, others, reads, rest, rfl⟩
    exact .cons h reads rest

lemma readAttributes_blank {total p : Nat} (seen : List (List Char × Nat)) {cs : List Char}
    (h : (skipSpace p cs).2 = []) : readAttributes total seen p cs = .ok [] := by
  rw [readAttributes.eq_def]
  split
  · rfl
  next hs => simp [hs] at h

lemma readAttributes_starts {total p start : Nat} {seen : List (List Char × Nat)} {k : Char}
    {cs r : List Char} (h : skipSpace p cs = (start, k :: r)) :
    readAttributes total seen p cs = (do
      let a ← readAttribute total start seen k r
      let value ← (unescape a.value).mapError .value
      let others ← readAttributes total (seen ++ [(a.key, start)]) a.stop a.rest
      return (String.ofList a.key, String.ofList value) :: others) := by
  rw [readAttributes.eq_def]
  split
  next hs => simp [hs] at h
  next start' k' r' hs =>
    rw [h] at hs
    obtain ⟨rfl, rfl, rfl⟩ : start = start' ∧ k = k' ∧ r = r' := by simpa using hs
    cases ha : readAttribute total start seen k r with
    | error f => rfl
    | ok a => cases hu : unescape a.value <;> simp [hu, Except.mapError]

lemma readAttributes_eq_ok_iff (total : Nat) {seen : List (List Char × Nat)} {p : Nat}
    {cs : List Char} {l : List (String × String)} :
    readAttributes total seen p cs = .ok l ↔
      ∃ raws, Lists total seen p cs raws ∧ List.Forall₂ RawAttribute.Means raws l := by
  induction seen, p, cs using readAttributes.induct total generalizing l with
  | case1 seen p cs q h =>
    have hb : (skipSpace p cs).2 = [] := congrArg Prod.snd h
    simp [readAttributes_blank seen hb, lists_blank_iff hb, eq_comm]
  | case2 seen p cs start k r h f ha =>
    simp [readAttributes_starts h, lists_starts_iff h, ha]
  | case3 seen p cs start k r h a ha f hu =>
    have hm : ∀ e, ¬ a.Means e := by simp [RawAttribute.Means, hu]
    simp [readAttributes_starts h, lists_starts_iff h, ha, hu, hm, Except.mapError,
      List.forall₂_cons_left_iff]
  | case4 seen p cs start k r h a ha value hu ih =>
    have hm : ∀ e, a.Means e ↔ e = (String.ofList a.key, String.ofList value) := by
      rintro ⟨j, v⟩
      simp [RawAttribute.Means, hu, ← String.toList_inj, eq_comm]
    have hr : readAttributes total seen p cs = .ok l ↔ ∃ others,
        readAttributes total (seen ++ [(a.key, start)]) a.stop a.rest = .ok others ∧
          l = (String.ofList a.key, String.ofList value) :: others := by
      simp only [readAttributes_starts h, ha, ok_bind, hu, Except.mapError, bind_eq_ok, pure_eq_ok,
        Except.ok.injEq, @eq_comm _ _ l]
    simp only [hr, ih, lists_starts_iff h, ha, Except.ok.injEq]
    constructor
    · rintro ⟨others, ⟨raws, hl, hf⟩, rfl⟩
      exact ⟨a :: raws, ⟨a, raws, rfl, hl, rfl⟩, .cons ((hm _).mpr rfl) hf⟩
    · rintro ⟨_, ⟨_, raws, rfl, hl, rfl⟩, hf⟩
      obtain ⟨e, others, he, hfs, rfl⟩ := List.forall₂_cons_left_iff.mp hf
      exact ⟨others, ⟨raws, hl, hfs⟩, by rw [(hm e).mp he]⟩

lemma keys_of_means {raws : List RawAttribute} {l : List (String × String)}
    (h : List.Forall₂ RawAttribute.Means raws l) :
    Assoc.keys l = (raws.map RawAttribute.key).map String.ofList := by
  induction h with
  | nil => rfl
  | cons he _ ih => rw [Assoc.keys_cons, ih, he.1, List.map_cons, List.map_cons]

lemma exists_means_iff {raws : List RawAttribute} :
    (∃ l, List.Forall₂ RawAttribute.Means raws l) ↔
      ∀ a ∈ raws, ∃ cs, unescape a.value = .ok cs := by
  constructor
  · rintro ⟨l, hl⟩
    exact ((List.forall₂_and_left _ _).mp (hl.imp fun _ _ h => ⟨⟨_, h.2⟩, h⟩)).1
  · intro h
    induction raws with
    | nil => exact ⟨[], .nil⟩
    | cons a raws ih =>
      obtain ⟨⟨cs, hcs⟩, hs⟩ := List.forall_mem_cons.mp h
      obtain ⟨l, hl⟩ := ih hs
      exact ⟨(String.ofList a.key, String.ofList cs) :: l, .cons ⟨rfl, by simpa using hcs⟩ hl⟩

namespace Tag

variable {t : Tag} {raws : List RawAttribute} {l : List (String × String)}

lemma Lists.nodup (h : t.Lists raws) (hl : List.Forall₂ RawAttribute.Means raws l) :
    (Assoc.keys l).Nodup := by
  rw [keys_of_means hl]
  exact List.Nodup.map (fun _ _ => String.ofList_injective) (Markup.Lists.nodup_keys h).1

lemma attributes_eq_ok_iff {as : Dict String} :
    t.attributes = .ok as ↔
      ∃ raws, t.Lists raws ∧ List.Forall₂ RawAttribute.Means raws as.entries := by
  unfold attributes
  simp only [map_eq_ok, readAttributes_eq_ok_iff]
  constructor
  · rintro ⟨l, ⟨raws, hl, hf⟩, rfl⟩
    have he : (Dict.ofList l).entries = l := Dict.entries_foldl_put ∅ (Lists.nodup hl hf)
    exact ⟨raws, hl, he.symm ▸ hf⟩
  · rintro ⟨raws, hl, hf⟩
    exact ⟨as.entries, ⟨raws, hl, hf⟩, as.ofList_entries⟩

lemma exists_attributes_iff : (∃ as, t.attributes = .ok as) ↔
    ∃ raws, t.Lists raws ∧ ∀ a ∈ raws, ∃ cs, unescape a.value = .ok cs := by
  simp only [attributes_eq_ok_iff, ← exists_means_iff]
  constructor
  · rintro ⟨as, raws, hl, hf⟩
    exact ⟨raws, hl, as.entries, hf⟩
  · rintro ⟨raws, hl, l, hf⟩
    exact ⟨⟨l, Lists.nodup hl hf⟩, raws, hl, hf⟩

end Tag

end LayoutSync.Markup
