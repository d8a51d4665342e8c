import LayoutSync.Json.Record
import LayoutSync.Proofs.Json.Grammar
import Mathlib.Data.List.Forall2

namespace LayoutSync.Json

section Strings

def IsCode (n : Nat) (ds : List Char) : Prop :=
  ds.length = 4 ∧ (∀ d ∈ ds, (Text.hexDigit? d).isSome) ∧
    (ds.filterMap Text.hexDigit?).foldl (16 * · + ·) 0 = n

inductive SpellsChar : Char → List Char → Prop
  | plain {c : Char} (hq : c ≠ '"') (hb : c ≠ '\\') (hc : ¬ c.toNat < 0x20) : SpellsChar c [c]
  | short {c d : Char} (h : simpleEscape? d = some c) : SpellsChar c ['\\', d]
  | code {n : Nat} {ds : List Char} (h : IsCode n ds) (hn : n < 0xd800 ∨ 0xdfff < n) :
    SpellsChar (Char.ofNat n) ('\\' :: 'u' :: ds)
  | pair {high low : Nat} {ds es : List Char} (hd : IsCode high ds) (he : IsCode low es)
    (hh : 0xd800 ≤ high ∧ high ≤ 0xdbff) (hl : 0xdc00 ≤ low ∧ low ≤ 0xdfff) :
    SpellsChar (Char.ofNat (0x10000 + 0x400 * (high - 0xd800) + (low - 0xdc00)))
      ('\\' :: 'u' :: (ds ++ '\\' :: 'u' :: es))

def SpellsString (s : String) (cs : List Char) : Prop :=
  ∃ ts : List (List Char), List.Forall₂ SpellsChar s.toList ts ∧ cs = ts.flatten ++ ['"']

variable {c : Char} {t cs : List Char}

lemma SpellsChar.parts (h : SpellsChar c t) : ∃ ts : List (List Char), (∀ u ∈ ts, IsStringPart u) ∧
    t = ts.flatten := by
  cases h with
  | plain hq hb hc => exact ⟨[[c]], by simpa using .plain hq hb hc, by simp⟩
  | @short _ d h => exact ⟨[['\\', d]], by simpa using .short (by simp [h]), by simp⟩
  | @code n ds h _ => exact ⟨['\\' :: 'u' :: ds], by simpa using .code h.1 h.2.1, by simp⟩
  | @pair _ _ ds es hd he _ _ =>
    exact ⟨['\\' :: 'u' :: ds, '\\' :: 'u' :: es],
      by simpa using ⟨.code hd.1 hd.2.1, .code he.1 he.2.1⟩, by simp⟩

lemma SpellsString.isString {s : String} (h : SpellsString s cs) : IsString cs := by
  obtain ⟨ts, hts, rfl⟩ := h
  generalize s.toList = ds at hts
  induction hts with
  | nil => exact ⟨[], List.forall_mem_nil _, rfl⟩
  | cons hc _ ih =>
    obtain ⟨us, hus, rfl⟩ := hc.parts
    obtain ⟨vs, hvs, he⟩ := ih
    refine ⟨us ++ vs, fun u hu => (List.mem_append.mp hu).elim (hus u) (hvs u), ?_⟩
    rw [List.flatten_cons, List.append_assoc, he, List.flatten_append, List.append_assoc]

end Strings

section Values

structure MemberText where
  name : String
  key : List Char
  value : List Char

namespace MemberText

def text (m : MemberText) : List Char := m.key ++ ':' :: m.value

def Keyed (m : MemberText) : Prop := ∃ cs, SpellsString m.name cs ∧ Padded ('"' :: cs) m.key

end MemberText

/-- The texts of a value, with the space around them. Numbers are spelled as they are written. -/
inductive Spells : Value → List Char → Prop
  | null {cs : List Char} (hp : Padded "null".toList cs) : Spells .null cs
  | bool {b : Bool} {cs : List Char} (hp : Padded (if b then "true" else "false").toList cs) :
    Spells (.bool b) cs
  | number {n : Number} {cs : List Char} (hp : Padded (printNumber n) cs) : Spells (.number n) cs
  | string {s : String} {w cs : List Char} (h : SpellsString s w) (hp : Padded ('"' :: w) cs) :
    Spells (.string s) cs
  | array {vs : List Value} {ts : List (List Char)} {body cs : List Char}
    (h : List.Forall₂ Spells vs ts) (hj : Joined ts body) (hp : Padded ('[' :: (body ++ [']'])) cs) :
    Spells (.array vs) cs
  | object {vs : List (String × Value)} {ms : List MemberText} {body cs : List Char}
    (hk : ∀ m ∈ ms, m.Keyed) (hn : ms.map MemberText.name = vs.map Prod.fst)
    (h : List.Forall₂ Spells (vs.map Prod.snd) (ms.map MemberText.value))
    (hj : Joined (ms.map MemberText.text) body) (hp : Padded ('{' :: (body ++ ['}'])) cs) :
    Spells (.object vs) cs

def IsObject (ms : List MemberText) (cs : List Char) : Prop :=
  (∀ m ∈ ms, m.Keyed) ∧
    ∃ body, Joined (ms.map MemberText.text) body ∧ Padded ('{' :: (body ++ ['}'])) cs

variable {vs : List (String × Value)} {ms : List MemberText} {m : MemberText} {v : Value}
  {t : List Char}

lemma MemberText.Keyed.isKey (h : m.Keyed) : IsKey m.key := by
  obtain ⟨cs, hcs, hp⟩ := h
  exact ⟨cs, hcs.isString, hp⟩

lemma exists_of_forall₂ {α β : Type} {R : α → β → Prop} {as : List α} {bs : List β}
    (h : List.Forall₂ R as bs) : ∀ b ∈ bs, ∃ a ∈ as, R a b := by
  induction h with
  | nil => exact List.forall_mem_nil _
  | @cons a b as bs hf _ ih =>
    refine List.forall_mem_cons.mpr ⟨⟨a, List.mem_cons_self, hf⟩, fun b hb => ?_⟩
    obtain ⟨a, ha, hab⟩ := ih b hb
    exact ⟨a, List.mem_cons_of_mem _ ha, hab⟩

lemma exists_of_member {vs : List (String × Value)} {ms : List MemberText}
    (hn : ms.map MemberText.name = vs.map Prod.fst)
    (h : List.Forall₂ Spells (vs.map Prod.snd) (ms.map MemberText.value)) :
    ∀ m ∈ ms, ∃ v, (m.name, v) ∈ vs ∧ Spells v m.value := by
  induction ms generalizing vs with
  | nil => exact List.forall_mem_nil _
  | cons m ms ih =>
    cases vs with
    | nil => cases hn
    | cons p vs =>
      obtain ⟨hname, hnames⟩ := List.cons.inj hn
      obtain ⟨hvalue, hvalues⟩ := List.forall₂_cons.mp h
      refine List.forall_mem_cons.mpr ⟨⟨p.2, ?_, hvalue⟩, fun l hl => ?_⟩
      · rw [hname]
        exact List.mem_cons_self
      · obtain ⟨v, hv, hs⟩ := ih hnames hvalues l hl
        exact ⟨v, List.mem_cons_of_mem _ hv, hs⟩

lemma joined_pairs {body : List Char} (hj : Joined (ms.map MemberText.text) body) :
    Joined ((ms.map fun m => (m.key, m.value)).map fun m => m.1 ++ ':' :: m.2) body := by
  rw [List.map_map]
  exact hj

lemma Spells.isJson {v : Value} {t : List Char} (hv : v.AllNumbers fun _ => False) (h : Spells v t) :
    IsJson t := by
  induction hv generalizing t with
  | null =>
    cases h with
    | null hp => exact .word (by decide) hp
  | bool b =>
    cases h with
    | bool hp => cases b with
      | true => exact .word (by decide) hp
      | false => exact .word (by decide) hp
  | string s =>
    cases h with
    | string h hp => exact .string h.isString hp
  | number hn => exact hn.elim
  | array _ ih =>
    cases h with
    | array h hj hp =>
      refine .array (fun t ht => ?_) hj hp
      obtain ⟨v, hv, ht⟩ := exists_of_forall₂ h t ht
      exact ih v hv ht
  | object _ ih =>
    cases h with
    | @object _ ms body _ hk hn h hj hp =>
      refine .object ?_ ?_ (joined_pairs hj) hp
      · exact List.forall_mem_map.mpr fun m hm => (hk m hm).isKey
      · refine List.forall_mem_map.mpr fun m hm => ?_
        obtain ⟨v, hv, ht⟩ := exists_of_member hn h m hm
        exact ih (m.name, v) hv ht

lemma Spells.begins {v : Value} (h : Spells v t) (hn : ∀ n, v ≠ .number n) : Begins t := by
  cases h with
  | null hp => exact begins_of_padded hp (by decide) (by decide) (by decide)
  | @bool b _ hp =>
    cases b with
    | true => exact begins_of_padded hp (by decide) (by decide) (by decide)
    | false => exact begins_of_padded hp (by decide) (by decide) (by decide)
  | @number n => exact absurd rfl (hn n)
  | string _ hp => exact begins_of_padded hp (by decide) (by decide) (by decide)
  | array _ _ hp => exact begins_of_padded hp (by decide) (by decide) (by decide)
  | object _ _ _ _ hp => exact begins_of_padded hp (by decide) (by decide) (by decide)

end Values

end LayoutSync.Json
