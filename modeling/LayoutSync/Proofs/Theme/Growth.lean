import LayoutSync.Proofs.Theme.Entries
import Mathlib.Data.List.Forall2

/-!
Themes only gain entries. Every element stays where it is, with its tag, attributes and tail; its
text changes only where an empty entry is filled, or where blank text is parted by a new child.
-/

namespace LayoutSync.Theme

open Markup Layout

inductive TextKept (a b : Element) : Prop
  | same (h : b.text = a.text)
  /-- A leaf gains children, and blank text before a child is lost. -/
  | parted (ha : a.children = []) (hb : b.children ≠ []) (h : b.text = Element.solid a.text)
  /-- An entry without content is filled. -/
  | filled (hk : ∃ k : EntryKind, a.tag = k.element) (ha : a.hasContent = false)
      (h : b.text = some placeholder)

/-- Nothing of the first element is lost in the second one. -/
inductive Grown : Element → Element → Prop
  | intro {a b : Element} (tag : b.tag = a.tag) (attributes : b.attributes = a.attributes)
      (tail : b.tail = a.tail) (text : TextKept a b)
      (children : List.SublistForall₂ Grown a.children b.children) : Grown a b

section Lists

variable {α : Type} {R : α → α → Prop} {l r m : List α}

lemma embeds_refl (h : ∀ a ∈ l, R a a) : List.SublistForall₂ R l l :=
  List.sublistForall₂_iff.mpr ⟨l, List.forall₂_same.mpr h, List.Sublist.refl l⟩

lemma embeds_insert (h : ∀ a ∈ l ++ r, R a a) (b : α) :
    List.SublistForall₂ R (l ++ r) (l ++ b :: r) :=
  List.sublistForall₂_iff.mpr ⟨l ++ r, List.forall₂_same.mpr h,
    (List.Sublist.refl l).append (List.sublist_cons_self b r)⟩

lemma embeds_replace (h : ∀ a, R a a) {b c : α} (hb : R b c) :
    List.SublistForall₂ R (l ++ b :: r) (l ++ c :: r) := by
  induction l with
  | nil => exact .cons hb (embeds_refl fun a _ => h a)
  | cons a l ih => exact .cons (h a) ih

lemma embeds_trans (h : ∀ a ∈ l, ∀ b c, R a b → R b c → R a c) (hr : List.SublistForall₂ R l r)
    (hm : List.SublistForall₂ R r m) : List.SublistForall₂ R l m := by
  induction hm generalizing l with
  | nil =>
    cases hr
    exact .nil
  | cons hb _ ih =>
    cases hr with
    | nil => exact .nil
    | cons ha hr => exact .cons (h _ (by simp) _ _ ha hb) (ih (fun a ha => h a (by simp [ha])) hr)
    | cons_right hr => exact .cons_right (ih h hr)
  | cons_right _ ih => exact .cons_right (ih h hr)

lemma embeds_ne_nil (h : List.SublistForall₂ R l r) (hl : l ≠ []) : r ≠ [] := by
  cases h with
  | nil => exact absurd rfl hl
  | cons => simp
  | cons_right => simp

end Lists

lemma Grown.refl (e : Element) : Grown e e := by
  induction e using Element.induction with
  | step e ih => exact .intro rfl rfl rfl (.same rfl) (embeds_refl ih)

lemma children_eq_nil_of_hasContent {e : Element} (h : e.hasContent = false) :
    e.children = [] := by
  simpa using (Bool.or_eq_false_iff.mp h).1

lemma solid_text_of_hasContent {e : Element} (h : e.hasContent = false) :
    Element.solid e.text = none := by
  have ht := (Bool.or_eq_false_iff.mp h).2
  cases he : e.text with
  | none => rfl
  | some s =>
    obtain rfl : s = "" := by simpa [he] using ht
    rfl

lemma solid_solid (data : Option String) :
    Element.solid (Element.solid data) = Element.solid data :=
  Element.solid_eq_self fun _ h => (Element.solid_eq_some h).2

lemma TextKept.trans {a b c : Element} (hab : TextKept a b) (hbc : TextKept b c)
    (ht : b.tag = a.tag) (hb : a.children ≠ [] → b.children ≠ [])
    (hc : b.children ≠ [] → c.children ≠ []) : TextKept a c := by
  have hn : b.children = [] → a.children = [] := fun h => by_contra fun ha => hb ha h
  cases hab with
  | same h =>
    cases hbc with
    | same h' => exact .same (h'.trans h)
    | parted hb' hc' h' => exact .parted (hn hb') hc' (by rw [h', h])
    | filled hk hb' h' =>
      refine .filled (ht ▸ hk) ?_ h'
      have he := children_eq_nil_of_hasContent hb'
      rw [Element.hasContent, he] at hb'
      rw [Element.hasContent, hn he, ← h]
      exact hb'
  | parted ha hb' h =>
    cases hbc with
    | same h' => exact .parted ha (hc hb') (h'.trans h)
    | parted hb'' => exact absurd hb'' hb'
    | filled _ hb'' => exact absurd (children_eq_nil_of_hasContent hb'') hb'
  | filled hk ha h =>
    cases hbc with
    | same h' => exact .filled hk ha (h'.trans h)
    | parted _ hc' h' =>
      refine .parted (children_eq_nil_of_hasContent ha) hc' ?_
      rw [h', h, solid_text_of_hasContent ha]
      rfl
    | filled _ hb' _ =>
      rw [Element.hasContent, h] at hb'
      simp [placeholder] at hb'

lemma Grown.trans {a b c : Element} (hab : Grown a b) (hbc : Grown b c) : Grown a c := by
  induction a using Element.induction generalizing b c with
  | step a ih =>
    cases hab with
    | intro tag attributes tail text children =>
      cases hbc with
      | intro tag' attributes' tail' text' children' =>
        exact .intro (tag'.trans tag) (attributes'.trans attributes) (tail'.trans tail)
          (text.trans text' tag (embeds_ne_nil children) (embeds_ne_nil children'))
          (embeds_trans (fun a ha b c => ih a ha) children children')

lemma grown_children {e : Element} {cs : List Element}
    (h : List.SublistForall₂ Grown e.children cs) : Grown e { e with children := cs } :=
  .intro rfl rfl rfl (.same rfl) h

lemma grown_ensureEntry (set : Element) (kind : EntryKind) (name : String) :
    Grown set (ensureEntry set kind name).1 := by
  rcases ensureEntry_cases set kind name with ⟨_, _, _, h⟩ | ⟨e, l, r, hs, _, he, hc, h⟩ |
      ⟨l, r, hs, _, h⟩ <;> rw [h]
  · exact Grown.refl set
  · apply grown_children
    rw [hs]
    apply embeds_replace Grown.refl
    exact .intro rfl rfl rfl (.filled ⟨kind, (isEntry_iff.mp he).1⟩ hc rfl)
      (embeds_refl fun c _ => Grown.refl c)
  · apply grown_children
    rw [hs]
    exact embeds_insert (fun c _ => Grown.refl c) _

lemma grown_syncSet (x : ViewIndex) (set : Element) (r : Report) :
    Grown set (syncSet x set r).1 :=
  List.foldlRecOn (motive := fun s => Grown set s.1) (wanted x.views) ensureWanted
    (Grown.refl set) fun s h w _ => h.trans (grown_ensureEntry s.1 w.1 w.2)

lemma grown_sync (theme : Element) (x : ViewIndex) (name : String) :
    Grown theme (sync theme x name).1 := by
  cases hf : theme.findChild? "property-set" name with
  | some set =>
    obtain ⟨l, r, hc, _, _, hs⟩ := sync_of_found hf x
    rw [hs]
    apply grown_children
    rw [hc]
    exact embeds_replace Grown.refl (grown_syncSet x set {})
  | none =>
    rw [(sync_of_missing hf x).2]
    apply grown_children
    have h := embeds_insert (l := theme.children) (r := []) (fun c _ => Grown.refl c)
      (syncSet x (newSet name) { createdPropertySet := true }).1
    rwa [List.append_nil] at h

lemma TextKept.tidy {a b : Element} (h : TextKept a b) (ha : a.IsTidy)
    (hb : a.children ≠ [] → b.children ≠ []) : TextKept a b.tidy := by
  have hn : b.tidy.children ≠ [] ↔ b.children ≠ [] := by
    rw [Element.tidy_eq]
    simp
  cases hc : b.children with
  | nil =>
    have ht : b.tidy.text = b.text.filter (· ≠ "") := by simp [Element.tidy_eq, hc]
    have hac : a.children = [] := by_contra fun he => hb he hc
    cases h with
    | same h => exact .same (by rw [ht, h, Element.filter_ne_eq_self ha.text_ne])
    | parted _ hb' => exact absurd hc hb'
    | filled hk ha' h => exact .filled hk ha' (by rw [ht, h]; rfl)
  | cons c cs =>
    have ht : b.tidy.text = Element.solid b.text := by simp [Element.tidy_eq, hc]
    have hbc : b.tidy.children ≠ [] := hn.mpr (by simp [hc])
    by_cases hac : a.children = []
    · cases h with
      | same h => exact .parted hac hbc (by rw [ht, h])
      | parted _ _ h => exact .parted hac hbc (by rw [ht, h, solid_solid])
      | filled _ ha' h =>
        refine .parted hac hbc ?_
        rw [ht, h, solid_text_of_hasContent ha']
        rfl
    · cases h with
      | same h => exact .same (by rw [ht, h, Element.solid_eq_self (ha.text_solid hac)])
      | parted ha' => exact absurd ha' hac
      | filled _ ha' => exact absurd (children_eq_nil_of_hasContent ha') hac

lemma Grown.tidy {a b : Element} (h : Grown a b) (ha : a.Every Element.IsTidy) :
    Grown a b.tidy := by
  induction ha generalizing b with
  | @intro a hp _ ih =>
    cases h with
    | intro tag attributes tail text children =>
      refine .intro ?_ ?_ ?_ (text.tidy hp (embeds_ne_nil children)) ?_
      · rw [Element.tidy_eq]
        exact tag
      · rw [Element.tidy_eq]
        exact attributes
      · have hs := Element.solid_eq_self hp.tail_solid
        rw [Element.tidy_eq]
        exact (congrArg Element.solid tail).trans hs
      · rw [Element.tidy_eq]
        apply List.sublistForall₂_map_right_iff.mpr
        obtain ⟨l, hl, hs⟩ := List.sublistForall₂_iff.mp children
        have hkept : ∀ c ∈ a.children, ∀ b, Grown c b → Grown c b.tidy := fun c hc _ => ih c hc
        have hboth := (List.forall₂_and_left _ _).mpr ⟨hkept, hl⟩
        exact List.sublistForall₂_iff.mpr ⟨l, hboth.imp fun c b h => h.1 b h.2, hs⟩

section Names

open Markup.Element

lemma hasNames_newEntry (kind : EntryKind) (name : String) : (newEntry kind name).HasNames := by
  have hk : ∀ k ∈ Assoc.keys (newEntry kind name).attributes.entries, IsName k := by
    intro k hk
    obtain rfl : k = "name" := List.mem_singleton.mp hk
    decide
  cases kind with
  | id => exact ⟨show IsName "id" by decide, hk⟩
  | tag => exact ⟨show IsName "tag" by decide, hk⟩

lemma hasNames_newSet (name : String) : (newSet name).HasNames := by
  refine ⟨show IsName "property-set" by decide, fun k hk => ?_⟩
  obtain rfl : k = "name" := List.mem_singleton.mp hk
  decide

lemma every_withChildren {e : Element} (h : e.HasNames) {cs : List Element}
    (hc : ∀ c ∈ cs, c.Every HasNames) : Every HasNames { e with children := cs } := .intro h hc

lemma every_hasNames_syncSet (x : ViewIndex) {set : Element} (h : set.Every HasNames)
    (r : Report) : (syncSet x set r).1.Every HasNames := by
  have hc := forall_children_foldl (P := Every HasNames) (s := (set, r))
    (fun c hc _ => .intro hc.here hc.inside)
    (fun kind name => .intro (hasNames_newEntry kind name) (by simp [newEntry])) h.inside
    (wanted x.views)
  obtain ⟨cs, hcs⟩ := foldl_ensureWanted_eq (set, r) (wanted x.views)
  rw [hcs] at hc
  rw [syncSet, hcs]
  exact every_withChildren h.here hc

lemma every_hasNames_sync {theme : Element} (h : theme.Every HasNames) (x : ViewIndex)
    (name : String) : (sync theme x name).1.Every HasNames := by
  have hi := h.inside
  cases hf : theme.findChild? "property-set" name with
  | some set =>
    obtain ⟨l, r, hc, _, _, hs⟩ := sync_of_found hf x
    rw [hc, List.forall_mem_append, List.forall_mem_cons] at hi
    obtain ⟨hl, hset, hr⟩ := hi
    rw [hs]
    apply every_withChildren h.here
    exact List.forall_mem_append.mpr
      ⟨hl, List.forall_mem_cons.mpr ⟨every_hasNames_syncSet x hset {}, hr⟩⟩
  | none =>
    have hnew : (newSet name).Every HasNames := .intro (hasNames_newSet name) (by simp [newSet])
    rw [(sync_of_missing hf x).2]
    apply every_withChildren h.here
    exact List.forall_mem_append.mpr
      ⟨hi, List.forall_mem_singleton.mpr (every_hasNames_syncSet x hnew _)⟩

lemma every_hasNames_create (name base : String) : (create name base).HasNames := by
  have hk : Assoc.keys (create name base).root.attributes.entries = ["name", "extend"] := rfl
  refine .intro ⟨?_, ?_⟩ (by simp [create])
  · exact show IsName "theme" by decide
  · intro k hk'
    rw [hk] at hk'
    rcases List.mem_cons.mp hk' with rfl | hk'
    · decide
    · obtain rfl := List.mem_singleton.mp hk'
      decide

end Names

end LayoutSync.Theme
