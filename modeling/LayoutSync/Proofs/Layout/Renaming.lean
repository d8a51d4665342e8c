import LayoutSync.Proofs.Layout.AttributeEdits

namespace LayoutSync

namespace Assoc

variable {κ α : Type} [DecidableEq κ] {j k : κ} {l : List (κ × α)}

lemma mem_keys_put {v : α} : j ∈ keys (put k v l) ↔ j = k ∨ j ∈ keys l := by
  by_cases hk : k ∈ keys l
  · rw [keys_put_of_mem hk]
    constructor
    · exact .inr
    · rintro (rfl | hj) <;> assumption
  · rw [put_of_not_mem hk]
    simp [keys, or_comm]

lemma put_put_self (k : κ) (v w : α) (l : List (κ × α)) : put k w (put k v l) = put k w l := by
  induction l with
  | nil => simp [put]
  | cons e r ih => by_cases he : e.1 = k <;> simp [put, he, ih]

lemma put_put_of_mem (h : j ≠ k) (v w : α) (hk : k ∈ keys l) :
    put k w (put j v l) = put j v (put k w l) := by
  induction l with
  | nil => cases hk
  | cons e r ih =>
    by_cases he : e.1 = k
    · simp [put, he, h.symm]
    · by_cases hj : e.1 = j
      · simp [put, hj, h]
      · simp [put, he, hj, ih (by simpa [Ne.symm he] using hk)]

end Assoc

namespace Layout

open Markup

section Names

def nameEntries (name : String) (l : List (String × String)) : List (String × String) :=
  Assoc.put "layout" (reference name) (Assoc.put "propertySetName" name (Assoc.put "id" name l))

lemma setAttr_eq_put (e : Element) (k v : String) :
    (e.setAttr k v).1 = { e with attributes := e.attributes.put k v } := by
  unfold Element.setAttr
  split
  next h =>
    have hp : e.attributes.put k v = e.attributes := Dict.ext (Assoc.put_of_get? h)
    rw [hp]
    cases e
    rfl
  · rfl

lemma entries_settleRoot (e : Element) (name : String) :
    (settleRoot e name).1.attributes.entries = nameEntries name e.attributes.entries := by
  unfold settleRoot followedBy
  dsimp only
  rw [setAttr_eq_put, setAttr_eq_put, setAttr_eq_put]
  rfl

lemma nameEntries_nameEntries (a b : String) (l : List (String × String)) :
    nameEntries b (nameEntries a l) = nameEntries b l := by
  have hid : ∀ m : List (String × String), "id" ∈ Assoc.keys (Assoc.put "id" a m) :=
    fun _ => Assoc.mem_keys_put.mpr (.inl rfl)
  have hset : ∀ m : List (String × String),
      "propertySetName" ∈ Assoc.keys (Assoc.put "propertySetName" a m) :=
    fun _ => Assoc.mem_keys_put.mpr (.inl rfl)
  -- Each put of the second name is moved inwards to the put of the first one that it replaces.
  calc nameEntries b (nameEntries a l)
    _ = Assoc.put "layout" (reference b) (Assoc.put "propertySetName" b
          (Assoc.put "layout" (reference a) (Assoc.put "propertySetName" a
            (Assoc.put "id" b l)))) := by
      unfold nameEntries
      rw [Assoc.put_put_of_mem (by decide) _ _ (Assoc.mem_keys_put.mpr (.inr (hid l))),
        Assoc.put_put_of_mem (by decide) _ _ (hid l), Assoc.put_put_self]
    _ = nameEntries b l := by
      rw [Assoc.put_put_of_mem (by decide) _ _ (hset _), Assoc.put_put_self, Assoc.put_put_self]
      rfl

lemma settleRoot_named (e : Element) (a b : String) (cs : List Element) :
    (settleRoot { (settleRoot e a).1 with children := cs } b).1 =
      { (settleRoot e b).1 with children := cs } := by
  have hb := settleRoot_eq { (settleRoot e a).1 with children := cs } b
  have hd : (settleRoot { (settleRoot e a).1 with children := cs } b).1.attributes =
      (settleRoot e b).1.attributes := by
    apply Dict.ext
    rw [entries_settleRoot, entries_settleRoot, entries_settleRoot, nameEntries_nameEntries]
  rw [hb, hd, settleRoot_eq e a, settleRoot_eq e b]

lemma settle_settle (e : Element) : (settle (settle e).1).1 = (settle e).1 := by
  rw [settle_eq_self (every_isSettled_settle e)]

end Names

section Changes

/-- In some place both have an element, and an attribute of one is not that of the other. -/
def DifferSomewhere (a b : Element) : Prop :=
  ∃ (p : Place) (c d : Element) (k : String),
    elementAt? a p = some c ∧ elementAt? b p = some d ∧ c.attr k ≠ d.attr k

lemma DifferSomewhere.ne {a b : Element} (h : DifferSomewhere a b) : a ≠ b := by
  rintro rfl
  obtain ⟨p, c, d, k, hc, hd, hne⟩ := h
  obtain rfl := Option.some.inj (hc.symm.trans hd)
  exact hne rfl

lemma DifferSomewhere.inside {a b c d : Element} {i : Nat} (hc : a.children[i]? = some c)
    (hd : b.children[i]? = some d) (h : DifferSomewhere c d) : DifferSomewhere a b := by
  obtain ⟨p, c', d', k, hc', hd', hne⟩ := h
  exact ⟨i :: p, c', d', k, by simp [elementAt?, hc, hc'], by simp [elementAt?, hd, hd'], hne⟩

lemma exists_attr_ne_of_settleAttributes {e : Element} (h : (settleAttributes e).2 = true) :
    ∃ k, e.attr k ≠ (settleAttributes e).1.attr k := by
  by_contra hn
  simp only [ne_eq, not_exists, not_not] at hn
  obtain ⟨hs, hl⟩ := isSettled_settleAttributes e
  have hleaf : (settleAttributes e).1.isLeaf = e.isLeaf := by
    rw [settleAttributes_eq]
    rfl
  have hsettled : IsSettled e := by
    refine ⟨(hn _).trans hs, ?_⟩
    rw [hn, hl, hleaf, id_eq_of_attr (hn "id")]
  rw [settleAttributes_eq_self hsettled] at h
  cases h

lemma exists_attr_ne_of_settleRoot {e : Element} {name : String} (h : (settleRoot e name).2 = true) :
    ∃ k, e.attr k ≠ (settleRoot e name).1.attr k := by
  by_contra hn
  simp only [ne_eq, not_exists, not_not] at hn
  obtain ⟨hi, hs, hl⟩ := isSettledRoot_settleRoot e name
  have hsettled : IsSettledRoot e name := ⟨(hn _).trans hi, (hn _).trans hs, (hn _).trans hl⟩
  rw [settleRoot_eq_self hsettled] at h
  cases h

lemma differSomewhere_children {a b : Element} (hb : b.children = a.children.map fun c => (settle c).1)
    (hd : ∀ c ∈ a.children, (settle c).2 = true → DifferSomewhere c (settle c).1)
    (h : (a.children.any fun c => (settle c).2) = true) : DifferSomewhere a b := by
  obtain ⟨c, hc, hs⟩ := List.any_eq_true.mp h
  obtain ⟨i, hi⟩ := List.getElem?_of_mem hc
  refine (hd c hc hs).inside hi ?_
  rw [hb, List.getElem?_map, hi]
  rfl

lemma differSomewhere_settle {e : Element} (h : (settle e).2 = true) :
    DifferSomewhere e (settle e).1 := by
  induction e using Element.induction with
  | step e ih =>
    rw [settle_eq] at h ⊢
    rcases Bool.or_eq_true_iff.mp h with h | h
    · obtain ⟨k, hk⟩ := exists_attr_ne_of_settleAttributes h
      exact ⟨[], _, _, k, rfl, rfl, hk⟩
    · exact differSomewhere_children rfl ih h

lemma differSomewhere_normalize {root : Element} {name : String}
    (h : (normalize root name).2 = true) : DifferSomewhere root (normalize root name).1 := by
  rw [normalize_eq] at h ⊢
  rcases Bool.or_eq_true_iff.mp h with h | h
  · obtain ⟨k, hk⟩ := exists_attr_ne_of_settleRoot h
    exact ⟨[], _, _, k, rfl, rfl, hk⟩
  · exact differSomewhere_children rfl (fun _ _ => differSomewhere_settle) h

end Changes

/-- The name of the last pass stays, down to the order of attributes, and a pass says that it changed the
layout exactly if it did: then some attribute differs, in whatever order attributes stand. So a second
pass with the same name says that it changed nothing. -/
theorem normalize_normalize (root : Element) (a b : String) :
    (normalize (normalize root a).1 b).1 = (normalize root b).1 ∧
      ((normalize root a).2 = true ↔ (normalize root a).1 ≠ root) ∧
      ((normalize root a).2 = true ↔ DifferSomewhere root (normalize root a).1) ∧
      normalize (normalize root a).1 a = ((normalize root a).1, false) := by
  have hexact : (normalize root a).1 ≠ root → (normalize root a).2 = true := by
    intro hne
    by_contra hf
    exact hne (honest_normalize a root (by simpa using hf))
  refine ⟨?_, ⟨fun h => (differSomewhere_normalize h).ne.symm, hexact⟩,
    ⟨differSomewhere_normalize, fun h => hexact h.ne.symm⟩,
    normalize_eq_self (isCanonical_normalize root a)⟩
  have hcs : ((normalize root a).1.children.map fun c => (settle c).1) =
      root.children.map fun c => (settle c).1 := by
    rw [normalize_eq, List.map_map]
    exact List.map_congr_left fun c _ => settle_settle c
  rw [normalize_eq (normalize root a).1, hcs, normalize_eq root a, settleRoot_named, normalize_eq root b]

end Layout

end LayoutSync
