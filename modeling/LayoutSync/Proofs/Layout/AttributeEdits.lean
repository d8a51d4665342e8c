import LayoutSync.Proofs.Layout.CanonicalForm
import LayoutSync.Proofs.Layout.Occurrences

namespace LayoutSync.Layout

open Markup

/-- Attributes that were set or removed under the keys only. Those that stay keep their order, one
that gets another value keeps its place, and new ones come last, in the order of the keys. -/
structure Edits (keys : List String) (before after : Dict String) : Prop where
  others : ∀ k, k ∉ keys → after.get? k = before.get? k
  order : after.keys = before.keys.filter (· ∈ after.keys) ++
    keys.filter fun k => k ∈ after.keys ∧ k ∉ before.keys

section Edits

variable {ks js : List String} {a b c : Dict String}

lemma Edits.mem_keys (h : Edits ks a b) {k : String} (hk : k ∉ ks) : k ∈ b.keys ↔ k ∈ a.keys := by
  have hn : ∀ d : Dict String, d.get? k = none ↔ k ∉ d.keys := fun _ => Assoc.get?_eq_none_iff
  rw [← not_iff_not, ← hn, ← hn, h.others k hk]

lemma Edits.refl (ks : List String) (a : Dict String) : Edits ks a a := by
  refine ⟨fun _ _ => rfl, ?_⟩
  have hn : (ks.filter fun k => k ∈ a.keys ∧ k ∉ a.keys) = [] := by simp
  rw [hn, List.append_nil, List.filter_eq_self.mpr (by simp)]

lemma edits_put (a : Dict String) (k v : String) : Edits [k] a (a.put k v) := by
  refine ⟨fun j hj => Assoc.get?_put_of_ne v a.entries (by simpa using hj), ?_⟩
  by_cases hk : k ∈ a.keys
  · have hp : (a.put k v).keys = a.keys := Assoc.keys_put_of_mem hk
    rw [hp]
    exact (Edits.refl [k] a).order
  · have hp : (a.put k v).keys = a.keys ++ [k] :=
      (congrArg Assoc.keys (Assoc.put_of_not_mem hk)).trans (by simp [Assoc.keys, Dict.keys])
    rw [hp, List.filter_eq_self.mpr fun j hj => by simp [hj]]
    simp [hk]

lemma edits_erase (a : Dict String) (k : String) : Edits [k] a (a.erase k) := by
  refine ⟨fun j hj => Assoc.get?_erase_of_ne a.entries (by simpa using hj), ?_⟩
  have he : (a.erase k).keys = a.keys.filter (· ≠ k) := by
    simp [Dict.keys, Dict.erase, Assoc.erase, Assoc.keys, List.filter_map, Function.comp_def]
  have hn : ([k].filter fun j => j ∈ (a.erase k).keys ∧ j ∉ a.keys) = [] := by simp [he]
  rw [hn, List.append_nil, he]
  refine List.filter_congr fun j hj => ?_
  simp [hj]

lemma Edits.trans (h : Edits ks a b) (h' : Edits js b c) (hd : ks.Disjoint js) :
    Edits (ks ++ js) a c := by
  refine ⟨fun k hk => ?_, ?_⟩
  · simp only [List.mem_append, not_or] at hk
    rw [h'.others k hk.2, h.others k hk.1]
  · have hc : ∀ k ∈ ks, (k ∈ c.keys ↔ k ∈ b.keys) := fun k hk => h'.mem_keys (hd hk)
    have hold : (a.keys.filter (· ∈ b.keys)).filter (· ∈ c.keys) = a.keys.filter (· ∈ c.keys) := by
      rw [List.filter_filter]
      refine List.filter_congr fun k hk => ?_
      -- An old key that is gone in between is one of `ks`, so it does not come back.
      by_cases hks : k ∈ ks
      · simp [hc k hks]
      · simp [h.mem_keys hks, hk]
    have hfirst : (ks.filter fun k => k ∈ b.keys ∧ k ∉ a.keys).filter (· ∈ c.keys) =
        ks.filter fun k => k ∈ c.keys ∧ k ∉ a.keys := by
      rw [List.filter_filter]
      refine List.filter_congr fun k hk => ?_
      simp [hc k hk]
    have hlast : (js.filter fun k => k ∈ c.keys ∧ k ∉ b.keys) =
        js.filter fun k => k ∈ c.keys ∧ k ∉ a.keys := by
      refine List.filter_congr fun k hk => ?_
      simp [h.mem_keys fun hks => hd hks hk]
    have hb : b.keys.filter (· ∈ c.keys) = a.keys.filter (· ∈ c.keys) ++
        ks.filter fun k => k ∈ c.keys ∧ k ∉ a.keys := by
      rw [h.order, List.filter_append, hold, hfirst]
    rw [List.filter_append, ← List.append_assoc, ← hb, ← hlast]
    exact h'.order

end Edits

section Element

variable (e : Element)

lemma edits_setAttr (k v : String) : Edits [k] e.attributes (e.setAttr k v).1.attributes := by
  unfold Element.setAttr
  split
  · exact .refl [k] e.attributes
  · exact edits_put e.attributes k v

lemma edits_removeAttr (k : String) : Edits [k] e.attributes (e.removeAttr k).1.attributes := by
  unfold Element.removeAttr
  split
  · exact edits_erase e.attributes k
  · exact .refl [k] e.attributes

lemma edits_settleAttributes :
    Edits ["propertySetName", "layout"] e.attributes (settleAttributes e).1.attributes := by
  have hr := edits_removeAttr e "propertySetName"
  have hd : ["propertySetName"].Disjoint ["layout"] := by simp
  unfold settleAttributes followedBy
  dsimp only
  split
  · exact hr.trans (edits_removeAttr _ "layout") hd
  · split
    · exact hr.trans (edits_setAttr _ "layout" _) hd
    · exact hr.trans (edits_removeAttr _ "layout") hd

lemma edits_settleRoot (name : String) :
    Edits ["id", "propertySetName", "layout"] e.attributes (settleRoot e name).1.attributes :=
  ((edits_setAttr e "id" name).trans (edits_setAttr _ "propertySetName" name) (by simp)).trans
    (edits_setAttr _ "layout" (reference name)) (by simp)

end Element

structure EditedUnder (keys : List String) (e e' : Element) : Prop where
  tag : e'.tag = e.tag
  text : e'.text = e.text
  tail : e'.tail = e.tail
  attributes : Edits keys e.attributes e'.attributes

lemma editedUnder_settle (e : Element) (p : Place) :
    Option.Rel (EditedUnder ["propertySetName", "layout"]) (elementAt? e p)
      (elementAt? (settle e).1 p) := by
  induction p generalizing e with
  | nil =>
    refine .some ?_
    rw [settle_eq, settleAttributes_eq]
    exact ⟨rfl, rfl, rfl, edits_settleAttributes e⟩
  | cons i p ih =>
    rw [settle_eq, elementAt?, elementAt?, List.getElem?_map]
    cases e.children[i]? with
    | none => exact .none
    | some c => exact ih c

/-- Normalizing brings a layout into its canonical form and changes nothing else. There are elements
in the same places as before, and each is as it was but for the attributes of the form. -/
theorem normalize_edits (root : Element) (name : String) :
    let root' := (normalize root name).1
    IsCanonical root' name ∧
      Option.Rel (EditedUnder ["id", "propertySetName", "layout"]) (elementAt? root [])
        (elementAt? root' []) ∧
      ∀ p, p ≠ [] → Option.Rel (EditedUnder ["propertySetName", "layout"]) (elementAt? root p)
        (elementAt? root' p) := by
  refine ⟨isCanonical_normalize root name, ?_, fun p hp => ?_⟩
  · refine .some ?_
    rw [normalize_eq, settleRoot_eq]
    exact ⟨rfl, rfl, rfl, edits_settleRoot root name⟩
  · obtain ⟨i, p, rfl⟩ := List.exists_cons_of_ne_nil hp
    rw [normalize_eq, elementAt?, elementAt?, List.getElem?_map]
    cases root.children[i]? with
    | none => exact .none
    | some c => exact editedUnder_settle c p

end LayoutSync.Layout
