import LayoutSync.Proofs.Layout.Occurrences

namespace LayoutSync.Layout

open Markup

def repetitions (l : List String) : List String :=
  (l.zipIdx.filter fun a => a.1 ∈ l.take a.2).map Prod.fst

lemma eraseDups_concat {α : Type} [BEq α] [LawfulBEq α] (l : List α) (a : α) :
    (l ++ [a]).eraseDups = l.eraseDups ++ if a ∈ l then [] else [a] := by
  rw [List.eraseDups_append]
  by_cases h : a ∈ l <;> simp [List.removeAll, List.eraseDups_cons, h]

section Repetitions

variable (l : List String) (a : String)

lemma repetitions_concat : repetitions (l ++ [a]) = repetitions l ++ if a ∈ l then [a] else [] := by
  have ht : l.zipIdx.filter (fun b => b.1 ∈ (l ++ [a]).take b.2) =
      l.zipIdx.filter fun b => b.1 ∈ l.take b.2 := by
    apply List.filter_congr
    intro b hb
    have hl := (List.getElem?_eq_some_iff.mp (List.mem_zipIdx_iff_getElem?.mp hb)).1
    rw [List.take_append_of_le_length hl.le]
  rw [repetitions, List.zipIdx_append, List.filter_append, List.map_append, ht]
  by_cases h : a ∈ l <;> simp [repetitions, h]

lemma length_eraseDups_add : l.eraseDups.length + (repetitions l).length = l.length := by
  induction l using List.reverseRecOn with
  | nil => rfl
  | append_singleton l a ih =>
    rw [eraseDups_concat, repetitions_concat]
    by_cases h : a ∈ l <;> simp [h] <;> omega

end Repetitions

namespace Identities

lemma ofVisits_concat (vs : List Visit) (v : Visit) :
    ofVisits (vs ++ [v]) = (ofVisits vs).add (v, vs.length) := by
  rw [ofVisits, List.zipIdx_append, List.foldl_append]
  simp [ofVisits]

lemma keys_add (i : Identities) (v : Visit × Nat) :
    (i.add v).slots.keys = i.slots.keys ++
      (v.1.element.id.elim [] fun id => if id ∈ i.slots.keys then [] else [id]) ∧
    (i.add v).duplicates = i.duplicates ++
      (v.1.element.id.elim [] fun id => if id ∈ i.slots.keys then [id] else []) := by
  unfold add
  cases v.1.element.id with
  | none => simp
  | some id =>
    have hc : i.slots.contains id = true ↔ id ∈ i.slots.keys := by
      rw [← not_iff_not, Bool.not_eq_true, Dict.contains, Option.isSome_eq_false_iff,
        Option.isNone_iff_eq_none]
      exact Assoc.get?_eq_none_iff
    by_cases h : id ∈ i.slots.keys
    · simp [hc.mpr h, h]
    · have hp : (i.slots.put id v.2).keys = i.slots.keys ++ [id] := by
        have hput := congrArg Assoc.keys (Assoc.put_of_not_mem (v := v.2) h)
        rwa [Assoc.keys, Assoc.keys, List.map_append] at hput
      simp [mt hc.mp h, h, hp]

lemma keys_ofVisits (vs : List Visit) :
    (ofVisits vs).slots.keys = (vs.filterMap (·.element.id)).eraseDups ∧
      (ofVisits vs).duplicates = repetitions (vs.filterMap (·.element.id)) := by
  induction vs using List.reverseRecOn with
  | nil => exact ⟨rfl, rfl⟩
  | append_singleton vs v ih =>
    rw [ofVisits_concat, (keys_add _ _).1, (keys_add _ _).2, ih.1, ih.2, List.filterMap_append]
    cases hv : v.element.id with
    | none => simp [hv]
    | some id =>
      have hm : [v].filterMap (·.element.id) = [id] := by simp [hv]
      rw [hm, eraseDups_concat, repetitions_concat]
      simp only [Option.elim_some, List.mem_eraseDups, and_self]

end Identities

section Slots

variable {root : Element} {policy : ParentPolicy} {k : Nat} {id : String}

lemma ids_visits (root : Element) : (visits root).map (·.element.id) =
    (occurrences root).map (·.element.id) := by
  rw [← List.forall₂_eq_eq_eq, List.forall₂_map_left_iff, List.forall₂_map_right_iff]
  refine (forall₂_visits root).imp fun v o h => ?_
  rw [h.element, id_grouped]

lemma getElem?_records : (ViewIndex.ofLayout root policy).records[k]? =
    ((visits root)[k]?).map fun v => ViewIndex.record policy (Identities.ofVisits (visits root))
      ((Identities.ofVisits (visits root)).owners (visits root)) (v, k) := by
  simp only [ViewIndex.ofLayout, List.getElem?_map, List.getElem?_zipIdx, Option.map_map, Nat.zero_add]
  rfl

lemma length_records (policy : ParentPolicy) : (ViewIndex.ofLayout root policy).records.length =
    (occurrences root).length := by
  simp [ViewIndex.ofLayout, (forall₂_visits root).length_eq]

lemma slots_get? (policy : ParentPolicy) : (ViewIndex.ofLayout root policy).slots.get? id =
    (occurrences root).findIdx? (·.element.id = some id) := by
  have hf : (visits root).findIdx? (·.element.id = some id) =
      (occurrences root).findIdx? (·.element.id = some id) := by
    have h := congrArg (List.findIdx? (· = some id)) (ids_visits root)
    rw [List.findIdx?_map, List.findIdx?_map] at h
    exact h
  have hs : (ViewIndex.ofLayout root policy).slots = (Identities.ofVisits (visits root)).slots := rfl
  rw [hs, Identities.get?_ofVisits, ← hf, List.findIdx?_eq_fst_find?_zipIdx]
  rfl

lemma mem_slots {slot : Nat} : (id, slot) ∈ (ViewIndex.ofLayout root policy).slots.entries ↔
    (occurrences root).findIdx? (·.element.id = some id) = some slot := by
  rw [← slots_get? policy]
  exact (Assoc.get?_eq_some_iff (ViewIndex.ofLayout root policy).slots.nodup_keys).symm

lemma exists_record_of_slot (policy : ParentPolicy) {slot : Nat}
    (h : (id, slot) ∈ (ViewIndex.ofLayout root policy).slots.entries) :
    ∃ r, (ViewIndex.ofLayout root policy).records[slot]? = some r := by
  obtain ⟨hl, _⟩ := List.findIdx?_eq_some_iff_getElem.mp (mem_slots.mp h)
  rw [← length_records policy] at hl
  exact ⟨_, List.getElem?_eq_getElem hl⟩

lemma filterMap_records {es : List (String × Nat)}
    (he : ∀ e ∈ es, e ∈ (ViewIndex.ofLayout root policy).slots.entries) :
    (es.filterMap fun e => (ViewIndex.ofLayout root policy).records[e.2]?).map some =
      (es.map Prod.fst).map (ViewIndex.ofLayout root policy).get? := by
  induction es with
  | nil => rfl
  | cons e es ih =>
    obtain ⟨r, hr⟩ := exists_record_of_slot policy (he e List.mem_cons_self)
    have hg : (ViewIndex.ofLayout root policy).get? e.1 = some r := by
      rw [ViewIndex.get?, slots_get?, mem_slots.mp (he e List.mem_cons_self)]
      exact hr
    have ht := ih fun d hd => he d (List.mem_cons_of_mem _ hd)
    simp only [List.filterMap_cons, hr, List.map_cons, hg, ht]

lemma views_eq (root : Element) (policy : ParentPolicy) :
    (ViewIndex.ofLayout root policy).views.map some =
      (ViewIndex.ofLayout root policy).ids.map (ViewIndex.ofLayout root policy).get? := by
  rw [ViewIndex.views, Dict.values, List.filterMap_map]
  exact filterMap_records fun _ he => he

end Slots

/-- The record is that of an element like this one; empty values count as none. -/
structure Record.Describes (r : Record) (e : Element) : Prop where
  id : r.id = ((e.attr "id").filter (· ≠ "")).getD ""
  tag : r.tag = e.tag
  attributes : r.attributes = e.attributes
  isLeaf : r.isLeaf = e.children.isEmpty
  layout : r.layout = (e.attr "layout").filter (· ≠ "")
  propertySetName : r.propertySetName = (e.attr "propertySetName").filter (· ≠ "")
  tagAttribute : r.tagAttribute = (e.attr "tag").filter (· ≠ "")

lemma isEmpty_regroup (cs : List Element) : (regroup cs).isEmpty = cs.isEmpty := by
  rw [Bool.eq_iff_iff, List.isEmpty_iff, List.isEmpty_iff, List.eq_nil_iff_forall_not_mem,
    List.eq_nil_iff_forall_not_mem]
  simp only [mem_regroup]

lemma describes_record {policy : ParentPolicy} {i : Identities}
    {owners : List (String × Nat × Option Nat)} {v : Visit × Nat} {e : Element}
    (h : v.1.element = grouped e) : (ViewIndex.record policy i owners v).Describes e := by
  have hl : (grouped e).isLeaf = e.children.isEmpty := by
    rw [grouped_eq, Element.isLeaf, isEmpty_regroup, List.isEmpty_map]
  unfold ViewIndex.record
  rw [h]
  refine ⟨?_, ?_, ?_, hl, ?_, ?_, ?_⟩ <;> rw [grouped_eq] <;> rfl

lemma forall₂_records (root : Element) (policy : ParentPolicy) :
    List.Forall₂ (fun r o => r.Describes o.element) (ViewIndex.ofLayout root policy).records
      (occurrences root) := by
  have h := forall₂_visits root
  rw [← List.zipIdx_map_fst 0 (visits root), List.forall₂_map_left_iff] at h
  exact List.forall₂_map_left_iff.mpr (h.imp fun v o hv => describes_record hv.element)

lemma describes_of_slot {root : Element} {policy : ParentPolicy} {k : Nat} {r : Record}
    {o : Occurrence} (hr : (ViewIndex.ofLayout root policy).records[k]? = some r)
    (ho : (occurrences root)[k]? = some o) : r.Describes o.element := by
  obtain ⟨hk, rfl⟩ := List.getElem?_eq_some_iff.mp hr
  obtain ⟨hk', rfl⟩ := List.getElem?_eq_some_iff.mp ho
  exact (forall₂_records root policy).get hk hk'

/-- An index neither loses nor doubles an element of the layout. -/
theorem ofLayout_enumerates (root : Element) (policy : ParentPolicy) :
    let os := occurrences root
    let ids := os.filterMap (·.element.id)
    let x := ViewIndex.ofLayout root policy
    ((os.map (·.place)).Nodup ∧ ∀ o, o ∈ os ↔ elementAt? root o.place = some o.element) ∧
    List.Forall₂ (fun r o => r.Describes o.element) x.records os ∧
    (∀ k r, x.records[k]? = some r → (r.isRoot = true ↔ k = 0)) ∧
    x.ids = ids.eraseDups ∧ x.duplicates = repetitions ids ∧
    (∀ id, x.get? id = (os.findIdx? (·.element.id = some id)).bind (x.records[·]?)) ∧
    (∀ id, x.get? id = none ↔ ∀ o ∈ os, o.element.id ≠ some id) ∧
    x.views.map some = x.ids.map x.get? ∧
    ((x.leaves ++ x.containers).Perm x.views ∧ x.leaves.Sublist x.views ∧
      x.containers.Sublist x.views ∧ (∀ r ∈ x.leaves, r.isLeaf = true) ∧
      ∀ r ∈ x.containers, r.isLeaf = false) ∧
    x.size + x.duplicates.length = ids.length := by
  intro os ids x
  have hids : (visits root).filterMap (·.element.id) = ids := by
    have h := congrArg (List.filterMap fun id => id) (ids_visits root)
    rwa [List.filterMap_map, List.filterMap_map] at h
  obtain ⟨hk, hd⟩ := Identities.keys_ofVisits (visits root)
  rw [hids] at hk hd
  have hget : ∀ id, x.get? id = (os.findIdx? (·.element.id = some id)).bind (x.records[·]?) :=
    fun id => by rw [ViewIndex.get?, slots_get?]
  refine ⟨⟨nodup_places, fun o => mem_occurrences⟩, forall₂_records root policy, fun k r hr => ?_,
    hk, hd, hget, fun id => ?_, views_eq root policy, ?_, ?_⟩
  · obtain ⟨v, _, rfl⟩ := Option.map_eq_some_iff.mp (getElem?_records.symm.trans hr)
    exact decide_eq_true_iff
  · have hn : (∀ o ∈ os, o.element.id ≠ some id) ↔
        os.findIdx? (·.element.id = some id) = none := by
      simp [List.findIdx?_eq_none_iff]
    rw [hn, hget]
    cases hf : os.findIdx? (·.element.id = some id) with
    | none => simp
    | some slot =>
      obtain ⟨r, hr⟩ := exists_record_of_slot policy (mem_slots.mpr hf)
      simpa using (List.getElem?_eq_some_iff.mp hr).1
  · refine ⟨List.filter_append_perm _ _, List.filter_sublist, List.filter_sublist, ?_, ?_⟩
    · exact fun r hr => (List.mem_filter.mp hr).2
    · exact fun r hr => by simpa using (List.mem_filter.mp hr).2
  · have hs : x.size = ids.eraseDups.length := (List.length_map _).symm.trans (congrArg _ hk)
    have hx : x.duplicates = repetitions ids := hd
    rw [hs, hx, length_eraseDups_add]

end LayoutSync.Layout
