import LayoutSync.Proofs.Layout.AttributeEdits
import LayoutSync.Proofs.Layout.Flattening

namespace LayoutSync.Layout

open Markup

/-- What the record of an element below the root says of itself in a canonical layout. -/
structure Record.IsSettled (r : Record) : Prop where
  noSet : r.hasPropertySet = false
  hasLayout : r.hasLayout = true ↔ r.isLeaf = false ∧ r.id ≠ ""
  layout : r.hasLayout = true → r.layout = some (reference r.id)

structure Record.IsSettledRoot (r : Record) (name : String) : Prop where
  isRoot : r.isRoot = true
  id : r.id = name
  set : r.propertySetName = some name
  layout : r.layout = some (reference name)

section Records

variable {e : Element} {r : Record} {name : String}

lemma reference_ne_empty (id : String) : reference id ≠ "" := by
  unfold reference
  rw [Ne, ← String.toList_inj]
  simp

lemma IsSettled.record (h : IsSettled e) (hd : r.Describes e) : r.IsSettled := by
  have hid : r.id = e.id.getD "" := hd.id
  have hleaf : r.isLeaf = e.isLeaf := hd.isLeaf
  have hlayout : r.layout = if e.isLeaf then none else e.id.map reference := by
    rw [hd.layout, h.layout]
    cases e.isLeaf with
    | true => rfl
    | false => cases e.id <;> simp [reference_ne_empty]
  have hne : ∀ id, e.id = some id → id ≠ "" := fun id he => by
    simpa using (Option.filter_eq_some_iff.mp he).2
  refine ⟨?_, ?_, ?_⟩
  · rw [Record.hasPropertySet, hd.propertySetName, h.noSet]
    rfl
  · rw [Record.hasLayout, hlayout, hleaf, hid]
    cases e.isLeaf with
    | true => simp
    | false =>
      cases he : e.id with
      | none => simp
      | some id => simp [hne id he]
  · rw [Record.hasLayout, hlayout, hid]
    cases e.isLeaf with
    | true => simp
    | false => cases e.id <;> simp

lemma IsSettledRoot.record (h : IsSettledRoot e name) (hn : name ≠ "") (hd : r.Describes e)
    (hr : r.isRoot = true) : r.IsSettledRoot name := by
  refine ⟨hr, ?_, ?_, ?_⟩
  · rw [hd.id, h.id]
    simp [Option.filter, hn]
  · rw [hd.propertySetName, h.set]
    simp [hn]
  · rw [hd.layout, h.layout]
    simp [reference_ne_empty]

end Records

section Occurrences

variable {root : Element} {name : String}

lemma every_iff_elementAt? {P : Element → Prop} {e : Element} :
    e.Every P ↔ ∀ p c, elementAt? e p = some c → P c := by
  constructor
  · intro h p
    induction p generalizing e with
    | nil =>
      intro c hc
      exact Option.some.inj hc ▸ h.here
    | cons i p ih =>
      intro c hc
      obtain ⟨d, hd, hc⟩ := Option.bind_eq_some_iff.mp hc
      exact ih (h.inside d (List.mem_of_getElem? hd)) c hc
  · intro h
    induction e using Element.induction with
    | step e ih =>
      refine .intro (h [] e rfl) fun c hc => ih c hc fun p d hd => ?_
      obtain ⟨i, hi⟩ := List.getElem?_of_mem hc
      exact h (i :: p) d (by simp [elementAt?, hi, hd])

lemma IsCanonical.isSettled (h : IsCanonical root name) {p : Place} {e : Element} (hp : p ≠ [])
    (he : elementAt? root p = some e) : IsSettled e := by
  obtain ⟨i, p, rfl⟩ := List.exists_cons_of_ne_nil hp
  obtain ⟨c, hc, he⟩ := Option.bind_eq_some_iff.mp he
  exact every_iff_elementAt?.mp (h.2 c (List.mem_of_getElem? hc)) p e he

lemma exists_occurrences_eq (root : Element) :
    ∃ os, occurrences root = ⟨[], root⟩ :: os ∧ ∀ o ∈ os, o.place ≠ [] := by
  refine ⟨_, occurrencesFrom_eq [] root, fun o ho => ?_⟩
  obtain ⟨c, _, ho⟩ := List.mem_flatMap.mp ho
  obtain ⟨q, hq, _⟩ := mem_occurrencesFrom.mp ho
  rw [hq]
  simp

lemma ids_ofLayout (root : Element) (policy : ParentPolicy) :
    (ViewIndex.ofLayout root policy).ids =
      ((occurrences root).filterMap (·.element.id)).eraseDups := by
  have hv := congrArg (List.filterMap fun id => id) (ids_visits root)
  rw [List.filterMap_map, List.filterMap_map] at hv
  exact (Identities.keys_ofVisits (visits root)).1.trans (congrArg List.eraseDups hv)

lemma mem_ids_iff {policy : ParentPolicy} {id : String} :
    id ∈ (ViewIndex.ofLayout root policy).ids ↔
      ∃ p e, elementAt? root p = some e ∧ e.id = some id := by
  rw [ids_ofLayout, List.mem_eraseDups, List.mem_filterMap]
  constructor
  · rintro ⟨o, ho, hid⟩
    exact ⟨o.place, o.element, mem_occurrences.mp ho, hid⟩
  · rintro ⟨p, e, he, hid⟩
    exact ⟨⟨p, e⟩, mem_occurrences.mpr he, hid⟩

end Occurrences

section Canonical

variable {root : Element} {name : String}

lemma IsCanonical.id_eq (h : IsCanonical root name) (hn : name ≠ "") : root.id = some name := by
  simp [Element.id, Element.nonEmptyAttr, h.1.id, hn]

lemma exists_id_normalize_iff {p : Place} (hp : p ≠ []) {id : String} :
    (∃ e, elementAt? (normalize root name).1 p = some e ∧ e.id = some id) ↔
      ∃ e, elementAt? root p = some e ∧ e.id = some id := by
  have hsame : ∀ {a b : Option Element},
      Option.Rel (EditedUnder ["propertySetName", "layout"]) a b →
        ((∃ e, b = some e ∧ e.id = some id) ↔ ∃ e, a = some e ∧ e.id = some id) := by
    rintro a b (h | _)
    · simp [id_eq_of_attr (h.attributes.others "id" (by decide))]
    · simp
  obtain ⟨i, p, rfl⟩ := List.exists_cons_of_ne_nil hp
  rw [normalize_eq, elementAt?, elementAt?, List.getElem?_map]
  cases root.children[i]? with
  | none => simp
  | some c => exact hsame (editedUnder_settle c p)

lemma IsCanonical.records_eq (h : IsCanonical root name) (hn : name ≠ "") (policy : ParentPolicy) :
    let x := ViewIndex.ofLayout root policy
    ∃ first others, x.records = first :: others ∧ first.Describes root ∧
      first.IsSettledRoot name ∧ x.ids.head? = some name ∧ x.get? name = some first ∧
      ∀ r ∈ others, r.IsSettled := by
  intro x
  obtain ⟨os, hos, hbelow⟩ := exists_occurrences_eq root
  have hrs := forall₂_records root policy
  rw [hos, List.forall₂_cons_right_iff] at hrs
  obtain ⟨first, others, hd, hothers, hx⟩ := hrs
  have h0 : x.records[0]? = some first := by rw [hx]; rfl
  have hroot : first.isRoot = true := by
    obtain ⟨v, _, rfl⟩ := Option.map_eq_some_iff.mp (getElem?_records.symm.trans h0)
    rfl
  refine ⟨first, others, hx, hd, h.1.record hn hd hroot, ?_, ?_, fun r hr => ?_⟩
  · rw [ids_ofLayout, hos]
    simp [h.id_eq hn, List.eraseDups_cons]
  · have hslot : x.slots.get? name = some 0 := by
      rw [slots_get?, hos, List.findIdx?_cons]
      simp [h.id_eq hn]
    rw [ViewIndex.get?, hslot]
    exact h0
  · obtain ⟨i, hi, rfl⟩ := List.getElem_of_mem hr
    have hi' : i < os.length := hothers.length_eq ▸ hi
    have ho : os[i] ∈ occurrences root := by simp [hos]
    exact (h.isSettled (hbelow _ (List.getElem_mem hi')) (mem_occurrences.mp ho)).record
      (hothers.get hi hi')

lemma mem_ids_normalize_iff (hn : name ≠ "") {policy : ParentPolicy} {id : String} :
    id ∈ (ViewIndex.ofLayout (normalize root name).1 policy).ids ↔
      id = name ∨ ∃ p e, p ≠ [] ∧ elementAt? root p = some e ∧ e.id = some id := by
  rw [mem_ids_iff]
  constructor
  · rintro ⟨p, e, he, hid⟩
    by_cases hp : p = []
    · subst hp
      obtain rfl := Option.some.inj he
      rw [(isCanonical_normalize root name).id_eq hn] at hid
      exact .inl (Option.some.inj hid).symm
    · obtain ⟨d, hd, hid⟩ := (exists_id_normalize_iff hp).mp ⟨e, he, hid⟩
      exact .inr ⟨p, d, hp, hd, hid⟩
  · rintro (rfl | ⟨p, e, hp, he, hid⟩)
    · exact ⟨[], _, rfl, (isCanonical_normalize root _).id_eq hn⟩
    · exact ⟨p, (exists_id_normalize_iff hp).mpr ⟨e, he, hid⟩⟩

end Canonical

end LayoutSync.Layout
