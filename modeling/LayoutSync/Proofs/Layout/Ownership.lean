import LayoutSync.Proofs.Layout.Flattening

/-!
Who owns a view. The owner of an indexed element is the nearest indexed element around it; elements
without an id and later bearers of an id are looked through. Owners and parents stand in smaller
slots than what they hold.
-/

namespace LayoutSync.Layout

open Markup

section Slots

variable (os : List Occurrence)

def IsIndexed (k : Nat) : Prop :=
  ∃ o id, os[k]? = some o ∧ o.element.id = some id ∧ ∀ o' ∈ os.take k, o'.element.id ≠ some id

def Encloses (j k : Nat) : Prop :=
  ∃ o o', os[j]? = some o ∧ os[k]? = some o' ∧ o.place <+: o'.place ∧ o.place ≠ o'.place

def EnclosesDirectly (j k : Nat) : Prop :=
  ∃ o o' i, os[j]? = some o ∧ os[k]? = some o' ∧ o'.place = o.place ++ [i]

/-- Of the indexed elements around the one in slot `k`, that in slot `j` is the nearest. -/
structure Owns (j k : Nat) : Prop where
  indexed : IsIndexed os j
  encloses : Encloses os j k
  nearest : ∀ i, IsIndexed os i → Encloses os i k → i = j ∨ Encloses os i j

def Links : ParentPolicy → Nat → Nat → Prop
  | .structural => EnclosesDirectly os
  | .nearestIdentified => Owns os

end Slots

lemma find?_eq_some_iff_of_pairwise {α : Type} {R : α → α → Prop} {P : α → Bool} {l : List α}
    {a : α} (hR : ∀ a b, R a b → ¬ R b a) (hl : l.Pairwise R) :
    l.find? P = some a ↔ a ∈ l ∧ P a = true ∧ ∀ b ∈ l, P b = true → b = a ∨ R a b := by
  induction hl with
  | nil => simp
  | @cons c l hc _ ih =>
    cases hP : P c with
    | true =>
      rw [List.find?_cons_of_pos hP]
      constructor
      · rintro h
        obtain rfl := Option.some.inj h
        refine ⟨List.mem_cons_self, hP, fun b hb _ => ?_⟩
        exact (List.mem_cons.mp hb).imp id (hc b)
      · rintro ⟨ha, -, hn⟩
        rcases List.mem_cons.mp ha with rfl | ha
        · rfl
        · rcases hn c List.mem_cons_self hP with rfl | hac
          · rfl
          · exact absurd hac (hR c a (hc a ha))
    | false =>
      rw [List.find?_cons_of_neg (by simp [hP]), ih, List.mem_cons]
      constructor
      · rintro ⟨ha, hPa, hn⟩
        refine ⟨.inr ha, hPa, fun b hb hPb => ?_⟩
        rcases List.mem_cons.mp hb with rfl | hb
        · rw [hP] at hPb
          cases hPb
        · exact hn b hb hPb
      · rintro ⟨ha, hPa, hn⟩
        rcases ha with rfl | ha
        · rw [hP] at hPa
          cases hPa
        · exact ⟨ha, hPa, fun b hb => hn b (List.mem_cons_of_mem _ hb)⟩

section Enclosing

variable {root : Element} {i j k : Nat}

lemma slot_eq_of_place {o o' : Occurrence} (h : (occurrences root)[j]? = some o)
    (h' : (occurrences root)[k]? = some o') (hp : o.place = o'.place) : j = k := by
  have hj : ((occurrences root).map (·.place))[j]? = some o.place := by
    rw [List.getElem?_map, h]
    rfl
  have hk : ((occurrences root).map (·.place))[k]? = some o.place := by
    rw [List.getElem?_map, h', hp]
    rfl
  have hl := (List.getElem?_eq_some_iff.mp hj).1
  exact (List.getElem?_inj hl nodup_places).mp (hj.trans hk.symm)

lemma Encloses.lt (h : Encloses (occurrences root) j k) : j < k := by
  obtain ⟨o, o', ho, ho', hp, hne⟩ := h
  by_contra hle
  rcases Nat.lt_or_eq_of_le (Nat.not_lt.mp hle) with hlt | rfl
  · obtain ⟨hj, rfl⟩ := List.getElem?_eq_some_iff.mp ho
    obtain ⟨hk, rfl⟩ := List.getElem?_eq_some_iff.mp ho'
    exact List.pairwise_iff_getElem.mp pairwise_occurrencesFrom k j hk hj hlt hp
  · exact hne (congrArg Occurrence.place (Option.some.inj (ho.symm.trans ho')))

lemma EnclosesDirectly.encloses {os : List Occurrence} (h : EnclosesDirectly os j k) :
    Encloses os j k := by
  obtain ⟨o, o', i, ho, ho', hp⟩ := h
  refine ⟨o, o', ho, ho', hp ▸ List.prefix_append _ _, fun he => ?_⟩
  rw [hp] at he
  simpa using congrArg List.length he

lemma Links.encloses {os : List Occurrence} {policy : ParentPolicy} (h : Links os policy j k) :
    Encloses os j k := by
  cases policy with
  | structural => exact EnclosesDirectly.encloses h
  | nearestIdentified => exact Owns.encloses h

variable {v : Visit} {o : Occurrence}

lemma Sees.places {os : List Occurrence} (hv : Sees os v o) :
    v.enclosing.map (fun slot => (os[slot]?).map (·.place)) = (around o.place).map some := by
  rw [← List.forall₂_eq_eq_eq, List.forall₂_map_left_iff, List.forall₂_map_right_iff]
  exact hv.enclosing

lemma mem_enclosing_iff (ho : (occurrences root)[k]? = some o) (hv : Sees (occurrences root) v o) :
    j ∈ v.enclosing ↔ Encloses (occurrences root) j k := by
  constructor
  · intro hj
    have hm : ((occurrences root)[j]?).map (·.place) ∈ (around o.place).map some := by
      rw [← hv.places]
      exact List.mem_map_of_mem hj
    obtain ⟨p, hp, hjp⟩ := List.mem_map.mp hm
    obtain ⟨o', ho', rfl⟩ := Option.map_eq_some_iff.mp hjp.symm
    exact ⟨o', o, ho', ho, mem_around.mp hp⟩
  · rintro ⟨o', o'', ho', ho'', hp⟩
    obtain rfl := Option.some.inj (ho.symm.trans ho'')
    have hm : some o'.place ∈ (around o.place).map some := List.mem_map_of_mem (mem_around.mpr hp)
    rw [← hv.places] at hm
    obtain ⟨s, hs, hsp⟩ := List.mem_map.mp hm
    obtain ⟨a, ha, hap⟩ := Option.map_eq_some_iff.mp hsp
    rwa [slot_eq_of_place ho' ha hap.symm]

lemma pairwise_around (p : Place) : (around p).Pairwise fun q q' => q' <+: q ∧ q' ≠ q := by
  induction p using List.reverseRecOn with
  | nil => exact .nil
  | append_singleton p i ih =>
    rw [around_concat]
    exact .cons (fun q hq => mem_around.mp hq) ih

lemma pairwise_enclosing {os : List Occurrence} (hv : Sees os v o) :
    v.enclosing.Pairwise fun i j => Encloses os j i := by
  have hp : ((around o.place).map some).Pairwise fun q q' =>
      ∃ p p', q = some p ∧ q' = some p' ∧ p' <+: p ∧ p' ≠ p :=
    List.pairwise_map.mpr ((pairwise_around o.place).imp fun h => ⟨_, _, rfl, rfl, h⟩)
  rw [← hv.places] at hp
  refine (List.pairwise_map.mp hp).imp fun {i j} => ?_
  rintro ⟨p, p', hi, hj, h⟩
  obtain ⟨a, ha, rfl⟩ := Option.map_eq_some_iff.mp hi
  obtain ⟨b, hb, rfl⟩ := Option.map_eq_some_iff.mp hj
  exact ⟨b, a, hb, ha, h⟩

lemma head?_enclosing_iff (ho : (occurrences root)[k]? = some o)
    (hv : Sees (occurrences root) v o) :
    v.enclosing.head? = some j ↔ EnclosesDirectly (occurrences root) j k := by
  -- The slots around a visit are those of the places around its own.
  have hh : v.enclosing.head?.map (fun slot => ((occurrences root)[slot]?).map (·.place)) =
      (around o.place).head?.map some := by
    rw [← List.head?_map, hv.places, List.head?_map]
  constructor
  · intro hj
    rw [hj] at hh
    obtain ⟨p, hp, hjp⟩ := Option.map_eq_some_iff.mp hh.symm
    obtain ⟨o', ho', rfl⟩ := Option.map_eq_some_iff.mp hjp.symm
    rcases List.eq_nil_or_concat' o.place with hnil | ⟨p, i, hpi⟩
    · rw [hnil] at hp
      cases hp
    · rw [hpi, around_concat] at hp
      exact ⟨o', o, i, ho', ho, by rw [hpi, ← Option.some.inj hp]⟩
  · rintro ⟨o', o'', i, ho', ho'', hp⟩
    obtain rfl := Option.some.inj (ho.symm.trans ho'')
    rw [hp, around_concat] at hh
    obtain ⟨s, hs, hsp⟩ := Option.map_eq_some_iff.mp hh
    obtain ⟨a, ha, hap⟩ := Option.map_eq_some_iff.mp hsp
    rw [hs, slot_eq_of_place ho' ha hap.symm]

end Enclosing

section Records

variable {root : Element} {policy : ParentPolicy} {j k : Nat} {r : Record}

lemma isIndexed_iff (policy : ParentPolicy) : IsIndexed (occurrences root) k ↔
    ∃ id, (id, k) ∈ (ViewIndex.ofLayout root policy).slots.entries := by
  simp only [mem_slots, List.findIdx?_eq_some_iff_getElem, decide_eq_true_eq]
  constructor
  · rintro ⟨o, id, ho, hid, hn⟩
    obtain ⟨hk, rfl⟩ := List.getElem?_eq_some_iff.mp ho
    refine ⟨id, hk, hid, fun i hi => hn _ ?_⟩
    exact List.mem_take_iff_getElem.mpr ⟨i, by omega, rfl⟩
  · rintro ⟨id, hk, hid, hn⟩
    refine ⟨_, id, List.getElem?_eq_getElem hk, hid, fun o' ho' => ?_⟩
    obtain ⟨i, hi, rfl⟩ := List.mem_take_iff_getElem.mp ho'
    exact hn i (by omega)

lemma exists_visit {o : Occurrence} (ho : (occurrences root)[k]? = some o) :
    ∃ v, Sees (occurrences root) v o ∧ (visits root)[k]? = some v := by
  obtain ⟨hk, rfl⟩ := List.getElem?_eq_some_iff.mp ho
  have hv : k < (visits root).length := (forall₂_visits root).length_eq ▸ hk
  exact ⟨_, (forall₂_visits root).get hv hk, List.getElem?_eq_getElem hv⟩

lemma exists_seen (h : (ViewIndex.ofLayout root policy).records[k]? = some r) :
    ∃ v o, (visits root)[k]? = some v ∧ (occurrences root)[k]? = some o ∧
      Sees (occurrences root) v o ∧
      r = ViewIndex.record policy (Identities.ofVisits (visits root))
        ((Identities.ofVisits (visits root)).owners (visits root)) (v, k) := by
  have hk := (List.getElem?_eq_some_iff.mp h).1
  rw [length_records] at hk
  obtain ⟨v, hs, hv⟩ := exists_visit (List.getElem?_eq_getElem hk)
  refine ⟨v, _, hv, List.getElem?_eq_getElem hk, hs, ?_⟩
  rw [getElem?_records, hv] at h
  exact (Option.some.inj h).symm

lemma contains_values_iff : (Identities.ofVisits (visits root)).slots.values.contains k = true ↔
    IsIndexed (occurrences root) k := by
  rw [isIndexed_iff .structural, List.contains_iff_mem, Dict.values, List.mem_map]
  constructor
  · rintro ⟨⟨id, _⟩, he, rfl⟩
    exact ⟨id, he⟩
  · rintro ⟨id, he⟩
    exact ⟨(id, k), he, rfl⟩

lemma nearest?_eq_some_iff {v : Visit} {o : Occurrence} (ho : (occurrences root)[k]? = some o)
    (hv : Sees (occurrences root) v o) :
    (Identities.ofVisits (visits root)).nearest? v.enclosing = some j ↔
      Owns (occurrences root) j k := by
  rw [Identities.nearest?, find?_eq_some_iff_of_pairwise (fun _ _ h h' => ?_) (pairwise_enclosing hv)]
  · simp only [mem_enclosing_iff ho hv, contains_values_iff]
    exact ⟨fun ⟨he, hi, hn⟩ => ⟨hi, he, fun i hi he => hn i he hi⟩,
      fun ⟨hi, he, hn⟩ => ⟨he, hi, fun i he hi => hn i hi he⟩⟩
  · exact absurd (h.lt.trans h'.lt) (lt_irrefl _)

lemma exists_owns (hj : IsIndexed (occurrences root) j) (h : Encloses (occurrences root) j k) :
    ∃ i, Owns (occurrences root) i k := by
  obtain ⟨_, o, _, ho, _⟩ := id h
  obtain ⟨v, hv, _⟩ := exists_visit ho
  have hn : ((Identities.ofVisits (visits root)).nearest? v.enclosing).isSome := by
    rw [Identities.nearest?, List.find?_isSome]
    exact ⟨j, (mem_enclosing_iff ho hv).mpr h, contains_values_iff.mpr hj⟩
  obtain ⟨i, hi⟩ := Option.isSome_iff_exists.mp hn
  exact ⟨i, (nearest?_eq_some_iff ho hv).mp hi⟩

lemma Owns.unique {i : Nat} (hi : Owns (occurrences root) i k) (hj : Owns (occurrences root) j k) :
    i = j := by
  rcases hi.nearest j hj.indexed hj.encloses with h | h
  · exact h.symm
  · rcases hj.nearest i hi.indexed hi.encloses with h' | h'
    · exact h'
    · exact absurd (h.lt.trans h'.lt) (lt_irrefl _)

lemma parent_eq_some_iff (h : (ViewIndex.ofLayout root policy).records[k]? = some r) :
    r.parent = some j ↔ Links (occurrences root) policy j k := by
  obtain ⟨v, o, _, ho, hs, rfl⟩ := exists_seen h
  cases policy with
  | structural => exact head?_enclosing_iff ho hs
  | nearestIdentified => exact nearest?_eq_some_iff ho hs

lemma id_eq_of_slot {id : String}
    (he : (id, k) ∈ (ViewIndex.ofLayout root policy).slots.entries)
    (h : (ViewIndex.ofLayout root policy).records[k]? = some r) : r.id = id := by
  obtain ⟨v, o, _, ho, hs, rfl⟩ := exists_seen h
  obtain ⟨hk, hid, _⟩ := List.findIdx?_eq_some_iff_getElem.mp (mem_slots.mp he)
  obtain ⟨_, rfl⟩ := List.getElem?_eq_some_iff.mp ho
  have hv : v.element.id = some id := by
    rw [hs.element, id_grouped]
    exact of_decide_eq_true hid
  simp [ViewIndex.record, hv]

open scoped Classical in
lemma children_eq (h : (ViewIndex.ofLayout root policy).records[j]? = some r) :
    r.children = (ViewIndex.ofLayout root policy).slots.entries.filter fun c =>
      Owns (occurrences root) j c.2 := by
  obtain ⟨_, _, _, _, _, rfl⟩ := exists_seen h
  have hx : (ViewIndex.ofLayout root policy).slots = (Identities.ofVisits (visits root)).slots := rfl
  simp only [ViewIndex.record, Identities.owners, List.filter_map, List.map_map]
  refine (List.map_id _).trans (List.filter_congr fun c hc => ?_)
  -- An entered slot is that of a visited element.
  obtain ⟨r, hr⟩ := exists_record_of_slot policy (hx ▸ hc)
  obtain ⟨v, o, hv, ho, hs, _⟩ := exists_seen hr
  have hn : ((visits root)[c.2]?).bind (fun v =>
      (Identities.ofVisits (visits root)).nearest? v.enclosing) = some j ↔
        Owns (occurrences root) j c.2 := by
    rw [hv]
    exact nearest?_eq_some_iff ho hs
  simp only [Function.comp_apply, hn]

lemma mem_childrenOf_iff {a : Record} (ha : (ViewIndex.ofLayout root policy).records[j]? = some a)
    (hr : (ViewIndex.ofLayout root policy).records[k]? = some r)
    (hk : IsIndexed (occurrences root) k) :
    r ∈ (ViewIndex.ofLayout root policy).childrenOf a ↔ Owns (occurrences root) j k := by
  obtain ⟨id, he⟩ := (isIndexed_iff policy).mp hk
  simp only [ViewIndex.childrenOf, List.mem_filterMap, children_eq ha, List.mem_filter,
    decide_eq_true_eq]
  constructor
  · rintro ⟨⟨id', k'⟩, ⟨he', ho⟩, hr'⟩
    -- The record knows its id, and the id its slot.
    obtain rfl : id' = id := (id_eq_of_slot he' hr').symm.trans (id_eq_of_slot he hr)
    have hs := (mem_slots.mp he').symm.trans (mem_slots.mp he)
    rwa [Option.some.inj hs] at ho
  · exact fun ho => ⟨(id, k), ⟨he, ho⟩, hr⟩

lemma iterate_parentOf? (h : (ViewIndex.ofLayout root policy).records[k]? = some r) :
    (fun o : Option Record => o.bind (ViewIndex.ofLayout root policy).parentOf?)^[k + 1] (some r) =
      none := by
  induction k using Nat.strong_induction_on generalizing r with
  | _ k ih =>
    rw [Function.iterate_succ_apply, Option.bind_some]
    cases hp : (ViewIndex.ofLayout root policy).parentOf? r with
    | none => exact Function.iterate_fixed rfl k
    | some a =>
      obtain ⟨j, hj, ha⟩ := Option.bind_eq_some_iff.mp hp
      have hlt : j < k := ((parent_eq_some_iff h).mp hj).encloses.lt
      obtain ⟨d, rfl⟩ := Nat.exists_eq_add_of_lt hlt
      have hd : j + d + 1 = d + (j + 1) := by omega
      rw [hd, Function.iterate_add_apply, ih j hlt ha]
      exact Function.iterate_fixed rfl d

lemma mem_childIds_iff {a : Record} {id : String}
    (ha : (ViewIndex.ofLayout root policy).records[j]? = some a) :
    id ∈ a.childIds ↔ ∃ k o, IsIndexed (occurrences root) k ∧ Owns (occurrences root) j k ∧
      (occurrences root)[k]? = some o ∧ o.element.id = some id := by
  simp only [Record.childIds, children_eq ha, List.mem_map, List.mem_filter, decide_eq_true_eq]
  constructor
  · rintro ⟨⟨id, k⟩, ⟨he, ho⟩, rfl⟩
    obtain ⟨hk, hid, _⟩ := List.findIdx?_eq_some_iff_getElem.mp (mem_slots.mp he)
    exact ⟨k, _, (isIndexed_iff policy).mpr ⟨id, he⟩, ho, List.getElem?_eq_getElem hk, of_decide_eq_true hid⟩
  · rintro ⟨k, o, hk, ho, hko, hid⟩
    obtain ⟨id', he⟩ := (isIndexed_iff policy).mp hk
    refine ⟨(id', k), ⟨he, ho⟩, ?_⟩
    obtain ⟨_, hid', _⟩ := List.findIdx?_eq_some_iff_getElem.mp (mem_slots.mp he)
    obtain ⟨_, rfl⟩ := List.getElem?_eq_some_iff.mp hko
    exact Option.some.inj ((of_decide_eq_true hid').symm.trans hid)

lemma childIds_sublist {a : Record}
    (ha : (ViewIndex.ofLayout root policy).records[j]? = some a) :
    a.childIds.Sublist (ViewIndex.ofLayout root policy).ids := by
  rw [Record.childIds, children_eq ha]
  exact List.filter_sublist.map Prod.fst

lemma childrenOf_eq {a : Record}
    (ha : (ViewIndex.ofLayout root policy).records[j]? = some a) :
    ((ViewIndex.ofLayout root policy).childrenOf a).map some =
      a.childIds.map (ViewIndex.ofLayout root policy).get? := by
  refine filterMap_records fun c hc => ?_
  rw [children_eq ha] at hc
  exact List.mem_of_mem_filter hc

/-- In an index every indexed view is owned by the nearest indexed element around it and by no other,
and parents are what the policy makes of the elements around. -/
theorem ofLayout_owns (root : Element) (policy : ParentPolicy) :
    let os := occurrences root
    let x := ViewIndex.ofLayout root policy
    (∀ (j k : Nat) (a r : Record), x.records[j]? = some a → x.records[k]? = some r →
      IsIndexed os k → (r ∈ x.childrenOf a ↔ Owns os j k)) ∧
    (∀ (k : Nat) (r : Record), x.records[k]? = some r → IsIndexed os k →
      (∀ j, IsIndexed os j → ¬ Encloses os j k) → ∀ a ∈ x.records, r ∉ x.childrenOf a) ∧
    (∀ (k : Nat) (r : Record), x.records[k]? = some r → IsIndexed os k →
      (∃ j, IsIndexed os j ∧ Encloses os j k) →
        ∃! j : Nat, ∃ a, x.records[j]? = some a ∧ r ∈ x.childrenOf a) ∧
    (∀ (j : Nat) (a : Record), x.records[j]? = some a →
      (∀ id, id ∈ a.childIds ↔
        ∃ k o, IsIndexed os k ∧ Owns os j k ∧ os[k]? = some o ∧ o.element.id = some id) ∧
      a.childIds.Nodup ∧ a.childIds.Sublist x.ids ∧
      (x.childrenOf a).map some = a.childIds.map x.get?) ∧
    (∀ (k : Nat) (r : Record), x.records[k]? = some r →
      (∀ j, Links os policy j k →
        r.parent = some j ∧ ∃ p, x.records[j]? = some p ∧ x.parentOf? r = some p) ∧
      ((∀ j, ¬ Links os policy j k) → r.parent = none ∧ x.parentOf? r = none) ∧
      (∀ j, r.parent = some j → j < k) ∧
      (fun o : Option Record => o.bind x.parentOf?)^[k + 1] (some r) = none) := by
  intro os x
  refine ⟨fun j k a r ha hr hk => mem_childrenOf_iff ha hr hk, fun k r hr hk hn a ha hra => ?_,
    fun k r hr hk ⟨j, hj, hjk⟩ => ?_, fun j a ha => ?_, fun k r hr => ?_⟩
  · obtain ⟨j, hj⟩ := List.getElem?_of_mem ha
    have ho := (mem_childrenOf_iff hj hr hk).mp hra
    exact hn j ho.indexed ho.encloses
  · obtain ⟨i, hi⟩ := exists_owns hj hjk
    obtain ⟨_, he⟩ := (isIndexed_iff policy).mp hi.indexed
    obtain ⟨a, ha⟩ := exists_record_of_slot policy he
    refine ⟨i, ⟨a, ha, (mem_childrenOf_iff ha hr hk).mpr hi⟩, ?_⟩
    rintro i' ⟨a', ha', hra'⟩
    exact ((mem_childrenOf_iff ha' hr hk).mp hra').unique hi
  · exact ⟨fun id => mem_childIds_iff ha, (childIds_sublist ha).nodup x.slots.nodup_keys,
      childIds_sublist ha, childrenOf_eq ha⟩
  · refine ⟨fun j hj => ?_, fun hn => ?_, fun j hj => ((parent_eq_some_iff hr).mp hj).encloses.lt,
      iterate_parentOf? hr⟩
    · have hp : r.parent = some j := (parent_eq_some_iff hr).mpr hj
      have hl : j < x.records.length :=
        hj.encloses.lt.trans (List.getElem?_eq_some_iff.mp hr).1
      exact ⟨hp, _, List.getElem?_eq_getElem hl,
        by rw [ViewIndex.parentOf?, hp, Option.bind_some, List.getElem?_eq_getElem hl]⟩
    · have hp : r.parent = none := Option.eq_none_iff_forall_ne_some.mpr fun j hj =>
        hn j ((parent_eq_some_iff hr).mp hj)
      exact ⟨hp, by rw [ViewIndex.parentOf?, hp, Option.bind_none]⟩

end Records

end LayoutSync.Layout
