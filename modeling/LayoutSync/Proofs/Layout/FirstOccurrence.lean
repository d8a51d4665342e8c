import LayoutSync.Proofs.Layout.Flattening
import Mathlib.Data.Finset.Max
import Mathlib.Data.List.Lex

/-!
Which of the elements with one id is indexed. An element comes before those in it; where the ways to
two elements part, the document goes by the numbers of the children, and visits go by where the tags
of the children first appear. The indexed element is the first that is visited, and it is the first
of the document unless a later one overtakes that.
-/

namespace LayoutSync.Layout

open Markup

def firstWithTag (cs : List Element) (tag : String) : Nat := (cs.map (·.tag)).idxOf tag

/-- Below the element, the first place is visited before the second one. -/
inductive VisitedBefore : Element → Place → Place → Prop
  | above {e : Element} {i : Nat} {q : Place} : VisitedBefore e [] (i :: q)
  | inside {e c : Element} {i : Nat} {p q : Place} (child : e.children[i]? = some c)
      (h : VisitedBefore c p q) : VisitedBefore e (i :: p) (i :: q)
  | sameTag {e c d : Element} {i j : Nat} {p q : Place} (left : e.children[i]? = some c)
      (right : e.children[j]? = some d) (tag : c.tag = d.tag) (lt : i < j) :
      VisitedBefore e (i :: p) (j :: q)
  | otherTag {e c d : Element} {i j : Nat} {p q : Place} (left : e.children[i]? = some c)
      (right : e.children[j]? = some d)
      (lt : firstWithTag e.children c.tag < firstWithTag e.children d.tag) :
      VisitedBefore e (i :: p) (j :: q)

/-- The first place is visited before the second one although it comes later: where the ways part, it
lies in the later child, but the tag of this child appears first. -/
inductive Overtakes : Element → Place → Place → Prop
  | inside {e c : Element} {i : Nat} {p q : Place} (child : e.children[i]? = some c)
      (h : Overtakes c p q) : Overtakes e (i :: p) (i :: q)
  | apart {e c d : Element} {i j : Nat} {p q : Place} (left : e.children[i]? = some c)
      (right : e.children[j]? = some d) (later : j < i)
      (lt : firstWithTag e.children c.tag < firstWithTag e.children d.tag) :
      Overtakes e (i :: p) (j :: q)

section Order

variable {e : Element} {p q : Place}

lemma Overtakes.visitedBefore (h : Overtakes e p q) : VisitedBefore e p q := by
  induction h with
  | inside child _ ih => exact .inside child ih
  | apart left right _ lt => exact .otherTag left right lt

lemma VisitedBefore.lt_or_overtakes (h : VisitedBefore e p q) : p < q ∨ Overtakes e p q := by
  induction h with
  | above => exact .inl (List.nil_lt_cons _ _)
  | inside child _ ih =>
    exact ih.imp (fun h => List.cons_lt_cons_iff.mpr (.inr ⟨rfl, h⟩)) (.inside child)
  | sameTag _ _ _ lt => exact .inl (List.cons_lt_cons_iff.mpr (.inl lt))
  | @otherTag e c d i j p q left right lt =>
    rcases Nat.lt_trichotomy i j with hij | rfl | hji
    · exact .inl (List.cons_lt_cons_iff.mpr (.inl hij))
    · obtain rfl := Option.some.inj (left.symm.trans right)
      exact absurd lt (lt_irrefl _)
    · exact .inr (.apart left right hji lt)

lemma VisitedBefore.asymm (h : VisitedBefore e p q) : ¬ VisitedBefore e q p := by
  induction h with
  | above => exact nofun
  | inside child _ ih =>
    intro h'
    cases h' with
    | inside child' h' =>
      obtain rfl := Option.some.inj (child.symm.trans child')
      exact ih h'
    | sameTag _ _ _ lt => exact lt_irrefl _ lt
    | otherTag left right lt =>
      obtain rfl := Option.some.inj (left.symm.trans right)
      exact lt_irrefl _ lt
  | sameTag left right tag lt =>
    intro h'
    cases h' with
    | inside => exact lt_irrefl _ lt
    | sameTag _ _ _ lt' => exact lt_asymm lt lt'
    | otherTag right' left' lt' =>
      obtain rfl := Option.some.inj (left.symm.trans left')
      obtain rfl := Option.some.inj (right.symm.trans right')
      exact lt_irrefl _ (tag ▸ lt')
  | otherTag left right lt =>
    intro h'
    cases h' with
    | inside =>
      obtain rfl := Option.some.inj (left.symm.trans right)
      exact lt_irrefl _ lt
    | sameTag right' left' tag =>
      obtain rfl := Option.some.inj (left.symm.trans left')
      obtain rfl := Option.some.inj (right.symm.trans right')
      exact lt_irrefl _ (tag ▸ lt)
    | otherTag right' left' lt' =>
      obtain rfl := Option.some.inj (left.symm.trans left')
      obtain rfl := Option.some.inj (right.symm.trans right')
      exact lt_asymm lt lt'

end Order

section Visits

lemma pairwise_eraseDups (l : List String) :
    l.eraseDups.Pairwise fun a b => l.idxOf a < l.idxOf b := by
  induction l using List.reverseRecOn with
  | nil => exact .nil
  | append_singleton l a ih =>
    have hidx : ∀ b ∈ l.eraseDups, (l ++ [a]).idxOf b = l.idxOf b := fun b hb =>
      List.idxOf_append_of_mem (List.mem_eraseDups.mp hb)
    rw [eraseDups_concat, List.pairwise_append]
    refine ⟨ih.imp_of_mem fun hb hc h => by rwa [hidx _ hb, hidx _ hc], by split <;> simp, ?_⟩
    intro b hb c hc
    split at hc
    · cases hc
    next ha =>
      obtain rfl := List.mem_singleton.mp hc
      rw [hidx b hb, List.idxOf_append_of_notMem ha]
      exact (List.idxOf_lt_length_of_mem (List.mem_eraseDups.mp hb)).trans_le (Nat.le_add_right _ _)

lemma pairwise_numberedGroups_order (cs : List Element) :
    (numberedGroups cs).Pairwise fun c d => c.1.tag = d.1.tag ∧ c.2 < d.2 ∨
      firstWithTag cs c.1.tag < firstWithTag cs d.1.tag := by
  have hz : cs.zipIdx.Pairwise fun c d => c.2 < d.2 := by
    have hn : (cs.zipIdx.map Prod.snd).Pairwise (· < ·) := by
      rw [List.zipIdx_map_snd]
      exact List.pairwise_lt_range'
    exact List.pairwise_map.mp hn
  rw [numberedGroups, List.pairwise_flatMap]
  refine ⟨fun tag _ => (hz.filter _).imp_of_mem fun {c d} hc hd h => .inl ⟨?_, h⟩,
    (pairwise_eraseDups _).imp fun {s t} hst c hc d hd => .inr ?_⟩
  · simp only [List.mem_filter, decide_eq_true_eq] at hc hd
    rw [hc.2, hd.2]
  · simp only [List.mem_filter, decide_eq_true_eq] at hc hd
    rw [hc.2, hd.2]
    exact hst

lemma pairwise_occurrencesFrom_order {e : Element} {p : Place} :
    (occurrencesFrom p e).Pairwise fun o o' =>
      ∃ q q', o.place = p ++ q ∧ o'.place = p ++ q' ∧ VisitedBefore e q q' := by
  induction e using Element.induction generalizing p with
  | step e ih =>
    rw [occurrencesFrom_eq, List.pairwise_cons, List.pairwise_flatMap]
    refine ⟨fun o ho => ?_, fun c hc => ?_, ?_⟩
    · obtain ⟨c, _, ho⟩ := List.mem_flatMap.mp ho
      obtain ⟨q, hq, _⟩ := mem_occurrencesFrom.mp ho
      exact ⟨[], c.2 :: q, (List.append_nil p).symm, by rw [hq, List.append_assoc]; rfl, .above⟩
    · have hi := mem_numberedGroups.mp hc
      refine (ih c.1 (List.mem_of_getElem? hi)).imp ?_
      rintro o o' ⟨q, q', hq, hq', h⟩
      exact ⟨c.2 :: q, c.2 :: q', by rw [hq, List.append_assoc]; rfl,
        by rw [hq', List.append_assoc]; rfl, .inside hi h⟩
    · refine (pairwise_numberedGroups_order e.children).imp_of_mem ?_
      intro c d hc hd h o ho o' ho'
      obtain ⟨q, hq, _⟩ := mem_occurrencesFrom.mp ho
      obtain ⟨q', hq', _⟩ := mem_occurrencesFrom.mp ho'
      have hc := mem_numberedGroups.mp hc
      have hd := mem_numberedGroups.mp hd
      refine ⟨c.2 :: q, d.2 :: q', by rw [hq, List.append_assoc]; rfl,
        by rw [hq', List.append_assoc]; rfl, ?_⟩
      rcases h with ⟨tag, lt⟩ | lt
      · exact .sameTag hc hd tag lt
      · exact .otherTag hc hd lt

lemma pairwise_visitedBefore (root : Element) :
    (occurrences root).Pairwise fun o o' => VisitedBefore root o.place o'.place := by
  refine pairwise_occurrencesFrom_order.imp ?_
  rintro o o' ⟨q, q', hq, hq', h⟩
  rwa [hq, hq']

end Visits

section First

def Bears (root : Element) (id : String) (p : Place) : Prop :=
  ∃ e, elementAt? root p = some e ∧ e.id = some id

def IsFirstInDocument (root : Element) (id : String) (p : Place) : Prop :=
  Bears root id p ∧ ∀ q, Bears root id q → p ≤ q

def IsFirstVisited (root : Element) (id : String) (p : Place) : Prop :=
  Bears root id p ∧ ∀ q, Bears root id q → q ≠ p → VisitedBefore root p q

variable {root : Element} {id : String} {p q : Place}

lemma bears_iff : Bears root id p ↔
    ∃ o ∈ occurrences root, o.place = p ∧ o.element.id = some id := by
  constructor
  · rintro ⟨e, he, hid⟩
    exact ⟨⟨p, e⟩, mem_occurrences.mpr he, rfl, hid⟩
  · rintro ⟨o, ho, rfl, hid⟩
    exact ⟨o.element, mem_occurrences.mp ho, hid⟩

lemma exists_first_inDocument (h : Bears root id p) : ∃ first, IsFirstInDocument root id first := by
  have hm : ∀ q, q ∈ (((occurrences root).filter (·.element.id = some id)).map (·.place)).toFinset ↔
      Bears root id q := by
    intro q
    simp only [List.mem_toFinset, List.mem_map, List.mem_filter, decide_eq_true_eq, bears_iff,
      and_assoc]
    exact exists_congr fun o => and_congr_right fun _ => and_comm
  obtain ⟨first, hf, hmin⟩ := Finset.exists_min_image _ (fun q : Place => q) ⟨p, (hm p).mpr h⟩
  exact ⟨first, (hm first).mp hf, fun q hq => hmin q ((hm q).mpr hq)⟩

lemma IsFirstVisited.eq (h : IsFirstVisited root id p) (h' : IsFirstVisited root id q) : p = q := by
  by_contra hne
  exact (h.2 q h'.1 (Ne.symm hne)).asymm (h'.2 p h.1 hne)

lemma IsFirstVisited.eq_iff (h : IsFirstVisited root id p) (h' : IsFirstInDocument root id q) :
    p = q ↔ ∀ q', Bears root id q' → ¬ Overtakes root q' q := by
  constructor
  · rintro rfl q' hq' hover
    by_cases hne : q' = p
    · exact hover.visitedBefore.asymm (hne ▸ hover.visitedBefore)
    · exact (h.2 q' hq' hne).asymm hover.visitedBefore
  · intro hn
    by_contra hne
    rcases (h.2 q h'.1 (Ne.symm hne)).lt_or_overtakes with hlt | hover
    · exact absurd hlt (h'.2 p h.1).not_gt
    · exact hn p h.1 hover

lemma exists_first_visited (policy : ParentPolicy) (h : Bears root id p) :
    ∃ (k : Nat) (o : Occurrence) (r : Record), (occurrences root)[k]? = some o ∧
      (ViewIndex.ofLayout root policy).records[k]? = some r ∧
      (ViewIndex.ofLayout root policy).get? id = some r ∧ IsFirstVisited root id o.place := by
  obtain ⟨o, ho, rfl, hid⟩ := bears_iff.mp h
  have hs : ((occurrences root).findIdx? (·.element.id = some id)).isSome := by
    rw [List.findIdx?_isSome, List.any_eq_true]
    exact ⟨o, ho, by simpa using hid⟩
  obtain ⟨k, hk⟩ := Option.isSome_iff_exists.mp hs
  obtain ⟨r, hr⟩ := exists_record_of_slot policy (mem_slots.mpr hk)
  obtain ⟨hlt, hid', hfirst⟩ := List.findIdx?_eq_some_iff_getElem.mp hk
  have ho := List.getElem?_eq_getElem hlt
  refine ⟨k, _, r, ho, hr, ?_,
    bears_iff.mpr ⟨_, List.mem_of_getElem? ho, rfl, of_decide_eq_true hid'⟩, ?_⟩
  · rw [ViewIndex.get?, slots_get?, hk]
    exact hr
  · intro q hq hne
    obtain ⟨o', ho', rfl, hid''⟩ := bears_iff.mp hq
    obtain ⟨j, hj, rfl⟩ := List.getElem_of_mem ho'
    -- No element with the id has a smaller slot.
    rcases Nat.lt_trichotomy k j with hkj | rfl | hjk
    · exact List.pairwise_iff_getElem.mp (pairwise_visitedBefore root) k j hlt hj hkj
    · exact absurd rfl hne
    · exact absurd hid'' (by simpa using hfirst j hjk)

lemma mem_views_of_get? {x : ViewIndex} {r : Record} (h : x.get? id = some r) : r ∈ x.views := by
  obtain ⟨slot, hs, hr⟩ := Option.bind_eq_some_iff.mp h
  have hm := (Assoc.get?_eq_some_iff x.slots.nodup_keys).mp hs
  exact List.mem_filterMap.mpr ⟨slot, List.mem_map_of_mem hm, hr⟩

lemma IsFirstVisited.exists_view (h : IsFirstVisited root id p) (policy : ParentPolicy) {e : Element}
    (he : elementAt? root p = some e) :
    ∃ r ∈ (ViewIndex.ofLayout root policy).views, r.Describes e := by
  obtain ⟨k, o, r, ho, hr, hget, hvisited⟩ := exists_first_visited policy h.1
  have hp := mem_occurrences.mp (List.mem_of_getElem? ho)
  rw [hvisited.eq h, he] at hp
  obtain rfl := Option.some.inj hp
  exact ⟨r, mem_views_of_get? hget, describes_of_slot hr ho⟩

/-- Of the elements with an id, the index holds the first one that is visited. This is the first one
of the document unless another one overtakes it. -/
theorem get?_first_visited (root : Element) (policy : ParentPolicy) (id : String) (p : Place)
    (h : Bears root id p) :
    let os := occurrences root
    let x := ViewIndex.ofLayout root policy
    ∃ (k : Nat) (o : Occurrence) (r : Record) (first : Place),
      os[k]? = some o ∧ x.records[k]? = some r ∧ r.Describes o.element ∧
      x.get? id = some r ∧ r ∈ x.views ∧
      IsFirstVisited root id o.place ∧ IsFirstInDocument root id first ∧
      (o.place = first ↔ ∀ q, Bears root id q → ¬ Overtakes root q first) := by
  intro os x
  obtain ⟨first, hfirst⟩ := exists_first_inDocument h
  obtain ⟨k, o, r, ho, hr, hget, hvisited⟩ := exists_first_visited policy h
  exact ⟨k, o, r, first, ho, hr, describes_of_slot hr ho, hget, mem_views_of_get? hget, hvisited,
    hfirst, hvisited.eq_iff hfirst⟩

def overtaken : Element where
  tag := "Row"
  children := [
    { tag := "Text" },
    { tag := "Box", children := [{ tag := "Label", attributes := Dict.ofList [("id", "x")] }] },
    { tag := "Text", attributes := Dict.ofList [("id", "x")] }]

lemma bears_overtaken : Bears overtaken "x" [1, 0] := ⟨_, rfl, rfl⟩

theorem get?_first_visited_overtaken :
    let os := occurrences overtaken
    let x := ViewIndex.ofLayout overtaken .structural
    Bears overtaken "x" [1, 0] ∧ ∃ (k : Nat) (o : Occurrence) (r : Record) (first : Place),
      os[k]? = some o ∧ x.records[k]? = some r ∧ r.Describes o.element ∧
      x.get? "x" = some r ∧ r ∈ x.views ∧
      IsFirstVisited overtaken "x" o.place ∧ IsFirstInDocument overtaken "x" first ∧
      (o.place = first ↔ ∀ q, Bears overtaken "x" q → ¬ Overtakes overtaken q first) :=
  ⟨bears_overtaken, get?_first_visited overtaken .structural "x" [1, 0] bears_overtaken⟩

lemma isFirstInDocument_overtaken : IsFirstInDocument overtaken "x" [1, 0] := by
  refine ⟨bears_overtaken, ?_⟩
  rintro q ⟨e, he, hid⟩
  apply not_lt.mp
  intro hlt
  match q with
  | [] | [0] | [1] =>
    obtain rfl := Option.some.inj he
    cases hid
  | 0 :: _ :: _ => cases he
  | 1 :: i :: q => simp [List.cons_lt_cons_iff] at hlt
  | (i + 2) :: q => simp [List.cons_lt_cons_iff] at hlt

/-- The label stands first, but the record with its id is that of the text. -/
theorem get?_overtaken :
    IsFirstInDocument overtaken "x" [1, 0] ∧
      ∃ e r, elementAt? overtaken [1, 0] = some e ∧
        (ViewIndex.ofLayout overtaken .structural).get? "x" = some r ∧ ¬ r.Describes e := by
  refine ⟨isFirstInDocument_overtaken, _, _, rfl, rfl, fun h => ?_⟩
  exact absurd h.tag (by decide)

end First

end LayoutSync.Layout
