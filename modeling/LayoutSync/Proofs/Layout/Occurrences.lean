import LayoutSync.Proofs.Layout.Visits
import Mathlib.Data.List.Forall2
import Mathlib.Data.List.Infix

/-!
Where the elements of a layout stand. An element is known by its place, the numbers of the children
that lead to it from the root. Every place is visited once, before the places below it, and a visit
knows the slots of the elements around it.
-/

namespace LayoutSync.Layout

open Markup

/-- The numbers of the children that lead from the root to an element. -/
abbrev Place := List Nat

structure Occurrence where
  place : Place
  element : Element

def elementAt? : Element → Place → Option Element
  | e, [] => some e
  | e, i :: p => (e.children[i]?).bind (elementAt? · p)

def numberedGroups (cs : List Element) : List (Element × Nat) :=
  (cs.map (·.tag)).eraseDups.flatMap fun tag => cs.zipIdx.filter (·.1.tag = tag)

lemma mem_numberedGroups {c : Element × Nat} {cs : List Element} :
    c ∈ numberedGroups cs ↔ cs[c.2]? = some c.1 := by
  simp only [numberedGroups, List.mem_flatMap, List.mem_eraseDups, List.mem_map, List.mem_filter,
    decide_eq_true_eq, List.mem_zipIdx_iff_getElem?]
  constructor
  · rintro ⟨_, _, hc, _⟩
    exact hc
  · exact fun hc => ⟨c.1.tag, ⟨c.1, List.mem_of_getElem? hc, rfl⟩, hc, rfl⟩

def occurrencesFrom (p : Place) (e : Element) : List Occurrence :=
  ⟨p, e⟩ :: (numberedGroups e.children).attach.flatMap fun c =>
    occurrencesFrom (p ++ [c.1.2]) c.1.1
termination_by e
decreasing_by
  have hc := List.sizeOf_lt_of_mem (List.mem_of_getElem? (mem_numberedGroups.mp c.2))
  cases e
  simp only [Element.mk.sizeOf_spec] at hc ⊢
  omega

def occurrences (root : Element) : List Occurrence := occurrencesFrom [] root

lemma occurrencesFrom_eq (p : Place) (e : Element) :
    occurrencesFrom p e = ⟨p, e⟩ :: (numberedGroups e.children).flatMap fun c =>
      occurrencesFrom (p ++ [c.2]) c.1 := by
  rw [occurrencesFrom, List.flatMap_subtype (g := fun c => occurrencesFrom (p ++ [c.2]) c.1)]
  · rw [List.unattach_attach]
  · exact fun _ _ => rfl

section Places

variable {p q : Place} {e root : Element} {o : Occurrence}

lemma mem_occurrencesFrom : o ∈ occurrencesFrom p e ↔
    ∃ q, o.place = p ++ q ∧ elementAt? e q = some o.element := by
  induction e using Element.induction generalizing p with
  | step e ih =>
    rw [occurrencesFrom_eq, List.mem_cons, List.mem_flatMap]
    constructor
    · rintro (rfl | ⟨c, hc, ho⟩)
      · exact ⟨[], (List.append_nil p).symm, rfl⟩
      · have hi := mem_numberedGroups.mp hc
        obtain ⟨q, hq, he⟩ := (ih c.1 (List.mem_of_getElem? hi)).mp ho
        exact ⟨c.2 :: q, by rw [hq, List.append_assoc]; rfl, by simp [elementAt?, hi, he]⟩
    · rintro ⟨q, hq, he⟩
      cases q with
      | nil =>
        obtain ⟨place, element⟩ := o
        obtain rfl : place = p := hq.trans (List.append_nil p)
        exact .inl (congrArg (Occurrence.mk place) (Option.some.inj he).symm)
      | cons i q =>
        obtain ⟨c, hc, he⟩ := Option.bind_eq_some_iff.mp he
        refine .inr ⟨(c, i), mem_numberedGroups.mpr hc, ?_⟩
        exact (ih c (List.mem_of_getElem? hc)).mpr ⟨q, by rw [hq, List.append_assoc]; rfl, he⟩

lemma mem_occurrences : o ∈ occurrences root ↔ elementAt? root o.place = some o.element := by
  rw [occurrences, mem_occurrencesFrom]
  simp

lemma nodup_eraseDups {α : Type} [BEq α] [LawfulBEq α] (l : List α) : l.eraseDups.Nodup := by
  induction hn : l.length using Nat.strong_induction_on generalizing l with
  | _ n ih =>
    cases l with
    | nil => exact List.nodup_nil
    | cons a l =>
      rw [List.eraseDups_cons, List.nodup_cons]
      refine ⟨by simp [List.mem_eraseDups], ih _ ?_ _ rfl⟩
      have := List.length_filter_le (fun b => !b == a) l
      simp only [List.length_cons] at hn
      omega

lemma pairwise_numberedGroups (cs : List Element) :
    (numberedGroups cs).Pairwise fun c d => c.2 ≠ d.2 := by
  have hz : cs.zipIdx.Pairwise fun c d => c.2 ≠ d.2 := by
    have hn : (cs.zipIdx.map Prod.snd).Nodup := by
      rw [List.zipIdx_map_snd]
      exact List.nodup_range'
    exact List.pairwise_map.mp hn
  rw [numberedGroups, List.pairwise_flatMap]
  refine ⟨fun tag _ => hz.filter _, (nodup_eraseDups _).imp fun {s t} hst c hc d hd hcd => hst ?_⟩
  -- Children of one number are one child, and it has one tag.
  simp only [List.mem_filter, decide_eq_true_eq, List.mem_zipIdx_iff_getElem?] at hc hd
  have he := hc.1.symm.trans (hcd ▸ hd.1)
  rw [← hc.2, ← hd.2, Option.some.inj he]

lemma pairwise_occurrencesFrom :
    (occurrencesFrom p e).Pairwise fun o o' => ¬ o'.place <+: o.place := by
  induction e using Element.induction generalizing p with
  | step e ih =>
    rw [occurrencesFrom_eq, List.pairwise_cons, List.pairwise_flatMap]
    refine ⟨fun o ho hpre => ?_, fun c hc => ?_, ?_⟩
    · obtain ⟨c, _, ho⟩ := List.mem_flatMap.mp ho
      obtain ⟨q, hq, _⟩ := mem_occurrencesFrom.mp ho
      have := hpre.length_le
      rw [hq] at this
      simp only [List.length_append, List.length_cons, List.length_nil] at this
      omega
    · exact ih c.1 (List.mem_of_getElem? (mem_numberedGroups.mp hc))
    · refine (pairwise_numberedGroups e.children).imp fun {c d} hcd o ho o' ho' hpre => hcd ?_
      obtain ⟨q, hq, _⟩ := mem_occurrencesFrom.mp ho
      obtain ⟨q', hq', _⟩ := mem_occurrencesFrom.mp ho'
      rw [hq, hq', List.append_assoc, List.append_assoc, List.prefix_append_right_inj] at hpre
      exact (List.cons_prefix_cons.mp hpre).1.symm

lemma nodup_places : ((occurrences root).map (·.place)).Nodup := by
  refine List.pairwise_map.mpr (pairwise_occurrencesFrom.imp fun {o o'} h he => h ?_)
  rw [he]

end Places

section Visiting

section Mapped

variable {f : Element → Element} (hf : ∀ c, (f c).tag = c.tag) (cs : List Element)

include hf

lemma tags_map : (cs.map f).map (·.tag) = cs.map (·.tag) := by
  rw [List.map_map]
  exact List.map_congr_left fun c _ => hf c

lemma filter_tag_map (t : String) :
    (cs.map f).filter (·.tag = t) = (cs.filter (·.tag = t)).map f := by
  rw [List.filter_map]
  congr 2
  funext c
  simp [hf]

lemma regroup_map_eq_flatMap :
    regroup (cs.map f) = (cs.map (·.tag)).eraseDups.flatMap fun t =>
      (cs.filter (·.tag = t)).map f := by
  simp only [regroup, Element.groupsOf, List.flatMap_map, tags_map hf, filter_tag_map hf]

lemma regroup_map : regroup (cs.map f) = (numberedGroups cs).map fun c => f c.1 := by
  have hz : ∀ t, (cs.filter (·.tag = t)).map f =
      (cs.zipIdx.filter (·.1.tag = t)).map fun c => f c.1 := by
    intro t
    have hc : (cs.zipIdx.map Prod.fst).filter (·.tag = t) =
        (cs.zipIdx.filter (·.1.tag = t)).map Prod.fst := List.filter_map
    rw [List.zipIdx_map_fst] at hc
    rw [hc, List.map_map]
    rfl
  simp only [regroup_map_eq_flatMap hf, numberedGroups, List.map_flatMap, hz]

end Mapped

lemma tag_grouped (e : Element) : (grouped e).tag = e.tag := by
  rw [grouped_eq]

lemma visitsFrom_eq (slot : Nat) (enclosing : List Nat) (e : Element) :
    visitsFrom slot enclosing e =
      ⟨e, enclosing⟩ :: visitsOfAll (slot + 1) (slot :: enclosing) e.children := by
  cases e
  rfl

def around (p : Place) : List Place := (List.range p.length).reverse.map p.take

lemma around_concat (p : Place) (i : Nat) : around (p ++ [i]) = p :: around p := by
  rw [around, List.length_append, List.length_singleton, List.range_succ, List.reverse_append,
    List.map_append]
  have ht : ∀ k ∈ (List.range p.length).reverse, (p ++ [i]).take k = p.take k := by
    intro k hk
    exact List.take_append_of_le_length (by simpa using (List.mem_range.mp (List.mem_reverse.mp hk)).le)
  rw [List.map_congr_left ht]
  simp [around]

lemma mem_around {p q : Place} : q ∈ around p ↔ q <+: p ∧ q ≠ p := by
  simp only [around, List.mem_map, List.mem_reverse, List.mem_range]
  constructor
  · rintro ⟨k, hk, rfl⟩
    refine ⟨List.take_prefix k p, fun he => ?_⟩
    have := congrArg List.length he
    rw [List.length_take] at this
    omega
  · rintro ⟨hp, hne⟩
    have hl := hp.length_le
    refine ⟨q.length, lt_of_le_of_ne hl fun he => hne (hp.eq_of_length he), ?_⟩
    exact (List.prefix_iff_eq_take.mp hp).symm

def PlacedAt (os : List Occurrence) (slot : Nat) (p : Place) : Prop :=
  (os[slot]?).map (·.place) = some p

structure Sees (os : List Occurrence) (v : Visit) (o : Occurrence) : Prop where
  element : v.element = grouped o.element
  enclosing : List.Forall₂ (PlacedAt os) v.enclosing (around o.place)

variable {os : List Occurrence}

lemma forall₂_visitsFrom {e : Element} {p : Place} {slot : Nat} {enclosing : List Nat}
    (ho : occurrencesFrom p e <+: os.drop slot)
    (he : List.Forall₂ (PlacedAt os) enclosing (around p)) :
    List.Forall₂ (Sees os) (visitsFrom slot enclosing (grouped e)) (occurrencesFrom p e) := by
  induction e using Element.induction generalizing p slot enclosing with
  | step e ih =>
    rw [occurrencesFrom_eq] at ho ⊢
    obtain ⟨rest, hr⟩ := ho
    have hg : (grouped e).children = (numberedGroups e.children).map fun c => grouped c.1 := by
      rw [grouped_eq, ← regroup_map tag_grouped]
    rw [visitsFrom_eq, hg]
    refine .cons ⟨rfl, he⟩ ?_
    have hp : PlacedAt os slot p := by
      have : os[slot]? = some ⟨p, e⟩ := by
        rw [← Nat.add_zero slot, ← List.getElem?_drop, ← hr]
        rfl
      rw [PlacedAt, this]
      rfl
    have hrest : ((numberedGroups e.children).flatMap fun c => occurrencesFrom (p ++ [c.2]) c.1) <+:
        os.drop (slot + 1) := by
      refine ⟨rest, ?_⟩
      rw [← List.drop_drop, ← hr]
      rfl
    have hc : ∀ c ∈ numberedGroups e.children, c.1 ∈ e.children := fun c hc =>
      List.mem_of_getElem? (mem_numberedGroups.mp hc)
    -- The children come one after the other, each from the slot where the last one ended.
    generalize numberedGroups e.children = cs at hrest hc
    generalize slot + 1 = next at hrest
    induction cs generalizing next with
    | nil => exact .nil
    | cons c cs ihs =>
      rw [List.flatMap_cons] at hrest ⊢
      rw [List.map_cons, visitsOfAll]
      have hinner : List.Forall₂ (PlacedAt os) (slot :: enclosing) (around (p ++ [c.2])) := by
        rw [around_concat]
        exact .cons hp he
      have hfirst := ih c.1 (hc c List.mem_cons_self) ((List.prefix_append _ _).trans hrest) hinner
      refine List.rel_append hfirst (ihs (fun d hd => hc d (List.mem_cons_of_mem _ hd)) _ ?_)
      obtain ⟨tail, ht⟩ := hrest
      refine ⟨tail, ?_⟩
      rw [hfirst.length_eq, ← List.drop_drop, ← ht, List.append_assoc]
      simp

lemma forall₂_visits (root : Element) :
    List.Forall₂ (Sees (occurrences root)) (visits root) (occurrences root) :=
  forall₂_visitsFrom (List.prefix_refl _) .nil

end Visiting

end LayoutSync.Layout
