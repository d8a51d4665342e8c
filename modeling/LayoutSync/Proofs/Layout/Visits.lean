import LayoutSync.Layout.Index
import LayoutSync.Proofs.Markup.Tidy

namespace LayoutSync.Layout

open Markup

section Grouped

lemma mem_regroup {c : Element} {cs : List Element} : c ∈ regroup cs ↔ c ∈ cs := by
  simp only [regroup, Element.groupsOf, List.flatMap_map, List.mem_flatMap, List.mem_eraseDups,
    List.mem_map, List.mem_filter, decide_eq_true_eq]
  constructor
  · rintro ⟨_, _, hc, _⟩
    exact hc
  · exact fun hc => ⟨c.tag, ⟨c, hc, rfl⟩, hc, rfl⟩

lemma groupedAll_eq_map (cs : List Element) : groupedAll cs = cs.map grouped := by
  induction cs with
  | nil => rfl
  | cons c cs ih => rw [groupedAll, ih, List.map_cons]

lemma grouped_eq (e : Element) :
    grouped e = { e with children := regroup (e.children.map grouped) } := by
  cases e
  rw [grouped, groupedAll_eq_map]

lemma id_grouped (e : Element) : (grouped e).id = e.id := by
  rw [grouped_eq]
  rfl

lemma every_of_grouped {P : Element → Prop} {e : Element} (h : (grouped e).Every P) :
    e.Every fun c => P (grouped c) := by
  induction e using Element.induction with
  | step e ih =>
    refine .intro h.here fun c hc => ih c hc (h.inside (grouped c) ?_)
    rw [grouped_eq]
    exact mem_regroup.mpr (List.mem_map_of_mem hc)

end Grouped

lemma visitsFrom_subset {c : Element} {cs : List Element} (hc : c ∈ cs) (slot : Nat)
    (enclosing : List Nat) :
    ∃ k, ∀ v ∈ visitsFrom k enclosing c, v ∈ visitsOfAll slot enclosing cs := by
  induction cs generalizing slot with
  | nil => cases hc
  | cons d ds ih =>
    rw [visitsOfAll]
    rcases List.mem_cons.mp hc with rfl | hc
    · exact ⟨slot, fun v hv => List.mem_append_left _ hv⟩
    · obtain ⟨k, hk⟩ := ih hc (slot + (visitsFrom slot enclosing d).length)
      exact ⟨k, fun v hv => List.mem_append_right _ (hk v hv)⟩

lemma every_mem_visitsFrom (e : Element) (slot : Nat) (enclosing : List Nat) :
    e.Every fun c => ∃ v ∈ visitsFrom slot enclosing e, v.element = c := by
  induction e using Element.induction generalizing slot enclosing with
  | step e ih =>
    obtain ⟨tag, attributes, text, tail, children⟩ := e
    rw [visitsFrom]
    refine .intro ⟨_, List.mem_cons_self, rfl⟩ fun c hc => ?_
    obtain ⟨k, hk⟩ := visitsFrom_subset hc (slot + 1) (slot :: enclosing)
    apply (ih c hc k (slot :: enclosing)).mono
    rintro d ⟨v, hv, he⟩
    exact ⟨v, List.mem_cons_of_mem _ (hk v hv), he⟩

lemma every_visited (root : Element) :
    root.Every fun e => ∃ v ∈ visits root, v.element = grouped e :=
  every_of_grouped (every_mem_visitsFrom (grouped root) 0 [])

namespace Identities

def bears (id : String) (v : Visit × Nat) : Bool := v.1.element.id = some id

lemma get?_add (i : Identities) (v : Visit × Nat) (id : String) :
    (i.add v).slots.get? id = (i.slots.get? id).or (if bears id v then some v.2 else none) := by
  unfold add bears
  cases hv : v.1.element.id with
  | none => simp
  | some j =>
    dsimp only
    by_cases hc : i.slots.contains j = true
    · rw [if_pos hc]
      by_cases hj : j = id
      · subst hj
        obtain ⟨s, hs⟩ := Option.isSome_iff_exists.mp hc
        simp [hs]
      · simp [hj]
    · rw [if_neg hc]
      by_cases hj : j = id
      · subst hj
        have hn : i.slots.get? j = none := by simpa [Dict.contains] using hc
        have hp : (i.slots.put j v.2).get? j = some v.2 := Assoc.get?_put_self j v.2 i.slots.entries
        simp [hn, hp]
      · have hp : (i.slots.put j v.2).get? id = i.slots.get? id :=
          Assoc.get?_put_of_ne v.2 i.slots.entries (Ne.symm hj)
        simp [hp, hj]

lemma get?_foldl_add (i : Identities) (vs : List (Visit × Nat)) (id : String) :
    (vs.foldl add i).slots.get? id =
      (i.slots.get? id).or ((vs.find? (bears id)).map Prod.snd) := by
  induction vs generalizing i with
  | nil => simp
  | cons v vs ih =>
    rw [List.foldl_cons, ih, get?_add, Option.or_assoc]
    cases hb : bears id v with
    | true => simp [hb]
    | false => simp [hb]

lemma get?_ofVisits (vs : List Visit) (id : String) :
    (ofVisits vs).slots.get? id = (vs.zipIdx.find? (bears id)).map Prod.snd :=
  get?_foldl_add {} vs.zipIdx id

end Identities

def firstWith? (root : Element) (id : String) : Option Visit :=
  (visits root).find? (·.element.id = some id)

section Index

variable {root : Element} {policy : ParentPolicy} {id : String}

lemma firstWith?_eq : firstWith? root id =
    ((visits root).zipIdx.find? (Identities.bears id)).map Prod.fst := by
  have hf : ((visits root).zipIdx.map Prod.fst).find? (·.element.id = some id) =
      ((visits root).zipIdx.find? (Identities.bears id)).map Prod.fst := List.find?_map
  rwa [List.zipIdx_map_fst] at hf

lemma mem_views_iff {r : Record} : r ∈ (ViewIndex.ofLayout root policy).views ↔
    ∃ j p, (visits root).zipIdx.find? (Identities.bears j) = some p ∧
      r = ViewIndex.record policy (Identities.ofVisits (visits root))
        ((Identities.ofVisits (visits root)).owners (visits root)) p := by
  have hx : (ViewIndex.ofLayout root policy).slots = (Identities.ofVisits (visits root)).slots := rfl
  have hget : ∀ p ∈ (visits root).zipIdx, (ViewIndex.ofLayout root policy).records[p.2]? =
      some (ViewIndex.record policy (Identities.ofVisits (visits root))
        ((Identities.ofVisits (visits root)).owners (visits root)) p) := by
    intro p hp
    have hv := List.mem_zipIdx_iff_getElem?.mp hp
    simp [ViewIndex.ofLayout, List.getElem?_zipIdx, hv]
  unfold ViewIndex.views Dict.values
  rw [hx]
  simp only [List.mem_filterMap, List.mem_map]
  constructor
  · rintro ⟨slot, ⟨⟨j, _⟩, he, rfl⟩, hr⟩
    have hs := (Assoc.get?_eq_some_iff (Identities.ofVisits (visits root)).slots.nodup_keys).mpr he
    change (Identities.ofVisits (visits root)).slots.get? j = some _ at hs
    rw [Identities.get?_ofVisits] at hs
    obtain ⟨p, hp, rfl⟩ := Option.map_eq_some_iff.mp hs
    rw [hget p (List.mem_of_find?_eq_some hp)] at hr
    exact ⟨j, p, hp, (Option.some.inj hr).symm⟩
  · rintro ⟨j, p, hp, rfl⟩
    have hs : (Identities.ofVisits (visits root)).slots.get? j = some p.2 := by
      rw [Identities.get?_ofVisits, hp]
      rfl
    have hm := (Assoc.get?_eq_some_iff (Identities.ofVisits (visits root)).slots.nodup_keys).mp hs
    exact ⟨p.2, ⟨(j, p.2), hm, rfl⟩, hget p (List.mem_of_find?_eq_some hp)⟩

lemma exists_container_iff : (∃ r ∈ (ViewIndex.ofLayout root policy).containers, r.id = id) ↔
    ∃ v, firstWith? root id = some v ∧ v.element.isLeaf = false := by
  have hid : ∀ {j p}, (visits root).zipIdx.find? (Identities.bears j) = some p →
      p.1.element.id = some j := fun hp => by simpa [Identities.bears] using List.find?_some hp
  simp only [ViewIndex.containers, List.mem_filter, mem_views_iff, firstWith?_eq]
  constructor
  · rintro ⟨r, ⟨⟨j, p, hp, rfl⟩, hl⟩, rfl⟩
    have hj : (ViewIndex.record policy (Identities.ofVisits (visits root))
        ((Identities.ofVisits (visits root)).owners (visits root)) p).id = j := by
      simp [ViewIndex.record, hid hp]
    rw [hj, hp]
    exact ⟨p.1, rfl, by simpa [ViewIndex.record] using hl⟩
  · rintro ⟨v, hv, hl⟩
    obtain ⟨p, hp, rfl⟩ := Option.map_eq_some_iff.mp hv
    refine ⟨_, ⟨⟨id, p, hp, rfl⟩, by simpa [ViewIndex.record] using hl⟩, ?_⟩
    simp [ViewIndex.record, hid hp]

end Index

end LayoutSync.Layout
