import LayoutSync.Proofs.Layout.CanonicalForm
import LayoutSync.Proofs.Layout.Completion
import LayoutSync.Proofs.Layout.Visits

/-!
References from a layout in canonical form to its parameters. An element refers to the parameters
under its own id. They are there just if they were there before, or if the element that is visited
first among those with this id has children.
-/

namespace LayoutSync.Layout

open Markup

lemma reference_injective {a b : String} (h : reference a = reference b) : a = b := by
  unfold reference at h
  rw [← String.toList_inj] at h ⊢
  simpa using h

/-- Every reference is to parameters under the element's own id, and what becomes of these is
decided where the id appears first. -/
def RefersWithin (root : Element) (before after : Parameters) : Prop :=
  root.Every fun e => ∀ id, e.attr "layout" = some (reference id) →
    e.id = some id ∧ ∃ first, firstWith? root id = some first ∧
      ((Assoc.get? id after).isSome ↔
        first.element.isLeaf = false ∨ (Assoc.get? id before).isSome)

section Canonical

variable {root : Element} {name : String}

lemma IsSettled.id_of_reference {e : Element} (h : IsSettled e) {id : String}
    (hr : e.attr "layout" = some (reference id)) : e.id = some id := by
  rw [h.layout] at hr
  split at hr
  · cases hr
  · obtain ⟨i, hi, he⟩ := Option.map_eq_some_iff.mp hr
    rw [hi, reference_injective he]

lemma IsSettledRoot.id_of_reference {e : Element} (h : IsSettledRoot e name) (hn : name ≠ "")
    {id : String} (hr : e.attr "layout" = some (reference id)) : e.id = some id := by
  rw [h.layout] at hr
  obtain rfl := reference_injective (Option.some.inj hr)
  simp [Element.id, Element.nonEmptyAttr, h.id, hn]

lemma IsCanonical.id_of_reference (h : IsCanonical root name) (hn : name ≠ "") :
    root.Every fun e => ∀ id, e.attr "layout" = some (reference id) → e.id = some id :=
  .intro (fun _ hr => h.1.id_of_reference hn hr) fun c hc =>
    (h.2 c hc).mono fun _ he _ hr => he.id_of_reference hr

lemma every_firstWith? (root : Element) :
    root.Every fun e => ∀ id, e.id = some id → ∃ first, firstWith? root id = some first := by
  apply (every_visited root).mono
  rintro e ⟨v, hv, he⟩ id hid
  rw [← Option.isSome_iff_exists, firstWith?, List.find?_isSome]
  exact ⟨v, hv, by simpa [he, id_grouped] using hid⟩

end Canonical

section Keys

open ParametersUpdate

variable (x : ViewIndex) (defaultType : String)

lemma isSome_get?_addContainer (u : ParametersUpdate) (r : Record) (id : String) :
    (Assoc.get? id (addContainer x defaultType u r).parameters).isSome ↔
      r.id = id ∨ (Assoc.get? id u.parameters).isSome := by
  rcases parameters_addContainer x defaultType u r with ⟨h, v, hv, _⟩ | ⟨entry, h, _⟩
  · rw [h]
    refine ⟨.inr, ?_⟩
    rintro (rfl | hs)
    · simp [hv]
    · exact hs
  · rw [h]
    by_cases hi : r.id = id
    · simp [hi, Assoc.get?_put_self]
    · simp [hi, Assoc.get?_put_of_ne _ _ (Ne.symm hi)]

lemma isSome_get?_foldl (u : ParametersUpdate) (rs : List Record) (id : String) :
    (Assoc.get? id (rs.foldl (addContainer x defaultType) u).parameters).isSome ↔
      (∃ r ∈ rs, r.id = id) ∨ (Assoc.get? id u.parameters).isSome := by
  induction rs generalizing u with
  | nil => simp
  | cons r rs ih =>
    rw [List.foldl_cons, ih, isSome_get?_addContainer, List.exists_mem_cons_iff, or_left_comm,
      or_assoc]

lemma isSome_get?_ofParameters (p : Parameters) (id : String) :
    (Assoc.get? id (ofParameters x defaultType p).parameters).isSome ↔
      (∃ r ∈ x.containers, r.id = id) ∨ (Assoc.get? id p).isSome :=
  isSome_get?_foldl x defaultType { parameters := p } x.containers id

end Keys

lemma refersWithin_normalize (root : Element) {name : String} (hn : name ≠ "")
    (policy : ParentPolicy) (p : Parameters) (defaultType : String) :
    RefersWithin (normalize root name).1 p (ParametersUpdate.ofParameters
      (ViewIndex.ofLayout (normalize root name).1 policy) defaultType p).parameters := by
  have hid := (isCanonical_normalize root name).id_of_reference hn
  apply (hid.and (every_firstWith? _)).mono
  rintro e ⟨he, hf⟩ id hr
  obtain ⟨first, hv⟩ := hf id (he id hr)
  refine ⟨he id hr, first, hv, ?_⟩
  rw [isSome_get?_ofParameters, exists_container_iff, hv]
  simp

end LayoutSync.Layout
