import LayoutSync.Proofs.Layout.Completion
import LayoutSync.Proofs.Layout.Ownership

namespace LayoutSync.Layout

open Json Markup

namespace Parameters

def OpenEntry (entry : Parameters) : Prop :=
  ∀ v, Assoc.get? "params" entry = some v → ∃ ps, v = .object ps

def Open (p : Parameters) (id : String) : Prop :=
  ∀ v, Assoc.get? id p = some v → ∃ entry, v = .object entry ∧ OpenEntry entry

/-- The container has a type, and each of the views has parameters in it. -/
def Provides (p : Parameters) (id : String) (children : List String) : Prop :=
  ∃ entry ps, Assoc.get? id p = some (.object entry) ∧ (Assoc.get? "type" entry).isSome ∧
    Assoc.get? "params" entry = some (.object ps) ∧ ∀ c ∈ children, (Assoc.get? c ps).isSome

section Open

variable {p entry : Parameters} {id : String}

lemma openEntry_nil : OpenEntry [] := by
  intro v hv
  cases hv

lemma OpenEntry.ensure (h : OpenEntry entry) {k : String} {v : Value}
    (hv : k = "params" → ∃ ps, v = .object ps) : OpenEntry (ensure k v entry) := by
  unfold Parameters.ensure
  split
  · exact h
  · intro w hw
    rw [Assoc.get?_append] at hw
    cases hg : Assoc.get? "params" entry with
    | some u =>
      rw [hg, Option.some_or] at hw
      exact h w (hg.trans hw)
    | none =>
      rw [hg, Option.none_or] at hw
      by_cases hk : k = "params"
      · obtain ⟨ps, rfl⟩ := hv hk
        exact ⟨ps, by simpa [Assoc.get?, hk] using hw.symm⟩
      · simp [Assoc.get?, hk] at hw

lemma OpenEntry.withKeys (h : OpenEntry entry) (defaultType : String) :
    OpenEntry (withKeys defaultType entry) :=
  (h.ensure fun hk => absurd hk (by decide)).ensure fun _ => ⟨[], rfl⟩

lemma OpenEntry.completeEntry (h : OpenEntry entry) (defaultType : String)
    (children : List String) : OpenEntry (completeEntry defaultType children entry) := by
  have hw := h.withKeys defaultType
  unfold Parameters.completeEntry
  dsimp only
  split
  · intro v hv
    rw [Assoc.get?_put_self] at hv
    exact ⟨_, (Option.some.inj hv).symm⟩
  · exact hw

end Open

end Parameters

namespace ParametersUpdate

open Parameters

variable (x : ViewIndex) (defaultType : String)

lemma open_addContainer {u : ParametersUpdate} {id : String} (h : Open u.parameters id)
    (r : Record) : Open (addContainer x defaultType u r).parameters id := by
  rcases parameters_addContainer x defaultType u r with ⟨he, _⟩ | ⟨entry, he, hentry⟩
  · rwa [he]
  · rw [he]
    by_cases hi : id = r.id
    · subst hi
      intro v hv
      rw [Assoc.get?_put_self] at hv
      refine ⟨_, (Option.some.inj hv).symm, OpenEntry.completeEntry ?_ _ _⟩
      rcases hentry with ⟨_, rfl⟩ | hg
      · exact openEntry_nil
      · obtain ⟨e, hv, ho⟩ := h _ hg
        rwa [Value.object.inj hv]
    · intro v hv
      rw [Assoc.get?_put_of_ne _ _ hi] at hv
      exact h v hv

lemma open_foldl {u : ParametersUpdate} {id : String} (h : Open u.parameters id)
    (rs : List Record) : Open (rs.foldl (addContainer x defaultType) u).parameters id :=
  List.foldlRecOn (motive := fun u : ParametersUpdate => Open u.parameters id) rs
    (addContainer x defaultType) h fun _ hu r _ => open_addContainer x defaultType hu r

lemma provides_ofParameters {p : Parameters} {r : Record} (hr : r ∈ x.containers)
    (h : Open p r.id) :
    Provides (ofParameters x defaultType p).parameters r.id (viewsIn x r) := by
  have hc : Completed x r (ofParameters x defaultType p).parameters :=
    completed_foldl x defaultType _ _ hr
  have ho : Open (ofParameters x defaultType p).parameters r.id :=
    open_foldl x defaultType (u := { parameters := p }) h _
  obtain ⟨v, hv⟩ := Option.isSome_iff_exists.mp hc.1
  obtain ⟨entry, rfl, hentry⟩ := ho v hv
  obtain ⟨ht, hp, hm⟩ := isComplete_iff.mp (hc.2 entry hv)
  obtain ⟨w, hw⟩ := Option.isSome_iff_exists.mp hp
  obtain ⟨ps, rfl⟩ := hentry w hw
  exact ⟨entry, ps, hv, ht, hw, missing_eq_nil_iff.mp (hm ps hw)⟩

lemma changed_addContainer {u : ParametersUpdate} {r : Record}
    (h : (addContainer x defaultType u r).changed = false) :
    u.changed = false ∧ (addContainer x defaultType u r).parameters = u.parameters := by
  unfold addContainer at h ⊢
  dsimp only at h ⊢
  split at h
  · -- An entry that was not there is not complete.
    have hi : isComplete ((x.childrenOf r).map (·.id)) [] = false := rfl
    rw [hi] at h
    simp at h
  next entry he =>
    rw [Bool.or_eq_false_iff, Bool.not_eq_false'] at h
    rw [completeEntry_of_isComplete defaultType h.2]
    exact ⟨h.1, Assoc.put_of_get? he⟩
  · exact ⟨h, rfl⟩

lemma parameters_of_unchanged {p : Parameters}
    (h : (ofParameters x defaultType p).changed = false) :
    (ofParameters x defaultType p).parameters = p := by
  -- A change is never taken back, so that there was none before the last container either.
  refine List.foldlRecOn
    (motive := fun u : ParametersUpdate => u.changed = false → u.parameters = p)
    x.containers (addContainer x defaultType) (fun _ => rfl) (fun u hu r _ hc => ?_) h
  obtain ⟨hc', he⟩ := changed_addContainer x defaultType hc
  exact he.trans (hu hc')

end ParametersUpdate

section Index

variable {root : Element} {policy : ParentPolicy} {r : Record} {id : String}

lemma exists_slot_of_mem_views (hr : r ∈ (ViewIndex.ofLayout root policy).views) :
    ∃ slot : Nat, (ViewIndex.ofLayout root policy).records[slot]? = some r := by
  obtain ⟨slot, _, hs⟩ := List.mem_filterMap.mp hr
  exact ⟨slot, hs⟩

lemma exists_view_of_mem_ids (h : id ∈ (ViewIndex.ofLayout root policy).ids) :
    ∃ r ∈ (ViewIndex.ofLayout root policy).views, r.id = id := by
  obtain ⟨⟨_, slot⟩, he, rfl⟩ := List.mem_map.mp h
  obtain ⟨r, hr⟩ := exists_record_of_slot policy he
  exact ⟨r, List.mem_filterMap.mpr ⟨slot, List.mem_map_of_mem he, hr⟩, id_eq_of_slot he hr⟩

lemma ids_filterMap_records {es : List (String × Nat)}
    (he : ∀ e ∈ es, e ∈ (ViewIndex.ofLayout root policy).slots.entries) :
    (es.filterMap fun e => (ViewIndex.ofLayout root policy).records[e.2]?).map (·.id) =
      es.map Prod.fst := by
  induction es with
  | nil => rfl
  | cons e es ih =>
    obtain ⟨hm, he⟩ := List.forall_mem_cons.mp he
    obtain ⟨r, hr⟩ := exists_record_of_slot policy hm
    simp only [List.filterMap_cons, hr, List.map_cons, id_eq_of_slot hm hr, ih he]

lemma viewsIn_eq (hr : r ∈ (ViewIndex.ofLayout root policy).views) :
    ParametersUpdate.viewsIn (ViewIndex.ofLayout root policy) r = r.childIds := by
  obtain ⟨j, hj⟩ := exists_slot_of_mem_views hr
  refine ids_filterMap_records fun c hc => ?_
  rw [children_eq hj] at hc
  exact List.mem_of_mem_filter hc

lemma ids_views (root : Element) (policy : ParentPolicy) :
    (ViewIndex.ofLayout root policy).views.map (·.id) = (ViewIndex.ofLayout root policy).ids := by
  rw [ViewIndex.views, Dict.values, List.filterMap_map]
  exact ids_filterMap_records fun _ he => he

end Index

end LayoutSync.Layout
