import LayoutSync.Proofs.Layout.ParameterFile
import LayoutSync.Proofs.Layout.Provision

namespace LayoutSync.Layout

open Json Markup

namespace Parameters

variable {defaultType : String} {children : List String} {old new : Parameters}

def withMissing (children : List String) : Value → Value
  | .object ps =>
    .object (ps ++ (children.filter (· ∉ Assoc.keys ps)).map fun c => (c, .object []))
  | v => v

/-- An entry with all its members, the parameters that its views lacked, and the keys that it
lacked. -/
structure CompletesEntry (defaultType : String) (children : List String) (old new : Parameters) :
    Prop where
  keys : Assoc.keys new = Assoc.keys old ++ ["type", "params"].filter (· ∉ Assoc.keys old)
  type : Assoc.get? "type" new = some ((Assoc.get? "type" old).getD (.string defaultType))
  params : Assoc.get? "params" new =
    some (withMissing children ((Assoc.get? "params" old).getD (.object [])))
  kept : ∀ k, k ≠ "type" → k ≠ "params" → Assoc.get? k new = Assoc.get? k old

section Ensure

variable (k : String) (v : Value) (ms : Parameters)

lemma keys_ensure :
    Assoc.keys (ensure k v ms) = Assoc.keys ms ++ [k].filter (· ∉ Assoc.keys ms) := by
  unfold ensure
  cases hg : Assoc.get? k ms with
  | none => simp [Assoc.keys_append, Assoc.get?_eq_none_iff.mp hg]
  | some w => simp [Assoc.mem_keys_iff, hg]

lemma get?_ensure_self : Assoc.get? k (ensure k v ms) = some ((Assoc.get? k ms).getD v) := by
  unfold ensure
  cases hg : Assoc.get? k ms with
  | none => simp [Assoc.get?_append, Assoc.get?, hg]
  | some w => simp [hg]

lemma get?_ensure_of_ne {j : String} (h : j ≠ k) :
    Assoc.get? j (ensure k v ms) = Assoc.get? j ms := by
  unfold ensure
  split
  · rfl
  · simp [Assoc.get?_append, Assoc.get?, h.symm]

end Ensure

lemma missing_eq (ms : Parameters) (ks : List String) :
    missing ms ks = ks.filter (· ∉ Assoc.keys ms) :=
  List.filter_congr fun k _ => by
    rw [Bool.eq_iff_iff, Option.isNone_iff_eq_none, Assoc.get?_eq_none_iff, decide_eq_true_iff]

lemma withAll_eq (hn : children.Nodup) (ps : Parameters) :
    withAll children ps =
      ps ++ (children.filter (· ∉ Assoc.keys ps)).map fun c => (c, .object []) := by
  induction children generalizing ps with
  | nil => simp [withAll]
  | cons c cs ih =>
    obtain ⟨hc, hn⟩ := List.nodup_cons.mp hn
    have hstep : withAll (c :: cs) ps = withAll cs (ensure c (.object []) ps) := rfl
    by_cases hk : c ∈ Assoc.keys ps
    · rw [hstep, ensure_of_isSome _ (Assoc.mem_keys_iff.mp hk), ih hn ps,
        List.filter_cons_of_neg (by simpa using hk)]
    · have he : ensure c (.object []) ps = ps ++ [(c, .object [])] := by
        simp [ensure, Assoc.get?_eq_none_iff.mpr hk]
      -- The others are as new as before, since they are other views.
      have hf : cs.filter (· ∉ Assoc.keys (ps ++ [(c, Value.object [])])) =
          cs.filter (· ∉ Assoc.keys ps) := by
        refine List.filter_congr fun d hd => ?_
        have hdc : d ≠ c := fun h => hc (h ▸ hd)
        simp [Assoc.keys_append, hdc]
      rw [hstep, he, ih hn, hf, List.filter_cons_of_pos (by simpa using hk), List.map_cons,
        List.append_assoc]
      rfl

section Entry

variable (defaultType old)

lemma keys_withKeys : Assoc.keys (withKeys defaultType old) =
    Assoc.keys old ++ ["type", "params"].filter (· ∉ Assoc.keys old) := by
  have hp : "params" ∈ Assoc.keys (ensure "type" (.string defaultType) old) ↔
      "params" ∈ Assoc.keys old := by
    rw [keys_ensure, List.mem_append, or_iff_left_iff_imp]
    intro h
    exact absurd (List.mem_singleton.mp (List.mem_of_mem_filter h)) (by decide)
  have hs : ["type", "params"].filter (· ∉ Assoc.keys old) =
      ["type"].filter (· ∉ Assoc.keys old) ++ ["params"].filter (· ∉ Assoc.keys old) :=
    List.filter_append ["type"] ["params"]
  have hf : ["params"].filter (· ∉ Assoc.keys (ensure "type" (.string defaultType) old)) =
      ["params"].filter (· ∉ Assoc.keys old) :=
    List.filter_congr fun k hk => by rw [List.mem_singleton.mp hk, decide_eq_decide, hp]
  rw [withKeys, keys_ensure, hf, keys_ensure, hs, List.append_assoc]

lemma get?_params_withKeys : Assoc.get? "params" (withKeys defaultType old) =
    some ((Assoc.get? "params" old).getD (.object [])) := by
  rw [withKeys, get?_ensure_self, get?_ensure_of_ne _ _ _ (by decide)]

lemma completeEntry_eq (hn : children.Nodup) : completeEntry defaultType children old =
    Assoc.put "params" (withMissing children ((Assoc.get? "params" old).getD (.object [])))
      (withKeys defaultType old) := by
  have hg := get?_params_withKeys defaultType old
  rw [completeEntry, ← withKeys, hg]
  cases hv : (Assoc.get? "params" old).getD (.object []) with
  | object ps =>
    dsimp only [withMissing]
    rw [← withAll, withAll_eq hn]
  | _ =>
    rw [hv] at hg
    exact (Assoc.put_of_get? hg).symm

lemma completesEntry_completeEntry (hn : children.Nodup) :
    CompletesEntry defaultType children old (completeEntry defaultType children old) := by
  have hk : "params" ∈ Assoc.keys (withKeys defaultType old) := by
    rw [Assoc.mem_keys_iff, get?_params_withKeys]
    rfl
  rw [completeEntry_eq defaultType old hn]
  refine ⟨?_, ?_, Assoc.get?_put_self _ _ _, fun k ht hp => ?_⟩
  · rw [Assoc.keys_put_of_mem hk, keys_withKeys]
  · rw [Assoc.get?_put_of_ne _ _ (by decide), withKeys, get?_ensure_of_ne _ _ _ (by decide),
      get?_ensure_self]
  · rw [Assoc.get?_put_of_ne _ _ hp, withKeys, get?_ensure_of_ne _ _ _ hp,
      get?_ensure_of_ne _ _ _ ht]

end Entry

def viewsOf (entry : Parameters) : List String :=
  match Assoc.get? "params" entry with
  | some (.object ps) => Assoc.keys ps
  | _ => []

def viewsFor (p : Parameters) (id : String) : List String :=
  match Assoc.get? id p with
  | some (.object entry) => viewsOf entry
  | _ => []

def IsEntry (p : Parameters) (id : String) (entry : Parameters) : Prop :=
  Assoc.get? id p = none ∧ entry = [] ∨ Assoc.get? id p = some (.object entry)

lemma not_isEntry {p entry : Parameters} {id : String} {v : Value} (hv : Assoc.get? id p = some v)
    (hno : ∀ entry, v ≠ .object entry) : ¬ IsEntry p id entry := by
  rintro (⟨hn, _⟩ | hs)
  · rw [hv] at hn
    cases hn
  · exact hno entry (Option.some.inj (hv.symm.trans hs))

lemma IsEntry.unique {p entry entry' : Parameters} {id : String} (h : IsEntry p id entry)
    (h' : IsEntry p id entry') : entry = entry' := by
  rcases h with ⟨hn, rfl⟩ | hs <;> rcases h' with ⟨hn', rfl⟩ | hs'
  · rfl
  · rw [hn] at hs'
    cases hs'
  · rw [hs] at hn'
    cases hn'
  · exact Value.object.inj (Option.some.inj (hs.symm.trans hs'))

lemma viewsFor_of_isEntry {p entry : Parameters} {id : String} (h : IsEntry p id entry) :
    viewsFor p id = viewsOf entry := by
  unfold viewsFor
  rcases h with ⟨hn, rfl⟩ | hs
  · rw [hn]
    rfl
  · rw [hs]

lemma CompletesEntry.missingParameters (h : CompletesEntry defaultType children old new) :
    missingParameters children old = (viewsOf new).filter (· ∉ viewsOf old) := by
  have hp := h.params
  unfold Parameters.missingParameters viewsOf
  rw [hp]
  cases hg : Assoc.get? "params" old with
  | none => simp [withMissing, Assoc.keys, Function.comp_def]
  | some v =>
    cases v with
    | object ps =>
      have hold : (Assoc.keys ps).filter (· ∉ Assoc.keys ps) = [] := by simp
      have hnew : Assoc.keys ((children.filter (· ∉ Assoc.keys ps)).map fun c =>
          (c, Value.object [])) = children.filter (· ∉ Assoc.keys ps) := by
        simp [Assoc.keys, Function.comp_def]
      dsimp only [Option.getD_some, withMissing]
      rw [missing_eq, Assoc.keys_append, hnew, List.filter_append, hold, List.nil_append,
        List.filter_filter]
      simp only [Bool.and_self]
    | _ => rfl

end Parameters

open Parameters ParametersUpdate

/-- A file that was completed for containers: members that are new follow, other members and what
blocks an entry stay as they are, and every entry is completed. What is new is listed. -/
structure LeastCompletion (x : ViewIndex) (defaultType : String) (containers : List Record)
    (p : Parameters) (u : ParametersUpdate) : Prop where
  keys : Assoc.keys u.parameters =
    Assoc.keys p ++ (containers.map (·.id)).filter (· ∉ Assoc.keys p)
  others : ∀ k, k ∉ containers.map (·.id) → Assoc.get? k u.parameters = Assoc.get? k p
  blocked : ∀ k v, Assoc.get? k p = some v → (∀ entry, v ≠ .object entry) →
    Assoc.get? k u.parameters = some v
  entries : ∀ r ∈ containers, ∀ old, IsEntry p r.id old → ∃ new,
    Assoc.get? r.id u.parameters = some (.object new) ∧
      CompletesEntry defaultType ((x.childrenOf r).map (·.id)) old new
  addedEntries : u.addedEntries = (containers.map (·.id)).filter (· ∉ Assoc.keys p)
  addedParameters : u.addedParameters = containers.flatMap fun r =>
    ((viewsFor u.parameters r.id).filter (· ∉ viewsFor p r.id)).map (r.id, ·)

section Run

variable {x : ViewIndex} {defaultType : String} {p : Parameters}

lemma viewsFor_congr {q : Parameters} {id : String} (h : Assoc.get? id q = Assoc.get? id p) :
    viewsFor q id = viewsFor p id := by
  rw [viewsFor, h]
  rfl

section Step

variable {rs : List Record} {u : ParametersUpdate} {r : Record}

lemma newIds_concat : ((rs ++ [r]).map (·.id)).filter (· ∉ Assoc.keys p) =
    (rs.map (·.id)).filter (· ∉ Assoc.keys p) ++ if r.id ∈ Assoc.keys p then [] else [r.id] := by
  by_cases hk : r.id ∈ Assoc.keys p <;> simp [List.filter_append, hk]

namespace LeastCompletion

lemma mem_keys_iff (h : LeastCompletion x defaultType rs p u) (hr : r.id ∉ rs.map (·.id)) :
    r.id ∈ Assoc.keys u.parameters ↔ r.id ∈ Assoc.keys p := by
  rw [Assoc.mem_keys_iff, Assoc.mem_keys_iff, h.others r.id hr]

lemma pass (h : LeastCompletion x defaultType rs p u) {v : Value}
    (hv : Assoc.get? r.id p = some v) (hno : ∀ entry, v ≠ .object entry) :
    LeastCompletion x defaultType (rs ++ [r]) p u := by
  have hk : r.id ∈ Assoc.keys p := by simp [Assoc.mem_keys_iff, hv]
  have hviews : viewsFor u.parameters r.id = [] := by
    unfold viewsFor
    rw [h.blocked _ v hv hno]
    cases v with
    | object e => exact absurd rfl (hno e)
    | _ => rfl
  refine ⟨?_, fun k hk => h.others k fun hm => hk ?_, h.blocked, fun r' hr' old hold => ?_, ?_, ?_⟩
  · rw [newIds_concat, if_pos hk, List.append_nil, h.keys]
  · rw [List.map_append]
    exact List.mem_append_left _ hm
  · rcases List.mem_append.mp hr' with hr' | hr'
    · exact h.entries r' hr' old hold
    · obtain rfl := List.mem_singleton.mp hr'
      exact absurd hold (not_isEntry hv hno)
  · rw [newIds_concat, if_pos hk, List.append_nil, h.addedEntries]
  · rw [List.flatMap_append, List.flatMap_singleton, hviews, List.filter_nil, List.map_nil,
      List.append_nil, h.addedParameters]

lemma put (h : LeastCompletion x defaultType rs p u) (hr : r.id ∉ rs.map (·.id))
    (hn : (viewsIn x r).Nodup) {entry : Parameters} (hentry : IsEntry p r.id entry)
    {u' : ParametersUpdate}
    (hp : u'.parameters =
      Assoc.put r.id (.object (completeEntry defaultType (viewsIn x r) entry)) u.parameters)
    (ha : u'.addedEntries = u.addedEntries ++ if r.id ∈ Assoc.keys p then [] else [r.id])
    (ha' : u'.addedParameters =
      u.addedParameters ++ (missingParameters (viewsIn x r) entry).map (r.id, ·)) :
    LeastCompletion x defaultType (rs ++ [r]) p u' := by
  -- Only the container's own place changes, which none of the containers before has.
  have hc := completesEntry_completeEntry defaultType entry hn
  have hnew : Assoc.get? r.id u'.parameters =
      some (.object (completeEntry defaultType (viewsIn x r) entry)) := by
    rw [hp, Assoc.get?_put_self]
  have hframe : ∀ k, k ≠ r.id → Assoc.get? k u'.parameters = Assoc.get? k u.parameters :=
    fun k hk => by rw [hp, Assoc.get?_put_of_ne _ _ hk]
  have hne : ∀ r' ∈ rs, r'.id ≠ r.id := fun r' hr' he => hr (he ▸ List.mem_map_of_mem hr')
  have hkeys := h.mem_keys_iff hr
  refine ⟨?_, fun k hk => ?_, fun k v hkv hno => ?_, fun r' hr' old hold => ?_, ?_, ?_⟩
  · rw [hp, newIds_concat, ← List.append_assoc, ← h.keys]
    split
    next hk => rw [Assoc.keys_put_of_mem (hkeys.mpr hk), List.append_nil]
    next hk =>
      rw [Assoc.put_of_not_mem (mt hkeys.mp hk), Assoc.keys_append]
      rfl
  · obtain ⟨hk, hkr⟩ : k ∉ rs.map (·.id) ∧ k ≠ r.id := by simpa using hk
    rw [hframe k hkr, h.others k (by simpa using hk)]
  · have hkr : k ≠ r.id := by
      rintro rfl
      exact not_isEntry hkv hno hentry
    rw [hframe k hkr, h.blocked k v hkv hno]
  · rcases List.mem_append.mp hr' with hr' | hr'
    · rw [hframe _ (hne r' hr')]
      exact h.entries r' hr' old hold
    · obtain rfl := List.mem_singleton.mp hr'
      exact ⟨_, hnew, hold.unique hentry ▸ hc⟩
  · rw [ha, newIds_concat, h.addedEntries]
  · rw [ha', List.flatMap_append, List.flatMap_singleton, h.addedParameters,
      viewsFor_of_isEntry hentry, viewsFor_of_isEntry (.inr hnew), ← hc.missingParameters]
    congr 1
    exact List.flatMap_congr fun r' hr' => by rw [viewsFor_congr (hframe _ (hne r' hr'))]

lemma step (h : LeastCompletion x defaultType rs p u) (hr : r.id ∉ rs.map (·.id))
    (hn : (viewsIn x r).Nodup) :
    LeastCompletion x defaultType (rs ++ [r]) p (addContainer x defaultType u r) := by
  have hget := h.others r.id hr
  rcases addContainer_cases x defaultType u r with ⟨v, hv, hno, he⟩ | ⟨entry, hentry, hp, ha, ha'⟩
  · rw [he]
    exact h.pass (hget.symm.trans hv) hno
  · rw [hget] at hentry
    simp only [h.mem_keys_iff hr] at ha
    exact h.put hr hn hentry hp ha ha'

end LeastCompletion

end Step

lemma leastCompletion_foldl {rs : List Record} (hr : (rs.map (·.id)).Nodup)
    (hn : ∀ r ∈ rs, (viewsIn x r).Nodup) :
    LeastCompletion x defaultType rs p (rs.foldl (addContainer x defaultType) { parameters := p }) := by
  induction rs using List.reverseRecOn with
  | nil => exact ⟨by simp, fun _ _ => rfl, fun _ _ h _ => h, by simp, rfl, rfl⟩
  | append_singleton rs r ih =>
    rw [List.map_append, List.nodup_append] at hr
    obtain ⟨hrs, _, hd⟩ := hr
    rw [List.foldl_append]
    refine (ih hrs fun r' hr' => hn r' (List.mem_append_left _ hr')).step (fun hm => ?_)
      (hn r (by simp))
    exact hd _ hm r.id (by simp) rfl

variable (x defaultType p)

lemma changed_ofParameters_iff : (ofParameters x defaultType p).changed = true ↔
    (ofParameters x defaultType p).parameters ≠ p := by
  constructor
  · intro hc he
    -- A file that is as it was had all that is needed, so there was nothing to say.
    have hp : ∀ r ∈ x.containers, Completed x r p := fun r hr =>
      he ▸ completed_foldl x defaultType _ _ hr
    have hu : ofParameters x defaultType p = { parameters := p } :=
      foldl_of_completed x defaultType hp
    rw [hu] at hc
    cases hc
  · intro hne
    by_contra hc
    exact hne (parameters_of_unchanged x defaultType (by simpa using hc))

end Run

section Index

variable (root : Element) (policy : ParentPolicy)

lemma nodup_ids_containers :
    ((ViewIndex.ofLayout root policy).containers.map (·.id)).Nodup := by
  have hs : ((ViewIndex.ofLayout root policy).containers.map (·.id)).Sublist
      ((ViewIndex.ofLayout root policy).views.map (·.id)) := List.filter_sublist.map _
  rw [ids_views] at hs
  exact hs.nodup (ViewIndex.ofLayout root policy).slots.nodup_keys

variable {root policy} in
lemma nodup_viewsIn {r : Record} (hr : r ∈ (ViewIndex.ofLayout root policy).views) :
    (viewsIn (ViewIndex.ofLayout root policy) r).Nodup := by
  obtain ⟨j, hj⟩ := exists_slot_of_mem_views hr
  rw [viewsIn_eq hr]
  exact (childIds_sublist hj).nodup (ViewIndex.ofLayout root policy).slots.nodup_keys

/-- A parameter file that can be read is completed for all containers of a layout. Nothing else is
added, what is added is listed, and the file counts as changed just if it is another one. -/
theorem syncParameters_least {existing : Option String} {p : Parameters}
    (h : Parameters.parse existing = .ok p) (defaultType : String) :
    let x := ViewIndex.ofLayout root policy
    ∃ u, syncParameters x existing defaultType = .ok u ∧
      LeastCompletion x defaultType x.containers p u ∧
      (Assoc.keys u.parameters).Nodup ∧
      (u.changed = true ↔ u.parameters ≠ p) := by
  intro x
  have hl : LeastCompletion x defaultType x.containers p (ofParameters x defaultType p) :=
    leastCompletion_foldl (nodup_ids_containers root policy) fun r hr =>
      nodup_viewsIn (List.mem_of_mem_filter hr)
  refine ⟨ofParameters x defaultType p, ?_, hl, ?_, changed_ofParameters_iff x defaultType p⟩
  · rw [syncParameters, h]
    rfl
  · cases fits_ofParameters (fits_of_parse h) x defaultType with
    | object hk _ => exact hk

def formSample : Element where
  tag := "CompositeView"
  attributes := Dict.ofList [("id", "form")]
  children := [
    { tag := "RowView", attributes := Dict.ofList [("id", "row")], children := [
      { tag := "ButtonView", attributes := Dict.ofList [("id", "ok")] }] },
    { tag := "TextView", attributes := Dict.ofList [("id", "title")] }]

def formParameters : Parameters := [
  ("row", .bool true),
  ("form", .object [("params", .object [("title", .null), ("old", .object [])])])]

lemma parse_formParameters : Parameters.parse (some formParameters.print) = .ok formParameters := by
  refine parse_print (.object (by decide) (List.forall_mem_cons.mpr ⟨.bool _ _, ?_⟩))
  refine List.forall_mem_singleton.mpr (.object (by decide) (List.forall_mem_singleton.mpr ?_))
  refine .object (by decide) (List.forall_mem_cons.mpr ⟨.null _, ?_⟩)
  exact List.forall_mem_singleton.mpr fits_empty

theorem syncParameters_least_form :
    let x := ViewIndex.ofLayout formSample .structural
    Parameters.parse (some formParameters.print) = .ok formParameters ∧
      ∃ u, syncParameters x (some formParameters.print) "View" = .ok u ∧
        LeastCompletion x "View" x.containers formParameters u ∧
        (Assoc.keys u.parameters).Nodup ∧
        (u.changed = true ↔ u.parameters ≠ formParameters) :=
  ⟨parse_formParameters, syncParameters_least formSample .structural parse_formParameters "View"⟩

end Index

end LayoutSync.Layout
