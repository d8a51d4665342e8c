import LayoutSync.Layout.Parameters
import Mathlib.Data.List.Forall2
import Mathlib.Tactic.Lemma

/-!
Parameters are only added to: members keep their places, and their values up to parameters that are
gained. What has been completed for a container stays complete, so completing twice changes nothing.
-/

namespace LayoutSync

lemma Assoc.keys_append {κ α : Type} (l m : List (κ × α)) : keys (l ++ m) = keys l ++ keys m :=
  List.map_append

lemma Assoc.mem_keys_iff {κ α : Type} [DecidableEq κ] {k : κ} {l : List (κ × α)} :
    k ∈ keys l ↔ (get? k l).isSome := by
  rw [Option.isSome_iff_ne_none, ne_eq, get?_eq_none_iff, Decidable.not_not]

namespace Layout

open Json

namespace Parameters

def Grows (R : String × Value → String × Value → Prop) (old new : Parameters) : Prop :=
  ∃ kept added, new = kept ++ added ∧ List.Forall₂ R old kept

def EntryMember (a b : String × Value) : Prop :=
  b = a ∨ ∃ ps qs, a = ("params", .object ps) ∧ b = ("params", .object qs) ∧ ps <+: qs

def FileMember (a b : String × Value) : Prop :=
  b = a ∨ ∃ k es fs, a = (k, .object es) ∧ b = (k, .object fs) ∧ Grows EntryMember es fs

def Extends (old new : Parameters) : Prop := Grows FileMember old new

section Growth

variable {R : String × Value → String × Value → Prop} {a b c : Parameters}

lemma grows_refl (hr : ∀ m, R m m) (a : Parameters) : Grows R a a :=
  ⟨a, [], by simp, List.forall₂_same.mpr fun m _ => hr m⟩

lemma forall₂_trans (ht : ∀ m n o, R m n → R n o → R m o) (h : List.Forall₂ R a b)
    (h' : List.Forall₂ R b c) : List.Forall₂ R a c := by
  induction h generalizing c with
  | nil => exact h'
  | cons hr _ ih =>
    cases h' with
    | cons hr' h' => exact .cons (ht _ _ _ hr hr') (ih h')

lemma grows_trans (ht : ∀ m n o, R m n → R n o → R m o) (h : Grows R a b) (h' : Grows R b c) :
    Grows R a c := by
  obtain ⟨kept, added, rfl, hk⟩ := h
  obtain ⟨kept', added', rfl, hk'⟩ := h'
  have hl := List.forall₂_take kept.length hk'
  rw [List.take_left] at hl
  refine ⟨kept'.take kept.length, kept'.drop kept.length ++ added', ?_, forall₂_trans ht hk hl⟩
  rw [← List.append_assoc, List.take_append_drop]

lemma grows_append (hr : ∀ m, R m m) (a added : Parameters) : Grows R a (a ++ added) :=
  ⟨a, added, rfl, List.forall₂_same.mpr fun m _ => hr m⟩

lemma grows_put (hr : ∀ m, R m m) {k : String} {v : Value}
    (h : ∀ w, Assoc.get? k a = some w → R (k, w) (k, v)) : Grows R a (Assoc.put k v a) := by
  induction a with
  | nil => exact grows_append hr [] [(k, v)]
  | cons m a ih =>
    by_cases hk : m.1 = k
    · subst hk
      refine ⟨Assoc.put m.1 v (m :: a), [], by simp, ?_⟩
      simp only [Assoc.put, if_true]
      exact .cons (h m.2 (by simp [Assoc.get?])) (List.forall₂_same.mpr fun m _ => hr m)
    · obtain ⟨kept, added, he, hk'⟩ := ih fun w hw => h w (by simpa [Assoc.get?, hk] using hw)
      refine ⟨m :: kept, added, ?_, .cons (hr m) hk'⟩
      simp [Assoc.put, hk, he]

lemma get?_of_grows (hk : ∀ m n, R m n → n.1 = m.1) (h : Grows R a b) {k : String} {v : Value}
    (hv : Assoc.get? k a = some v) : ∃ w, Assoc.get? k b = some w ∧ R (k, v) (k, w) := by
  obtain ⟨kept, added, rfl, h⟩ := h
  induction h with
  | nil => cases hv
  | @cons m n a kept hr h ih =>
    obtain ⟨j, w⟩ := m
    obtain ⟨i, w'⟩ := n
    obtain rfl : i = j := hk _ _ hr
    by_cases he : i = k
    · subst he
      obtain rfl : w = v := by simpa [Assoc.get?] using hv
      exact ⟨w', by simp [Assoc.get?], hr⟩
    · obtain ⟨w, hw, hr⟩ := ih (by simpa [Assoc.get?, he] using hv)
      exact ⟨w, by simpa [Assoc.get?, he] using hw, hr⟩

end Growth

lemma EntryMember.refl (m : String × Value) : EntryMember m m := .inl rfl

lemma EntryMember.trans (m n o : String × Value) (h : EntryMember m n) (h' : EntryMember n o) :
    EntryMember m o := by
  rcases h with rfl | ⟨ps, qs, rfl, rfl, hp⟩
  · exact h'
  · rcases h' with rfl | ⟨ps', qs', he, rfl, hp'⟩
    · exact .inr ⟨ps, qs, rfl, rfl, hp⟩
    · obtain rfl : qs = ps' := by simpa using he
      exact .inr ⟨ps, qs', rfl, rfl, hp.trans hp'⟩

lemma EntryMember.key (m n : String × Value) (h : EntryMember m n) : n.1 = m.1 := by
  rcases h with rfl | ⟨ps, qs, rfl, rfl, _⟩ <;> rfl

lemma FileMember.refl (m : String × Value) : FileMember m m := .inl rfl

lemma FileMember.trans (m n o : String × Value) (h : FileMember m n) (h' : FileMember n o) :
    FileMember m o := by
  rcases h with rfl | ⟨k, es, fs, rfl, rfl, hg⟩
  · exact h'
  · rcases h' with rfl | ⟨k', es', fs', he, rfl, hg'⟩
    · exact .inr ⟨k, es, fs, rfl, rfl, hg⟩
    · obtain ⟨rfl, rfl⟩ : k = k' ∧ fs = es' := by simpa using he
      exact .inr ⟨k, es, fs', rfl, rfl, grows_trans EntryMember.trans hg hg'⟩

lemma FileMember.key (m n : String × Value) (h : FileMember m n) : n.1 = m.1 := by
  rcases h with rfl | ⟨k, es, fs, rfl, rfl, _⟩ <;> rfl

lemma Extends.refl (p : Parameters) : Extends p p := grows_refl FileMember.refl p

lemma Extends.trans {p q r : Parameters} (h : Extends p q) (h' : Extends q r) : Extends p r :=
  grows_trans FileMember.trans h h'

section Ensure

variable (k : String) (v : Value) (ms : Parameters)

lemma prefix_ensure : ms <+: ensure k v ms := by
  unfold ensure
  split
  · exact List.prefix_refl ms
  · exact List.prefix_append ms _

lemma isSome_get?_ensure : (Assoc.get? k (ensure k v ms)).isSome := by
  unfold ensure
  split
  · assumption
  · simp [Assoc.get?_append, Assoc.get?]

lemma ensure_of_isSome {k : String} {ms : Parameters} (h : (Assoc.get? k ms).isSome) :
    ensure k v ms = ms := if_pos h

lemma isSome_get?_of_prefix {k : String} {ms ns : Parameters} (h : ms <+: ns)
    (hk : (Assoc.get? k ms).isSome) : (Assoc.get? k ns).isSome := by
  obtain ⟨added, rfl⟩ := h
  rw [Assoc.get?_append, Option.isSome_or, hk, Bool.true_or]

lemma nodup_keys_ensure {ms : Parameters} (h : (Assoc.keys ms).Nodup) :
    (Assoc.keys (ensure k v ms)).Nodup := by
  unfold ensure
  split
  · exact h
  next hk =>
    have hm : k ∉ Assoc.keys ms := Assoc.get?_eq_none_iff.mp (by simpa using hk)
    rw [← Assoc.put_of_not_mem hm]
    exact Assoc.nodup_keys_put k v h

end Ensure

abbrev withAll (children : List String) (ps : Parameters) : Parameters :=
  children.foldl (fun ps c => ensure c (.object []) ps) ps

lemma prefix_withAll (children : List String) (ps : Parameters) : ps <+: withAll children ps := by
  induction children generalizing ps with
  | nil => exact List.prefix_refl ps
  | cons c cs ih => exact (prefix_ensure c _ ps).trans (ih _)

lemma isSome_get?_withAll {children : List String} {c : String} (hc : c ∈ children)
    (ps : Parameters) : (Assoc.get? c (withAll children ps)).isSome := by
  induction children generalizing ps with
  | nil => cases hc
  | cons d ds ih =>
    rcases List.mem_cons.mp hc with rfl | hc
    · exact isSome_get?_of_prefix (prefix_withAll ds _) (isSome_get?_ensure c _ ps)
    · exact ih hc _

lemma missing_eq_nil_iff {ps : Parameters} {children : List String} :
    missing ps children = [] ↔ ∀ c ∈ children, (Assoc.get? c ps).isSome := by
  simp [missing, List.filter_eq_nil_iff, Option.isSome_iff_ne_none]

lemma withAll_of_missing {ps : Parameters} {children : List String}
    (h : missing ps children = []) : withAll children ps = ps := by
  rw [missing_eq_nil_iff] at h
  induction children with
  | nil => rfl
  | cons c cs ih =>
    rw [withAll, List.foldl_cons, ensure_of_isSome _ (h c (by simp))]
    exact ih fun d hd => h d (by simp [hd])

section Entry

variable (defaultType : String) (children : List String) (entry : Parameters)

def withKeys : Parameters :=
  ensure "params" (.object []) (ensure "type" (.string defaultType) entry)

lemma prefix_withKeys : entry <+: withKeys defaultType entry :=
  (prefix_ensure _ _ _).trans (prefix_ensure _ _ _)

lemma grows_of_append {a b : Parameters} (h : a <+: b) : Grows EntryMember a b := by
  obtain ⟨added, rfl⟩ := h
  exact grows_append EntryMember.refl a added

lemma grows_completeEntry : Grows EntryMember entry (completeEntry defaultType children entry) := by
  apply grows_trans EntryMember.trans (grows_of_append (prefix_withKeys defaultType entry))
  unfold completeEntry
  dsimp only
  split
  next ps hp =>
    apply grows_put EntryMember.refl
    intro w hw
    obtain rfl : w = .object ps := Option.some.inj (hw.symm.trans hp)
    exact .inr ⟨ps, _, rfl, rfl, prefix_withAll children ps⟩
  · exact grows_refl EntryMember.refl _

variable {children entry}

lemma isComplete_iff : isComplete children entry = true ↔
    (Assoc.get? "type" entry).isSome ∧ (Assoc.get? "params" entry).isSome ∧
      ∀ ps, Assoc.get? "params" entry = some (.object ps) → missing ps children = [] := by
  unfold isComplete missingParameters
  rw [Bool.and_eq_true, Bool.and_eq_true, and_assoc]
  refine and_congr_right fun _ => and_congr_right fun hs => ?_
  obtain ⟨v, hv⟩ := Option.isSome_iff_exists.mp hs
  rw [hv]
  cases v <;> simp

lemma isComplete_of_grows {entry' : Parameters} (hg : Grows EntryMember entry entry')
    (h : isComplete children entry = true) : isComplete children entry' = true := by
  rw [isComplete_iff] at h ⊢
  obtain ⟨ht, hp, hm⟩ := h
  obtain ⟨t, ht⟩ := Option.isSome_iff_exists.mp ht
  obtain ⟨p, hp⟩ := Option.isSome_iff_exists.mp hp
  obtain ⟨t', ht', _⟩ := get?_of_grows EntryMember.key hg ht
  obtain ⟨p', hp', hr⟩ := get?_of_grows EntryMember.key hg hp
  refine ⟨by simp [ht'], by simp [hp'], ?_⟩
  intro qs hq
  obtain rfl : p' = .object qs := Option.some.inj (hp'.symm.trans hq)
  rcases hr with he | ⟨ps, qs', he, he', hpre⟩
  · obtain rfl : Value.object qs = p := (Prod.mk.inj he).2
    exact hm qs hp
  · obtain rfl : p = .object ps := (Prod.mk.inj he).2
    obtain rfl : qs = qs' := by simpa using he'
    rw [missing_eq_nil_iff]
    intro c hc
    exact isSome_get?_of_prefix hpre (missing_eq_nil_iff.mp (hm ps hp) c hc)

lemma completeEntry_of_isComplete (h : isComplete children entry = true) :
    completeEntry defaultType children entry = entry := by
  obtain ⟨ht, hp, hm⟩ := isComplete_iff.mp h
  unfold completeEntry
  rw [ensure_of_isSome _ ht, ensure_of_isSome _ hp]
  dsimp only
  split
  next ps hps =>
    change Assoc.put "params" (.object (withAll children ps)) entry = entry
    rw [withAll_of_missing (hm ps hps)]
    exact Assoc.put_of_get? hps
  · rfl

variable (children entry)

lemma isComplete_completeEntry :
    isComplete children (completeEntry defaultType children entry) = true := by
  have hg : ∀ k, (Assoc.get? k (withKeys defaultType entry)).isSome →
      (Assoc.get? k (completeEntry defaultType children entry)).isSome := by
    intro k hk
    unfold completeEntry
    change (Assoc.get? k (withKeys defaultType entry)).isSome at hk
    dsimp only
    split
    · by_cases he : k = "params"
      · rw [he, Assoc.get?_put_self]
        rfl
      · rw [Assoc.get?_put_of_ne _ _ he]
        exact hk
    · exact hk
  rw [isComplete_iff]
  refine ⟨hg _ ?_, hg _ (isSome_get?_ensure _ _ _), ?_⟩
  · exact isSome_get?_of_prefix (prefix_ensure _ _ _) (isSome_get?_ensure _ _ _)
  · intro qs hq
    unfold completeEntry at hq
    dsimp only at hq
    split at hq
    next ps _ =>
      rw [Assoc.get?_put_self] at hq
      obtain rfl : withAll children ps = qs := by simpa using hq
      exact missing_eq_nil_iff.mpr fun c hc => isSome_get?_withAll hc ps
    next hn => exact absurd hq (hn qs)

end Entry

end Parameters

namespace ParametersUpdate

open Parameters

abbrev viewsIn (x : ViewIndex) (r : Record) : List String := (x.childrenOf r).map (·.id)

def Completed (x : ViewIndex) (r : Record) (p : Parameters) : Prop :=
  (Assoc.get? r.id p).isSome ∧
    ∀ entry, Assoc.get? r.id p = some (.object entry) → isComplete (viewsIn x r) entry = true

variable (x : ViewIndex) (defaultType : String)

lemma Completed.extends {x : ViewIndex} {r : Record} {p q : Parameters} (h : Completed x r p)
    (hg : Extends p q) : Completed x r q := by
  obtain ⟨v, hv⟩ := Option.isSome_iff_exists.mp h.1
  obtain ⟨w, hw, hr⟩ := get?_of_grows FileMember.key hg hv
  refine ⟨by simp [hw], ?_⟩
  intro entry he
  obtain rfl : w = .object entry := Option.some.inj (hw.symm.trans he)
  rcases hr with hr | ⟨k, es, fs, hr, hr', hes⟩
  · obtain rfl : Value.object entry = v := (Prod.mk.inj hr).2
    exact h.2 entry hv
  · obtain ⟨rfl, rfl⟩ : r.id = k ∧ v = .object es := Prod.mk.inj hr
    obtain rfl : entry = fs := by simpa using hr'
    exact isComplete_of_grows hes (h.2 es hv)

lemma addContainer_cases (u : ParametersUpdate) (r : Record) :
    (∃ v, Assoc.get? r.id u.parameters = some v ∧ (∀ e, v ≠ .object e) ∧
        addContainer x defaultType u r = u) ∨
      ∃ entry, (Assoc.get? r.id u.parameters = none ∧ entry = [] ∨
          Assoc.get? r.id u.parameters = some (.object entry)) ∧
        (addContainer x defaultType u r).parameters =
          Assoc.put r.id (.object (completeEntry defaultType (viewsIn x r) entry)) u.parameters ∧
        (addContainer x defaultType u r).addedEntries =
          u.addedEntries ++ (if r.id ∈ Assoc.keys u.parameters then [] else [r.id]) ∧
        (addContainer x defaultType u r).addedParameters =
          u.addedParameters ++ (missingParameters (viewsIn x r) entry).map (r.id, ·) := by
  unfold addContainer
  dsimp only
  split
  next hn =>
    refine .inr ⟨[], .inl ⟨hn, rfl⟩, rfl, ?_, rfl⟩
    rw [if_neg (Assoc.get?_eq_none_iff.mp hn)]
    rfl
  next entry he =>
    have hk : r.id ∈ Assoc.keys u.parameters := by simp [Assoc.mem_keys_iff, he]
    refine .inr ⟨entry, .inr he, rfl, ?_, rfl⟩
    rw [if_pos hk]
    rfl
  next v hn hv => exact .inl ⟨v, hv, hn, rfl⟩

lemma parameters_addContainer (u : ParametersUpdate) (r : Record) :
    (addContainer x defaultType u r).parameters = u.parameters ∧
        (∃ v, Assoc.get? r.id u.parameters = some v ∧ ∀ e, v ≠ .object e) ∨
      ∃ entry, (addContainer x defaultType u r).parameters =
          Assoc.put r.id (.object (completeEntry defaultType (viewsIn x r) entry)) u.parameters ∧
        (Assoc.get? r.id u.parameters = none ∧ entry = [] ∨
          Assoc.get? r.id u.parameters = some (.object entry)) := by
  rcases addContainer_cases x defaultType u r with ⟨v, hv, hn, he⟩ | ⟨entry, hentry, he, _⟩
  · exact .inl ⟨by rw [he], v, hv, hn⟩
  · exact .inr ⟨entry, he, hentry⟩

lemma extends_addContainer (u : ParametersUpdate) (r : Record) :
    Extends u.parameters (addContainer x defaultType u r).parameters := by
  rcases parameters_addContainer x defaultType u r with ⟨h, _⟩ | ⟨entry, h, he⟩
  · rw [h]
    exact Extends.refl _
  · rw [h]
    apply grows_put FileMember.refl
    intro w hw
    rcases he with ⟨hn, _⟩ | he
    · exact absurd (hw.symm.trans hn) (by simp)
    · obtain rfl : w = .object entry := Option.some.inj (hw.symm.trans he)
      exact .inr ⟨_, _, _, rfl, rfl, grows_completeEntry defaultType _ entry⟩

lemma completed_addContainer (u : ParametersUpdate) (r : Record) :
    Completed x r (addContainer x defaultType u r).parameters := by
  rcases parameters_addContainer x defaultType u r with ⟨h, v, hv, hn⟩ | ⟨entry, h, _⟩
  · rw [h]
    exact ⟨by simp [hv], fun e he => absurd (Option.some.inj (hv.symm.trans he)) (hn e)⟩
  · rw [h]
    refine ⟨by simp [Assoc.get?_put_self], ?_⟩
    intro e he
    rw [Assoc.get?_put_self] at he
    obtain rfl : completeEntry defaultType (viewsIn x r) entry = e := by simpa using he
    exact isComplete_completeEntry defaultType _ entry

lemma addContainer_of_completed {u : ParametersUpdate} {r : Record}
    (h : Completed x r u.parameters) : addContainer x defaultType u r = u := by
  obtain ⟨hs, hc⟩ := h
  unfold addContainer
  dsimp only
  split
  next hn => simp [hn] at hs
  next entry he =>
    have hi := hc entry he
    have hm : missingParameters (viewsIn x r) entry = [] := by
      simp only [isComplete, Bool.and_eq_true, List.isEmpty_iff] at hi
      exact hi.2
    rw [completeEntry_of_isComplete defaultType hi, Assoc.put_of_get? he, hi, hm]
    simp
  · rfl

section Run

variable (rs : List Record) (u : ParametersUpdate)

lemma extends_foldl :
    Extends u.parameters (rs.foldl (addContainer x defaultType) u).parameters := by
  induction rs generalizing u with
  | nil => exact Extends.refl _
  | cons r rs ih => exact (extends_addContainer x defaultType u r).trans (ih _)

lemma completed_foldl {r : Record} (hr : r ∈ rs) :
    Completed x r (rs.foldl (addContainer x defaultType) u).parameters := by
  induction rs generalizing u with
  | nil => cases hr
  | cons s rs ih =>
    rcases List.mem_cons.mp hr with rfl | hr
    · exact (completed_addContainer x defaultType u r).extends (extends_foldl x defaultType rs _)
    · exact ih _ hr

lemma foldl_of_completed {rs : List Record} {u : ParametersUpdate}
    (h : ∀ r ∈ rs, Completed x r u.parameters) : rs.foldl (addContainer x defaultType) u = u := by
  induction rs with
  | nil => rfl
  | cons r rs ih =>
    rw [List.foldl_cons, addContainer_of_completed x defaultType (h r (by simp))]
    exact ih fun s hs => h s (by simp [hs])

end Run

lemma extends_ofParameters (p : Parameters) : Extends p (ofParameters x defaultType p).parameters :=
  extends_foldl x defaultType _ _

lemma ofParameters_again (p : Parameters) :
    ofParameters x defaultType (ofParameters x defaultType p).parameters =
      { parameters := (ofParameters x defaultType p).parameters } :=
  foldl_of_completed x defaultType fun _ hr => completed_foldl x defaultType _ _ hr

end ParametersUpdate

end Layout

end LayoutSync
