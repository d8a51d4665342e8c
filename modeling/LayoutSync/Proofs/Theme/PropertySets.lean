import LayoutSync.Proofs.Layout.Flattening
import LayoutSync.Proofs.Theme.Frames
import Mathlib.Data.List.Nodup

/-!
What bringing a theme up to date does to the property set of a layout, and that it does nothing else.
What is in the set stays in its order, first entries without content get the placeholder, and the
entries that are new are the ones that the report names.
-/

namespace LayoutSync.Theme

open Markup Layout

abbrev isEntryFor (w : EntryKind × String) (e : Element) : Bool := e.isEntry w.1.element w.2

def fill (e : Element) : Element :=
  if e.hasContent then e else { e with text := some placeholder }

def isFirstFor (ws : List (EntryKind × String)) (cs : List Element) (i : Nat) : Bool :=
  ws.any fun w => cs.findIdx? (isEntryFor w) = some i

def filledChildren (ws : List (EntryKind × String)) (cs : List Element) : List Element :=
  cs.mapIdx fun i c => if isFirstFor ws cs i then fill c else c

def lacking (ws : List (EntryKind × String)) (set : Element) : List (EntryKind × String) :=
  ws.eraseDups.filter fun w => (set.findChild? w.1.element w.2).isNone

def bare (ws : List (EntryKind × String)) (set : Element) : List (EntryKind × String) :=
  ws.eraseDups.filter fun w => (set.findChild? w.1.element w.2).any (!·.hasContent)

def namesOf (kind : EntryKind) (ws : List (EntryKind × String)) : List String :=
  (ws.filter (·.1 = kind)).map Prod.snd

def expectedReport (created : Bool) (ws : List (EntryKind × String)) (set : Element) : Report where
  createdPropertySet := created
  addedIds := namesOf .id (lacking ws set)
  addedTags := namesOf .tag (lacking ws set)
  filled := (bare ws set).map Prod.snd

/-- A property set after everything that is wanted was seen to, with the report. -/
structure CompletesSet (created : Bool) (ws : List (EntryKind × String)) (set : Element)
    (s : Element × Report) : Prop where
  frame : s.1 = { set with children := s.1.children }
  kept : (filledChildren ws set.children).Sublist s.1.children
  inserted : s.1.children.Perm (filledChildren ws set.children
    ++ (s.2.addedIds.map (newEntry .id) ++ s.2.addedTags.map (newEntry .tag)))
  complete : ∀ w ∈ ws, Satisfies s.1 w
  others : ∀ w, w ∉ ws →
    s.1.children.filter (isEntryFor w) = set.children.filter (isEntryFor w)
  report : s.2 = expectedReport created ws set

section Fill

variable (e : Element) (kind name : String)

lemma isEntry_fill : (fill e).isEntry kind name = e.isEntry kind name := by
  unfold fill
  split <;> rfl

lemma fill_of_hasContent {e : Element} (h : e.hasContent = true) : fill e = e := if_pos h

lemma fill_of_bare {e : Element} (h : e.hasContent = false) :
    fill e = { e with text := some placeholder } := if_neg (by simp [h])

lemma fill_fill : fill (fill e) = fill e := by
  cases h : e.hasContent with
  | true => rw [fill_of_hasContent h, fill_of_hasContent h]
  | false =>
    rw [fill_of_bare h]
    exact fill_of_hasContent (hasContent_placeholder e)

end Fill

section FirstEntry

variable {kind name : String} {f : Element → Element}

lemma getElem?_modifyChild_go (cs : List Element) (i : Nat) :
    (Element.modifyChild.go kind name f cs)[i]? =
      if cs.findIdx? (Element.isEntry kind name) = some i then (cs[i]?).map f else cs[i]? := by
  induction cs generalizing i with
  | nil => simp [Element.modifyChild.go]
  | cons c cs ih =>
    rw [Element.modifyChild.go, List.findIdx?_cons]
    cases hc : c.isEntry kind name with
    | true => cases i <;> simp
    | false =>
      cases i with
      | zero => simp
      | succ i => simp [ih i]

lemma modifyChild_go_of_none {cs : List Element}
    (h : cs.find? (Element.isEntry kind name) = none) :
    Element.modifyChild.go kind name f cs = cs := by
  induction cs with
  | nil => rfl
  | cons c cs ih =>
    rw [List.find?_cons] at h
    split at h
    · cases h
    next hc => simp [Element.modifyChild.go, hc, ih h]

lemma sublist_modifyChild_go {as bs : List Element} (h : as.Sublist bs)
    (hp : as.countP (Element.isEntry kind name) = bs.countP (Element.isEntry kind name)) :
    (Element.modifyChild.go kind name f as).Sublist (Element.modifyChild.go kind name f bs) := by
  induction h with
  | slnil => exact .slnil
  | @cons as bs b h ih =>
    have hle := h.countP_le (p := Element.isEntry kind name)
    rw [List.countP_cons] at hp
    -- A child that is left out is no entry of the kind and name, or there would be one too many.
    split at hp
    · omega
    next hb =>
      rw [Element.modifyChild.go, if_neg hb]
      exact .cons b (ih hp)
  | @cons_cons as bs b h ih =>
    rw [Element.modifyChild.go, Element.modifyChild.go]
    split
    · exact .cons_cons _ h
    next hb =>
      rw [List.countP_cons_of_neg hb, List.countP_cons_of_neg hb] at hp
      exact .cons_cons b (ih hp)

end FirstEntry

section Filled

variable (ws : List (EntryKind × String)) (cs : List Element)

lemma map_isEntry_filledChildren (kind name : String) :
    (filledChildren ws cs).map (Element.isEntry kind name) =
      cs.map (Element.isEntry kind name) := by
  refine List.ext_getElem? fun i => ?_
  simp only [filledChildren, List.getElem?_map, List.getElem?_mapIdx, Option.map_map]
  refine congrArg (Option.map · cs[i]?) (funext fun c => ?_)
  simp only [Function.comp_apply]
  split
  · exact isEntry_fill c kind name
  · rfl

lemma findIdx?_filledChildren (kind name : String) :
    (filledChildren ws cs).findIdx? (Element.isEntry kind name) =
      cs.findIdx? (Element.isEntry kind name) := by
  have h := congrArg (List.findIdx? id) (map_isEntry_filledChildren ws cs kind name)
  rw [List.findIdx?_map, List.findIdx?_map] at h
  exact h

lemma countP_filledChildren (kind name : String) :
    (filledChildren ws cs).countP (Element.isEntry kind name) =
      cs.countP (Element.isEntry kind name) := by
  have h := congrArg (List.countP id) (map_isEntry_filledChildren ws cs kind name)
  rw [List.countP_map, List.countP_map] at h
  exact h

lemma filledChildren_concat (w : EntryKind × String) : filledChildren (ws ++ [w]) cs =
    Element.modifyChild.go w.1.element w.2 fill (filledChildren ws cs) := by
  refine List.ext_getElem? fun i => ?_
  rw [getElem?_modifyChild_go, findIdx?_filledChildren]
  simp only [filledChildren, List.getElem?_mapIdx, Option.map_map]
  have hf : isFirstFor (ws ++ [w]) cs i =
      (isFirstFor ws cs i || decide (cs.findIdx? (isEntryFor w) = some i)) := by
    simp [isFirstFor]
  rw [hf]
  by_cases hi : cs.findIdx? (isEntryFor w) = some i
  · rw [if_pos hi]
    refine congrArg (Option.map · cs[i]?) (funext fun c => ?_)
    cases isFirstFor ws cs i <;> simp [hi, fill_fill]
  · rw [if_neg hi]
    simp [hi]

lemma filledChildren_of_mem {w : EntryKind × String} (hw : w ∈ ws) :
    filledChildren (ws ++ [w]) cs = filledChildren ws cs := by
  have hf : isFirstFor (ws ++ [w]) cs = isFirstFor ws cs := by
    funext i
    rw [Bool.eq_iff_iff]
    simp only [isFirstFor, List.any_eq_true, List.mem_append, List.mem_singleton]
    constructor
    · rintro ⟨v, hv | rfl, hi⟩
      · exact ⟨v, hv, hi⟩
      · exact ⟨v, hw, hi⟩
    · rintro ⟨v, hv, hi⟩
      exact ⟨v, .inl hv, hi⟩
  rw [filledChildren, hf]
  rfl

end Filled

section Expected

variable (ws : List (EntryKind × String)) (set : Element) (w : EntryKind × String)

lemma lacking_concat : lacking (ws ++ [w]) set =
    lacking ws set ++ (if w ∈ ws then [] else [w]).filter fun w =>
      (set.findChild? w.1.element w.2).isNone := by
  rw [lacking, eraseDups_concat, List.filter_append]
  rfl

lemma bare_concat : bare (ws ++ [w]) set =
    bare ws set ++ (if w ∈ ws then [] else [w]).filter fun w =>
      (set.findChild? w.1.element w.2).any (!·.hasContent) := by
  rw [bare, eraseDups_concat, List.filter_append]
  rfl

lemma expectedReport_of_mem (created : Bool) {w : EntryKind × String} (hw : w ∈ ws) :
    expectedReport created (ws ++ [w]) set = expectedReport created ws set := by
  simp only [expectedReport, lacking_concat, bare_concat, if_pos hw, List.filter_nil,
    List.append_nil]

lemma expectedReport_present (created : Bool) {e : Element}
    (hf : set.findChild? w.1.element w.2 = some e) (hc : e.hasContent = true) :
    expectedReport created (ws ++ [w]) set = expectedReport created ws set := by
  by_cases hw : w ∈ ws
  · exact expectedReport_of_mem ws set created hw
  · simp [expectedReport, lacking_concat, bare_concat, hw, hf, hc]

lemma expectedReport_filled (created : Bool) {e : Element} (hw : w ∉ ws)
    (hf : set.findChild? w.1.element w.2 = some e) (hc : e.hasContent = false) :
    expectedReport created (ws ++ [w]) set =
      (expectedReport created ws set).note w.1 w.2 .filled := by
  simp [expectedReport, lacking_concat, bare_concat, hw, hf, hc, Report.note]

lemma expectedReport_added (created : Bool) (hw : w ∉ ws)
    (hf : set.findChild? w.1.element w.2 = none) :
    expectedReport created (ws ++ [w]) set =
      (expectedReport created ws set).note w.1 w.2 .added := by
  obtain ⟨kind, name⟩ := w
  cases kind <;>
    simp [expectedReport, lacking_concat, bare_concat, hw, hf, Report.note, namesOf]

end Expected

section Run

variable {created : Bool} {ws : List (EntryKind × String)} {set : Element} {s : Element × Report}
  {v w : EntryKind × String}

lemma isEntryFor_of_ne {e : Element} (he : isEntryFor w e = true) (h : v ≠ w) :
    isEntryFor v e = false := by
  rw [Bool.eq_false_iff]
  intro hv
  obtain ⟨ht, hn⟩ := isEntry_iff.mp hv
  obtain ⟨ht', hn'⟩ := isEntry_iff.mp he
  exact h (Prod.ext (element_injective (ht.symm.trans ht')) (Option.some.inj (hn.symm.trans hn')))

lemma perm_replace {α : Type} {l r l' r' : List α} {a : α} (h : (l ++ a :: r).Perm (l' ++ a :: r'))
    (b : α) : (l ++ b :: r).Perm (l' ++ b :: r') := by
  have hc : (l ++ r).Perm (l' ++ r') :=
    ((List.perm_middle.symm.trans h).trans List.perm_middle).cons_inv
  exact List.perm_middle.trans ((hc.cons b).trans List.perm_middle.symm)

lemma find?_of_filter {α : Type} {p : α → Bool} {l m : List α} (h : l.filter p = m.filter p) :
    l.find? p = m.find? p := by
  rw [← List.head?_filter, h, List.head?_filter]

namespace CompletesSet

lemma start (created : Bool) (set : Element) :
    CompletesSet created [] set (set, { createdPropertySet := created }) := by
  have hf : filledChildren [] set.children = set.children :=
    List.ext_getElem? fun i => by simp [filledChildren, isFirstFor]
  refine ⟨?_, ?_, ?_, by simp, fun _ _ => rfl, rfl⟩
  · cases set
    rfl
  · rw [hf]
  · simp [hf]

lemma findChild?_eq (h : CompletesSet created ws set s) (hw : w ∉ ws) :
    s.1.findChild? w.1.element w.2 = set.findChild? w.1.element w.2 :=
  find?_of_filter (h.others w hw)

lemma find?_filledChildren (h : CompletesSet created ws set s) (hw : w ∉ ws) :
    (filledChildren ws set.children).find? (isEntryFor w) =
      s.1.findChild? w.1.element w.2 := by
  refine find?_of_filter ((h.kept.filter _).eq_of_length ?_)
  rw [← List.countP_eq_length_filter, countP_filledChildren, List.countP_eq_length_filter,
    h.others w hw]

lemma again (h : CompletesSet created ws set s) (hw : w ∈ ws) :
    CompletesSet created (ws ++ [w]) set s := by
  have hmem : ∀ v, v ∈ ws ++ [w] ↔ v ∈ ws := fun v => by
    rw [List.mem_append, List.mem_singleton, or_iff_left_iff_imp]
    rintro rfl
    exact hw
  have hf := filledChildren_of_mem ws set.children hw
  refine ⟨h.frame, hf ▸ h.kept, hf ▸ h.inserted, fun v hv => h.complete v ((hmem v).mp hv),
    fun v hv => h.others v (mt (hmem v).mpr hv), ?_⟩
  rw [expectedReport_of_mem ws set created hw, h.report]

lemma complete_step (h : CompletesSet created ws set s) (w : EntryKind × String) :
    ∀ v ∈ ws ++ [w], Satisfies (ensureWanted s w).1 v := by
  intro v hv
  rcases List.mem_append.mp hv with hv | hv
  · exact (h.complete v hv).ensureEntry w
  · exact List.mem_singleton.mp hv ▸ satisfies_ensureEntry s.1 w

lemma present (h : CompletesSet created ws set s) (hw : w ∉ ws) {e : Element}
    (hf : s.1.findChild? w.1.element w.2 = some e) (hc : e.hasContent = true) :
    CompletesSet created (ws ++ [w]) set (ensureWanted s w) := by
  have heq : ensureWanted s w = s := ensureWanted_of_satisfies ⟨e, hf, hc⟩ s.2
  have hcomplete := h.complete_step w
  have hfilled : filledChildren (ws ++ [w]) set.children = filledChildren ws set.children := by
    obtain ⟨_, l, r, hs, _, hm⟩ := around_of_find? ((h.find?_filledChildren hw).trans hf)
    rw [filledChildren_concat, hm, fill_of_hasContent hc, hs]
  rw [heq] at hcomplete ⊢
  refine ⟨h.frame, hfilled ▸ h.kept, hfilled ▸ h.inserted, hcomplete,
    fun v hv => h.others v fun hm => hv (List.mem_append_left _ hm), ?_⟩
  rw [expectedReport_present ws set w created ((h.findChild?_eq hw).symm.trans hf) hc, h.report]

lemma filled (h : CompletesSet created ws set s) (hw : w ∉ ws) {e : Element} {l r : List Element}
    (hs : s.1.children = l ++ e :: r) (hl : ∀ c ∈ l, isEntryFor w c = false)
    (he : isEntryFor w e = true) (hc : e.hasContent = false)
    (heq : ensureWanted s w =
      ({ s.1 with children := l ++ fill e :: r }, s.2.note w.1 w.2 .filled)) :
    CompletesSet created (ws ++ [w]) set (ensureWanted s w) := by
  have hf : s.1.findChild? w.1.element w.2 = some e := by
    rw [Element.findChild?, hs]
    exact find?_first hl he r
  have hcomplete := h.complete_step w
  rw [heq] at hcomplete ⊢
  refine ⟨?_, ?_, ?_, hcomplete, fun v hv => ?_, ?_⟩
  · rw [h.frame]
  · rw [filledChildren_concat, ← modifyChild_go_append hl he fill r, ← hs]
    refine sublist_modifyChild_go h.kept ?_
    rw [countP_filledChildren, List.countP_eq_length_filter, List.countP_eq_length_filter,
      h.others w hw]
  -- The same child is found first in the old order, although new entries stand between.
  · obtain ⟨_, l', r', hs', _, hm⟩ := around_of_find? ((h.find?_filledChildren hw).trans hf)
    have hp := h.inserted
    rw [hs, hs', List.append_assoc] at hp
    rw [filledChildren_concat, hm, List.append_assoc]
    exact perm_replace hp (fill e)
  · obtain ⟨hv, hvw⟩ : v ∉ ws ∧ v ≠ w := by simpa using hv
    have hb : isEntryFor v e = false := isEntryFor_of_ne he hvw
    have hb' : isEntryFor v (fill e) = false := (isEntry_fill e _ _).trans hb
    rw [← h.others v hv, hs, List.filter_append, List.filter_append,
      List.filter_cons_of_neg (by simp [hb']), List.filter_cons_of_neg (by simp [hb])]
  · rw [expectedReport_filled ws set w created hw ((h.findChild?_eq hw).symm.trans hf) hc, h.report]

lemma perm_note_added (cs : List Element) (r : Report) (w : EntryKind × String) :
    (newEntry w.1 w.2 :: (cs ++ (r.addedIds.map (newEntry .id)
      ++ r.addedTags.map (newEntry .tag)))).Perm
    (cs ++ ((r.note w.1 w.2 .added).addedIds.map (newEntry .id)
      ++ (r.note w.1 w.2 .added).addedTags.map (newEntry .tag))) := by
  obtain ⟨kind, name⟩ := w
  cases kind with
  | id =>
    simp only [Report.note, List.map_append, List.map_singleton, List.append_assoc,
      List.singleton_append]
    rw [← List.append_assoc, ← List.append_assoc cs]
    exact List.perm_middle.symm
  | tag =>
    simp only [Report.note, List.map_append, List.map_singleton]
    rw [← List.append_assoc, ← List.append_assoc, ← List.append_assoc]
    exact (List.perm_append_singleton _ _).symm

lemma added (h : CompletesSet created ws set s) (hw : w ∉ ws) {l r : List Element}
    (hs : s.1.children = l ++ r) (hn : ∀ c ∈ l ++ r, isEntryFor w c = false)
    (heq : ensureWanted s w =
      ({ s.1 with children := l ++ newEntry w.1 w.2 :: r }, s.2.note w.1 w.2 .added)) :
    CompletesSet created (ws ++ [w]) set (ensureWanted s w) := by
  have hf : s.1.findChild? w.1.element w.2 = none := by
    rw [Element.findChild?, hs, List.find?_eq_none]
    simpa using hn
  have hfilled : filledChildren (ws ++ [w]) set.children = filledChildren ws set.children := by
    rw [filledChildren_concat]
    exact modifyChild_go_of_none ((h.find?_filledChildren hw).trans hf)
  have hcomplete := h.complete_step w
  have hkept := h.kept
  have hinserted := h.inserted
  rw [hs] at hkept hinserted
  rw [heq] at hcomplete ⊢
  refine ⟨?_, ?_, ?_, hcomplete, fun v hv => ?_, ?_⟩
  · rw [h.frame]
  · rw [hfilled]
    exact hkept.trans ((List.Sublist.refl l).append (List.sublist_cons_self _ r))
  · rw [hfilled]
    exact List.perm_middle.trans ((hinserted.cons _).trans (perm_note_added _ s.2 w))
  · obtain ⟨hv, hvw⟩ : v ∉ ws ∧ v ≠ w := by simpa using hv
    have hb : isEntryFor v (newEntry w.1 w.2) = false :=
      isEntryFor_of_ne (isEntry_newEntry w.1 w.2) hvw
    rw [← h.others v hv, hs, List.filter_append, List.filter_append,
      List.filter_cons_of_neg (by simp [hb])]
  · rw [expectedReport_added ws set w created hw ((h.findChild?_eq hw).symm.trans hf), h.report]

lemma step (h : CompletesSet created ws set s) (w : EntryKind × String) :
    CompletesSet created (ws ++ [w]) set (ensureWanted s w) := by
  by_cases hw : w ∈ ws
  · -- What was asked for before has content, so there is nothing left to do.
    have heq : ensureWanted s w = s := ensureWanted_of_satisfies (h.complete w hw) s.2
    rw [heq]
    exact h.again hw
  rcases ensureEntry_cases s.1 w.1 w.2 with ⟨e, hf, hc, _⟩ | ⟨e, l, r, hs, hl, he, hc, heq⟩ |
      ⟨l, r, hs, hn, heq⟩
  · exact h.present hw hf hc
  · refine h.filled hw hs hl he hc ?_
    simp only [ensureWanted, heq, fill_of_bare hc]
  · refine h.added hw hs hn ?_
    simp only [ensureWanted, heq]

end CompletesSet

lemma completesSet_foldl (created : Bool) (set : Element) (ws : List (EntryKind × String)) :
    CompletesSet created ws set
      (ws.foldl ensureWanted (set, { createdPropertySet := created })) := by
  induction ws using List.reverseRecOn with
  | nil => exact .start created set
  | append_singleton ws w ih =>
    rw [List.foldl_append]
    exact ih.step w

end Run

section Sync

lemma changed_sync_iff (theme : Element) (x : ViewIndex) (name : String) :
    (sync theme x name).2.changed = true ↔ (sync theme x name).1 ≠ theme := by
  constructor
  · intro hc he
    -- A theme that is as it was had all that is wanted, so there was nothing to say.
    have hcovers : Covers theme x name := he ▸ covers_sync theme x name
    rw [sync_of_covers hcovers] at hc
    cases hc
  · intro hne
    by_contra hc
    have hcovers := covers_of_unchanged (by simpa using hc)
    exact hne (congrArg Prod.fst (sync_of_covers hcovers))

lemma nodup_namesOf {ws : List (EntryKind × String)} (h : ws.Nodup) (kind : EntryKind) :
    (namesOf kind ws).Nodup := by
  refine List.Nodup.map_on ?_ (h.filter _)
  intro v hv w hw hvw
  have hk : ∀ u ∈ ws.filter (·.1 = kind), u.1 = kind := fun u hu => by
    simpa using (List.mem_filter.mp hu).2
  exact Prod.ext ((hk v hv).trans (hk w hw).symm) hvw

/-- A theme that is brought up to date keeps everything but its first property set of the name. That
set is completed, or a new one at the end if there was none. No name is reported twice for a kind, and
the report says that something changed just if the theme is another one. -/
theorem sync_completes_set (theme : Element) (x : ViewIndex) (name : String) :
    let theme' := (sync theme x name).1
    let report := (sync theme x name).2
    ∃ (before after : List Element) (set set' : Element),
      (∀ c ∈ before, c.isEntry "property-set" name = false) ∧
      theme' = { theme with children := before ++ set' :: after } ∧
      (theme.children = before ++ set :: after ∧ set.isEntry "property-set" name = true ∧
          CompletesSet false (wanted x.views) set (set', report) ∨
        theme.children = before ∧ after = [] ∧ set = newSet name ∧
          CompletesSet true (wanted x.views) set (set', report)) ∧
      (∀ kind, (namesOf kind (lacking (wanted x.views) set)).Nodup ∧
        (namesOf kind (bare (wanted x.views) set)).Nodup) ∧
      (report.changed = true ↔ theme' ≠ theme) := by
  have hnodup : ∀ (set : Element) (kind : EntryKind),
      (namesOf kind (lacking (wanted x.views) set)).Nodup ∧
        (namesOf kind (bare (wanted x.views) set)).Nodup := fun set kind =>
    ⟨nodup_namesOf ((nodup_eraseDups _).filter _) kind,
      nodup_namesOf ((nodup_eraseDups _).filter _) kind⟩
  intro theme' report
  cases hf : theme.findChild? "property-set" name with
  | some set =>
    obtain ⟨l, r, hc, hl, he, hs⟩ := sync_of_found hf x
    have hr : report = (syncSet x set {}).2 := by
      dsimp only [report]
      rw [hs]
    refine ⟨l, r, set, (syncSet x set {}).1, hl, congrArg Prod.fst hs, .inl ⟨hc, he, ?_⟩, hnodup set,
      changed_sync_iff theme x name⟩
    rw [hr]
    exact completesSet_foldl false set (wanted x.views)
  | none =>
    obtain ⟨hn, hs⟩ := sync_of_missing hf x
    have hr : report = (syncSet x (newSet name) { createdPropertySet := true }).2 := by
      dsimp only [report]
      rw [hs]
    refine ⟨theme.children, [], newSet name, _, hn, congrArg Prod.fst hs, .inr ⟨rfl, rfl, rfl, ?_⟩,
      hnodup (newSet name), changed_sync_iff theme x name⟩
    rw [hr]
    exact completesSet_foldl true (newSet name) (wanted x.views)

end Sync

end LayoutSync.Theme
