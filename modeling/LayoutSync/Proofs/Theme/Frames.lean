import LayoutSync.Proofs.Theme.ThemeFile

namespace LayoutSync.Theme

open Markup Layout

variable {theme set : Element} {x y : ViewIndex} {name other : String}

section Frame

lemma Satisfies.syncSet {w : EntryKind × String} (h : Satisfies set w) (x : ViewIndex)
    (r : Report) : Satisfies (syncSet x set r).1 w :=
  satisfies_foldl_of (set, r) (wanted x.views) h

lemma Covers.sync (h : Covers theme y other) (x : ViewIndex) (name : String) :
    Covers (sync theme x name).1 y other := by
  obtain ⟨set, hf, hs⟩ := h
  cases hn : theme.findChild? "property-set" name with
  | none =>
    -- A new set comes last, behind the one that is found.
    refine ⟨set, ?_, hs⟩
    rw [Element.findChild?] at hf
    rw [(sync_of_missing hn x).2, Element.findChild?, List.find?_append, hf, Option.some_or]
  | some e =>
    obtain ⟨l, r, hc, _, _, hsync⟩ := sync_of_found hn x
    have he : Element.isEntry "property-set" other (syncSet x e {}).1 =
        e.isEntry "property-set" other := isEntry_syncSet x e {} _ _
    rw [hsync]
    rw [Element.findChild?, hc] at hf
    rcases find?_replace he hf with hf' | ⟨rfl, hf'⟩
    · exact ⟨set, hf', hs⟩
    · exact ⟨_, hf', fun w hw => (hs w hw).syncSet x {}⟩

end Frame

section Unchanged

lemma changed_note {r : Report} {c : EntryChange} (h : r.changed = true ∨ c ≠ .present)
    (kind : EntryKind) (name : String) : (r.note kind name c).changed = true := by
  cases c with
  | present => exact h.resolve_right fun hn => hn rfl
  | filled => simp [Report.note, Report.changed]
  | added => cases kind <;> simp [Report.note, Report.changed]

lemma changed_foldl {s : Element × Report} (h : s.2.changed = true)
    (ws : List (EntryKind × String)) : (ws.foldl ensureWanted s).2.changed = true := by
  induction ws generalizing s with
  | nil => exact h
  | cons w ws ih => exact ih (changed_note (.inl h) w.1 w.2)

lemma satisfies_of_unchanged {r : Report} {ws : List (EntryKind × String)}
    (h : (ws.foldl ensureWanted (set, r)).2.changed = false) : ∀ w ∈ ws, Satisfies set w := by
  induction ws with
  | nil => simp
  | cons w ws ih =>
    rw [List.foldl_cons] at h
    -- Changes are never taken back, so that the first entry made none.
    have hp : (ensureEntry set w.1 w.2).2 = .present := by
      by_contra hn
      have hc : (ensureWanted (set, r) w).2.changed = true := changed_note (.inr hn) w.1 w.2
      rw [changed_foldl hc] at h
      cases h
    have hw : Satisfies set w := by
      rcases ensureEntry_cases set w.1 w.2 with ⟨e, hf, hc, _⟩ | ⟨_, _, _, _, _, _, _, he⟩ |
          ⟨_, _, _, _, he⟩
      · exact ⟨e, hf, hc⟩
      · rw [he] at hp
        cases hp
      · rw [he] at hp
        cases hp
    rw [ensureWanted_of_satisfies hw] at h
    exact List.forall_mem_cons.mpr ⟨hw, ih h⟩

lemma covers_of_unchanged (h : (sync theme x name).2.changed = false) : Covers theme x name := by
  unfold sync at h
  cases hf : theme.findChild? "property-set" name with
  | some set =>
    rw [hf] at h
    exact ⟨set, hf, satisfies_of_unchanged h⟩
  | none =>
    rw [hf] at h
    dsimp only at h
    rw [syncSet, changed_foldl rfl] at h
    cases h

end Unchanged

/-- The text of a theme that has all that layouts ask for, each in the property set of its name. -/
def Meets (ws : List (ViewIndex × String)) (source : String) : Prop :=
  ∃ d, Document.parse source = .ok d ∧ d.root.tag = "theme" ∧ d.HasNames ∧
    ∀ w ∈ ws, Covers d.root w.1 w.2

section Meets

variable {ws : List (ViewIndex × String)} {source text base : String} {existing : Option String}

lemma Meets.mono {vs : List (ViewIndex × String)} (h : Meets ws source)
    (hv : ∀ v ∈ vs, v ∈ ws) : Meets vs source := by
  obtain ⟨d, hd, ht, hn, hw⟩ := h
  exact ⟨d, hd, ht, hn, fun v hm => hw v (hv v hm)⟩

lemma Meets.readsNames (h : Meets ws source) : ReadsNames source := by
  obtain ⟨d, hd, _, hn, _⟩ := h
  intro e he
  obtain rfl := Except.ok.inj (hd.symm.trans he)
  exact hn

lemma Meets.load (h : Meets ws source) (name base : String) :
    ∃ d, Theme.load (some source) name base = .ok d ∧ d.HasNames ∧
      ∀ w ∈ ws, Covers d.root w.1 w.2 := by
  obtain ⟨d, hd, ht, hn, hw⟩ := h
  refine ⟨d, ?_, hn, hw⟩
  simp [Theme.load, not_blank_of_parse hd, hd, ht]

lemma meets_print {d : Document} (hn : d.HasNames) (ht : d.root.tag = "theme")
    (hw : ∀ w ∈ ws, Covers d.root w.1 w.2) (x : ViewIndex) (name : String) :
    Meets ((x, name) :: ws) (Document.print ⟨(sync d.root x name).1⟩) := by
  have hs : Document.HasNames ⟨(sync d.root x name).1⟩ := every_hasNames_sync hn x name
  refine ⟨_, parse_print hs, ?_, hs.tidy, ?_⟩
  · have htag := tag_sync x name d.root
    rw [Document.tidy, Element.alone, Element.tidy_eq]
    exact htag.trans ht
  · refine List.forall_mem_cons.mpr ⟨(covers_sync d.root x name).tidy, fun w hm => ?_⟩
    exact ((hw w hm).sync x name).tidy

end Meets

end LayoutSync.Theme
