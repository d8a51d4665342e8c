import LayoutSync.Proofs.Theme.Frames
import LayoutSync.Proofs.Workspace.Commuting
import LayoutSync.Proofs.Workspace.References

/-!
Themes that several layouts share. Each layout reads a theme, brings its own property set up to date
and writes the theme again, and what the theme had for other layouts is still in it.
-/

namespace LayoutSync

open FileTree Markup Layout Workspace Theme

namespace FileTree

def HoldsText (P : String → Prop) (t : FileTree) (p : String) : Prop :=
  ∃ text, t.readText? p = .ok (some text) ∧ P text

variable {P : String → Prop} {t u : FileTree} {p q text : String}

lemma HoldsText.near (h : t.HoldsText P p) (hn : Near p t u) : u.HoldsText P p := by
  obtain ⟨s, hs, hp⟩ := h
  exact ⟨s, by rw [readText?_keeps hn.keeps (by rw [hs]; simp), hs], hp⟩

lemma Near.textAt? (h : Near p t u) : u.textAt? p = t.textAt? p := by
  rw [FileTree.textAt?, FileTree.textAt?, location_congr h.keeps.current, h.same]

lemma textAt?_of_holds (h : t.readText? p = .ok (some text)) : t.textAt? p = some text :=
  textAt?_of_readText? (Keeps.refl _ t) h

lemma HoldsText.touched (h : t.HoldsText P p) (hu : Touched q t u)
    (hq : u.readText? q = .ok (some text)) :
    u.HoldsText P p ∨ u.readText? p = .ok (some text) := by
  obtain ⟨s, hs, hp⟩ := h
  rcases hu.read (read_of_readText? hs) with hr | ⟨hl, ⟨ns, n, hf⟩, c, hc, hr⟩
  · exact .inl ⟨s, readText?_of_read hr, hp⟩
  · have hfq := (hf.read_eq_ok_iff.mp (read_of_readText? hq)).2.2
    rw [location_congr hu.current, hl, hc] at hfq
    obtain rfl := Entry.file.inj (Option.some.inj hfq)
    exact .inr (readText?_of_read hr)

lemma Touched.textAt? (h : Touched q t u) (hq : u.readText? q = .ok (some text)) (p : String) :
    u.textAt? p = t.textAt? p ∨ u.textAt? p = none ∨ u.textAt? p = some text := by
  rcases h.find? (t.location p) with he | ⟨_, he, _⟩ | ⟨hl, _⟩
  · left
    rw [FileTree.textAt?, FileTree.textAt?, location_congr h.current, he]
  · right
    left
    rw [FileTree.textAt?, location_congr h.current, he]
  · right
    right
    rw [← textAt?_of_holds hq, FileTree.textAt?, FileTree.textAt?, location_congr h.current,
      location_congr h.current, hl]

end FileTree

lemma read_updateFile {t : FileTree} {path : String}
    {update : Option String → Except Fault (Option String)}
    (h : (updateFile t path update).2.isFailed = false) :
    ∃ existing new, t.readText? path = .ok existing ∧ update existing = .ok new ∧
      (updateFile t path update).1.readText? path = .ok (new.or existing) := by
  obtain ⟨existing, new, hr, hu⟩ := updateFile_ok h
  refine ⟨existing, new, hr, hu, ?_⟩
  unfold updateFile at h ⊢
  cases new with
  | none =>
    simp only [hr, hu]
    rfl
  | some text =>
    simp only [hr, hu] at h ⊢
    cases hw : writeIfChanged t path text with
    | mk u r =>
      cases r with
      | error f =>
        rw [hw] at h
        cases h
      | ok b => exact readText?_of_read (read_of_writeIfChanged hw)

namespace Generator

variable {g : Generator} {x : ViewIndex} {path set : String} {existing new : Option String}

lemma meets_of_updateTheme (h : g.updateTheme path x set existing = .ok new)
    (hn : ∀ source ∈ existing, ReadsNames source) :
    ∃ text, new.or existing = some text ∧ Meets [(x, set)] text ∧
      ∀ ws source, existing = some source → Meets ws source → Meets ((x, set) :: ws) text := by
  cases new with
  | some text =>
    obtain ⟨d, hd, rfl⟩ := updateTheme_cases h
    refine ⟨_, rfl, ?_, fun ws source he hm => ?_⟩
    · exact meets_print (hasNames_of_load hd hn) (tag_of_load hd) (by simp) x set
    · subst he
      obtain ⟨e, he, hnames, hw⟩ := hm.load (themeName path) g.settings.baseTheme
      obtain rfl := Except.ok.inj (he.symm.trans hd)
      exact meets_print hnames (tag_of_load he) hw x set
  | none =>
    unfold updateTheme at h
    split at h
    · cases h
    · cases h
    next d hd =>
      dsimp only at h
      split at h
      · cases h
      next hc =>
        have hcov : Covers d.root x set := covers_of_unchanged (by simpa using hc)
        rcases load_cases hd with ⟨rfl, _⟩ | ⟨source, rfl, hp, ht⟩
        · exact absurd (changed_sync_create x set) hc
        · refine ⟨source, rfl, ⟨d, hp, ht, hn source rfl d hp, by simpa using hcov⟩, ?_⟩
          rintro ws other ho ⟨e, he, _, hnames, hw⟩
          obtain rfl := Option.some.inj ho
          obtain rfl := Except.ok.inj (he.symm.trans hp)
          exact ⟨e, he, ht, hnames, List.forall_mem_cons.mpr ⟨hcov, hw⟩⟩

/-- The themes can be written as they were read; once layouts were handled they have what those
layouts ask for. -/
structure ThemesMeet (ps : List String) (ws : List (ViewIndex × String)) (t : FileTree) : Prop where
  names : ∀ p ∈ ps, ∀ source ∈ t.textAt? p, ReadsNames source
  meets : ws = [] ∨ ∀ p ∈ ps, t.HoldsText (Meets ws) p

variable {ps qs : List String} {ws : List (ViewIndex × String)} {t u : FileTree} {q : String}

lemma ThemesMeet.near (h : ThemesMeet ps ws t) (hn : ∀ p ∈ ps, Near p t u) :
    ThemesMeet ps ws u :=
  ⟨fun p hp => by rw [(hn p hp).textAt?]; exact h.names p hp,
    h.meets.imp_right fun hm p hp => (hm p hp).near (hn p hp)⟩

lemma ThemesMeet.step (h : ThemesMeet ps ws t) (hq : q ∈ ps)
    (hs : (updateFile t q (g.updateTheme q x set)).2.isFailed = false) :
    ThemesMeet ps ws (updateFile t q (g.updateTheme q x set)).1 ∧
      (updateFile t q (g.updateTheme q x set)).1.HoldsText (Meets ((x, set) :: ws)) q ∧
      ∀ p, t.HoldsText (Meets ((x, set) :: ws)) p →
        (updateFile t q (g.updateTheme q x set)).1.HoldsText (Meets ((x, set) :: ws)) p := by
  obtain ⟨existing, new, hr, hu, hru⟩ := read_updateFile hs
  have ht := touched_updateFile t q (g.updateTheme q x set)
  obtain ⟨text, hnew, hone, hmore⟩ := meets_of_updateTheme hu fun source hsource => by
    rw [Option.mem_def.mp hsource] at hr
    exact h.names q hq source (textAt?_of_holds hr)
  rw [hnew] at hru
  have htext : Meets ((x, set) :: ws) text := by
    rcases h.meets with rfl | hm
    · exact hone
    · obtain ⟨source, hsource, hm⟩ := hm q hq
      exact hmore ws source (Except.ok.inj (hr.symm.trans hsource)) hm
  -- A theme at the same place holds the new text too, and others are as they were.
  have hkeep : ∀ (P : String → Prop) p, P text → t.HoldsText P p →
      (updateFile t q (g.updateTheme q x set)).1.HoldsText P p := by
    intro P p hP hp
    rcases hp.touched ht hru with hp | hp
    · exact hp
    · exact ⟨text, hp, hP⟩
  refine ⟨⟨fun p hp source hsource => ?_, h.meets.imp_right fun hm p hp => ?_⟩, ⟨text, hru, htext⟩,
    fun p => hkeep _ p htext⟩
  · rcases ht.textAt? hru p with he | he | he
    · exact h.names p hp source (he ▸ hsource)
    · rw [he] at hsource
      cases hsource
    · rw [he] at hsource
      obtain rfl := Option.some.inj hsource
      exact htext.readsNames
  · exact hkeep _ p (htext.mono fun w hw => List.mem_cons_of_mem _ hw) (hm p hp)

lemma ThemesMeet.run (h : ThemesMeet ps ws t) (hq : ∀ q ∈ qs, q ∈ ps)
    (hs : ∀ r ∈ (runStages (qs.map fun q => (q, (updateFile · q (g.updateTheme q x set)))) t).2,
      r.status.isFailed = false) :
    let u := (runStages (qs.map fun q => (q, (updateFile · q (g.updateTheme q x set)))) t).1
    ThemesMeet ps ws u ∧ (∀ q ∈ qs, u.HoldsText (Meets ((x, set) :: ws)) q) ∧
      ∀ p, t.HoldsText (Meets ((x, set) :: ws)) p → u.HoldsText (Meets ((x, set) :: ws)) p := by
  induction qs generalizing t with
  | nil => exact ⟨h, by simp, fun _ hp => hp⟩
  | cons q qs ih =>
    obtain ⟨hqp, hqs⟩ := List.forall_mem_cons.mp hq
    obtain ⟨hsq, hss⟩ := List.forall_mem_cons.mp hs
    obtain ⟨h1, h2, h3⟩ := h.step hqp hsq
    obtain ⟨k1, k2, k3⟩ := ih h1 hqs hss
    exact ⟨k1, List.forall_mem_cons.mpr ⟨k3 q h2, k2⟩, fun p hp => k3 p (h3 p hp)⟩

lemma ThemesMeet.handled (h : ThemesMeet ps ws t)
    (hs : ∀ r ∈ (runStages (ps.map fun q => (q, (updateFile · q (g.updateTheme q x set)))) t).2,
      r.status.isFailed = false) :
    ThemesMeet ps ((x, set) :: ws)
      (runStages (ps.map fun q => (q, (updateFile · q (g.updateTheme q x set)))) t).1 := by
  obtain ⟨h1, h2, _⟩ := h.run (fun _ hq => hq) hs
  exact ⟨h1.names, .inr h2⟩

end Generator

end LayoutSync
