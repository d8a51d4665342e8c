import LayoutSync.Proofs.Markup.RoundTrip
import LayoutSync.Proofs.Theme.Growth

namespace LayoutSync.Markup

def ReadsNames (source : String) : Prop := ∀ d, Document.parse source = .ok d → d.HasNames

lemma allBlank_print (d : Document) : Text.allBlank d.print.toList = false := by
  rw [Document.print, String.toList_ofList]
  rfl

lemma readsNames_print {d : Document} (h : d.HasNames) : ReadsNames d.print := by
  intro e he
  rw [parse_print h] at he
  obtain rfl := Except.ok.inj he
  exact h.tidy

end LayoutSync.Markup

namespace LayoutSync.Theme

open Markup Layout

variable {existing : Option String} {name base : String} {d : Document}

lemma load_cases (h : load existing name base = .ok d) :
    (d = create name base ∧ ∀ source ∈ existing, Text.allBlank source.toList = true) ∨
      ∃ source, existing = some source ∧ Document.parse source = .ok d ∧ d.root.tag = "theme" := by
  unfold load at h
  split at h
  · exact .inl ⟨(Except.ok.inj h).symm, by simp⟩
  next source =>
    split at h
    next hb => exact .inl ⟨(Except.ok.inj h).symm, by simpa using hb⟩
    · split at h
      · cases h
      next hp =>
        split at h
        next ht =>
          obtain rfl := Except.ok.inj h
          exact .inr ⟨source, rfl, hp, ht⟩
        · cases h

lemma tag_of_load (h : load existing name base = .ok d) : d.root.tag = "theme" := by
  rcases load_cases h with ⟨rfl, _⟩ | ⟨_, _, _, ht⟩
  · rfl
  · exact ht

lemma hasNames_of_load (h : load existing name base = .ok d)
    (hn : ∀ source ∈ existing, ReadsNames source) : d.HasNames := by
  rcases load_cases h with ⟨rfl, _⟩ | ⟨source, hs, hp, _⟩
  · exact every_hasNames_create name base
  · exact hn source hs d hp

lemma load_print (h : d.HasNames) (ht : d.root.tag = "theme") :
    load (some d.print) name base = .ok d.tidy := by
  have ht' : d.tidy.root.tag = "theme" := by
    rw [← ht, Document.tidy, Element.alone, Element.tidy_eq]
  simp only [load, allBlank_print, Bool.false_eq_true, if_false, parse_print h, ht', if_true]

section Sync

variable (x : ViewIndex) (set : String)

lemma tag_sync (theme : Element) : (sync theme x set).1.tag = theme.tag := by
  cases grown_sync theme x set with
  | intro tag => exact tag

lemma load_sync (h : load existing name base = .ok d) (hn : ∀ source ∈ existing, ReadsNames source) :
    load (some (Document.print ⟨(sync d.root x set).1⟩)) name base =
      .ok (Document.tidy ⟨(sync d.root x set).1⟩) :=
  load_print (every_hasNames_sync (hasNames_of_load h hn) x set)
    ((tag_sync x set d.root).trans (tag_of_load h))

lemma createdPropertySet_syncSet (e : Element) (r : Report) :
    (syncSet x e r).2.createdPropertySet = r.createdPropertySet := by
  refine List.foldlRecOn (motive := fun s => s.2.createdPropertySet = r.createdPropertySet)
    (b := (e, r)) (wanted x.views) ensureWanted rfl fun s h w _ => Eq.trans ?_ h
  unfold ensureWanted Report.note
  dsimp only
  split
  · rfl
  · rfl
  · split <;> rfl

lemma changed_sync_create : (sync (create name base).root x set).2.changed = true := by
  have h : (sync (create name base).root x set).2 =
      (syncSet x (newSet set) { createdPropertySet := true }).2 := rfl
  rw [h, Report.changed, createdPropertySet_syncSet]
  rfl

end Sync

end LayoutSync.Theme
