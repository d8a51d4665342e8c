import LayoutSync.Proofs.Layout.FirstOccurrence
import LayoutSync.Proofs.Theme.Entries

namespace LayoutSync.Theme

open Markup Layout

/-- A theme that was brought up to date has an entry with content for the tag of every element that is
the first to be visited of those with its id. -/
theorem sync_themes_tags (theme root : Element) (policy : ParentPolicy) (name : String) :
    ∃ set, (sync theme (ViewIndex.ofLayout root policy) name).1.findChild? "property-set" name =
        some set ∧
      ∀ id p e, IsFirstVisited root id p → elementAt? root p = some e →
        ∀ tag, e.nonEmptyAttr "tag" = some tag →
          ∃ entry, set.findChild? "tag" tag = some entry ∧ entry.hasContent = true := by
  obtain ⟨set, hset, hs⟩ := covers_sync theme (ViewIndex.ofLayout root policy) name
  refine ⟨set, hset, fun id p e hp he tag ht => ?_⟩
  obtain ⟨r, hr, hd⟩ := hp.exists_view policy he
  exact hs _ (tag_mem_wanted hr (hd.tagAttribute.trans ht))

def strewn : Element where
  tag := "Box"
  attributes := Dict.ofList [("id", "b"), ("tag", "s")]
  children := [
    { tag := "Text", attributes := Dict.ofList [("tag", "t")] },
    { tag := "Text", attributes := Dict.ofList [("id", "b"), ("tag", "u")] }]

lemma isFirstVisited_strewn : IsFirstVisited strewn "b" [] := by
  refine ⟨⟨strewn, rfl, rfl⟩, ?_⟩
  rintro (_ | ⟨i, q⟩) _ hne
  · exact absurd rfl hne
  · exact .above

theorem sync_themes_tags_strewn :
    ∃ set entry, (sync (create "d" "hdt").root (ViewIndex.ofLayout strewn .structural) "b").1.findChild?
        "property-set" "b" = some set ∧
      IsFirstVisited strewn "b" [] ∧ elementAt? strewn [] = some strewn ∧
      strewn.nonEmptyAttr "tag" = some "s" ∧
      set.findChild? "tag" "s" = some entry ∧ entry.hasContent = true := by
  obtain ⟨set, hset, h⟩ := sync_themes_tags (create "d" "hdt").root strewn .structural "b"
  obtain ⟨entry, he, hc⟩ := h "b" [] strewn isFirstVisited_strewn rfl "s" (by decide)
  exact ⟨set, entry, hset, isFirstVisited_strewn, rfl, by decide, he, hc⟩

theorem sync_strewn :
    ∃ set, (sync (create "d" "hdt").root (ViewIndex.ofLayout strewn .structural) "b").1.findChild?
        "property-set" "b" = some set ∧
      (∃ c, elementAt? strewn [0] = some c ∧ c.nonEmptyAttr "tag" = some "t" ∧
        set.findChild? "tag" "t" = none) ∧
      ∃ c, elementAt? strewn [1] = some c ∧ c.nonEmptyAttr "tag" = some "u" ∧
        set.findChild? "tag" "u" = none := by
  refine ⟨_, rfl, ⟨_, rfl, ?_, ?_⟩, _, rfl, ?_, ?_⟩ <;> decide +kernel

end LayoutSync.Theme
