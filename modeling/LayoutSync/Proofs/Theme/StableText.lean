import LayoutSync.Proofs.Markup.Parsed
import LayoutSync.Proofs.Theme.ThemeFile

/-!
What becomes of a theme that is brought up to date, written and read again. It is the same theme with
the same text, unless children were put into a leaf that held nothing but blanks: blanks count as data
in a leaf, but not before a child.
-/

namespace LayoutSync.Theme

open Markup Layout

def IsBlankLeaf (e : Element) : Prop :=
  e.children = [] ∧ ∃ s ∈ e.text, Text.allBlank s.toList = true

/-- Children are put into a leaf of blanks: into the theme itself, or into its property set. -/
def FillsBlankLeaf (theme : Element) (x : ViewIndex) (name : String) : Prop :=
  IsBlankLeaf theme ∨
    x.views ≠ [] ∧ ∃ set, theme.findChild? "property-set" name = some set ∧ IsBlankLeaf set

section Children

variable {set : Element} {kind name : String}

lemma children_ne_nil_of_findChild? {e : Element} (h : set.findChild? kind name = some e) :
    set.children ≠ [] := by
  intro hn
  rw [Element.findChild?, hn] at h
  cases h

lemma children_syncSet (x : ViewIndex) (set : Element) (r : Report) :
    (syncSet x set r).1.children = [] ↔ set.children = [] ∧ x.views = [] := by
  constructor
  · intro h
    constructor
    · by_contra hn
      cases grown_syncSet x set r with
      | intro _ _ _ _ children => exact embeds_ne_nil children hn h
    · cases hv : x.views with
      | nil => rfl
      | cons v vs =>
        have hw := id_mem_wanted (hv ▸ List.mem_cons_self : v ∈ x.views)
        obtain ⟨e, he, _⟩ := satisfies_foldl (set, r) (wanted x.views) hw
        exact absurd h (children_ne_nil_of_findChild? he)
  · rintro ⟨hs, hv⟩
    rw [syncSet, hv]
    exact hs

end Children

section Tidy

variable {e set theme : Element}

lemma every_isTidy_newEntry (kind : EntryKind) (name : String) :
    (newEntry kind name).Every Element.IsTidy := by
  refine .intro ⟨(newEntry kind name).attributes.nodup_keys, ?_, ?_, ?_, ?_⟩ ?_ <;>
    simp [newEntry, placeholder]

lemma every_isTidy_newSet (name : String) : (newSet name).Every Element.IsTidy := by
  refine .intro ⟨(newSet name).attributes.nodup_keys, ?_, ?_, ?_, ?_⟩ ?_ <;> simp [newSet]

lemma every_isTidy_filled (h : e.Every Element.IsTidy) (hc : e.hasContent = false) :
    Element.Every Element.IsTidy { e with text := some placeholder } := by
  have hn := children_eq_nil_of_hasContent hc
  have ht := h.here
  refine .intro ⟨ht.distinct, ?_, ht.tail_ne, ?_, ht.tail_solid⟩ h.inside
  · simp [placeholder]
  · exact fun hne => absurd hn hne

lemma every_isTidy_withChildren_iff (h : e.IsTidy) {cs : List Element}
    (hc : ∀ c ∈ cs, c.Every Element.IsTidy) :
    Element.Every Element.IsTidy { e with children := cs } ↔ ¬ (cs ≠ [] ∧ IsBlankLeaf e) := by
  constructor
  · rintro ht ⟨hn, _, s, hs, hb⟩
    rw [ht.here.text_solid hn s hs] at hb
    cases hb
  · intro hn
    refine .intro ⟨h.distinct, h.text_ne, h.tail_ne, fun hne s hs => ?_, h.tail_solid⟩ hc
    by_cases hl : e.children = []
    · apply Bool.eq_false_iff.mpr
      exact fun hb => hn ⟨hne, hl, s, hs, hb⟩
    · exact h.text_solid hl s hs

lemma every_isTidy_syncSet_iff (h : set.Every Element.IsTidy) (x : ViewIndex) (r : Report) :
    (syncSet x set r).1.Every Element.IsTidy ↔ ¬ (x.views ≠ [] ∧ IsBlankLeaf set) := by
  have hc : ∀ c ∈ (syncSet x set r).1.children, c.Every Element.IsTidy :=
    forall_children_foldl (fun _ => every_isTidy_filled) every_isTidy_newEntry h.inside
      (wanted x.views)
  have hn := children_syncSet x set r
  obtain ⟨cs, hcs⟩ := foldl_ensureWanted_eq (set, r) (wanted x.views)
  change (syncSet x set r).1 = { set with children := cs } at hcs
  rw [hcs] at hc hn ⊢
  rw [every_isTidy_withChildren_iff h.here hc]
  -- Only a leaf is asked about, and it gains children just if there are views.
  refine not_congr ⟨fun ⟨hne, hb⟩ => ⟨fun hv => hne (hn.mpr ⟨hb.1, hv⟩), hb⟩,
    fun ⟨hv, hb⟩ => ⟨fun he => hv (hn.mp he).2, hb⟩⟩

lemma every_isTidy_sync_iff (h : theme.Every Element.IsTidy) (x : ViewIndex) (name : String) :
    (sync theme x name).1.Every Element.IsTidy ↔ ¬ FillsBlankLeaf theme x name := by
  have ht := h.inside
  unfold FillsBlankLeaf
  cases hf : theme.findChild? "property-set" name with
  | some set =>
    obtain ⟨l, r, hc, _, _, hs⟩ := sync_of_found hf x
    have hb : ¬ IsBlankLeaf theme := fun hb => children_ne_nil_of_findChild? hf hb.1
    rw [hc, List.forall_mem_append, List.forall_mem_cons] at ht
    obtain ⟨hl, hset, hr⟩ := ht
    have hiff := every_isTidy_syncSet_iff hset x {}
    rw [hs]
    constructor
    · rintro he (hb' | ⟨hv, set', hset', hb'⟩)
      · exact hb hb'
      · obtain rfl := Option.some.inj hset'
        exact hiff.mp (he.inside _ (by simp)) ⟨hv, hb'⟩
    · intro hn
      have hs' := hiff.mpr fun ⟨hv, hb'⟩ => hn (.inr ⟨hv, set, rfl, hb'⟩)
      refine (every_isTidy_withChildren_iff h.here ?_).mpr fun hb' => hb hb'.2
      exact List.forall_mem_append.mpr ⟨hl, List.forall_mem_cons.mpr ⟨hs', hr⟩⟩
  | none =>
    -- A new set has no blanks in it, and the theme gains a child whatever the views are.
    have hs := (every_isTidy_syncSet_iff (every_isTidy_newSet name) x
      { createdPropertySet := true }).mpr fun ⟨_, _, s, hs, _⟩ => nomatch hs
    have hc := List.forall_mem_append.mpr ⟨ht, List.forall_mem_singleton.mpr hs⟩
    rw [(sync_of_missing hf x).2]
    refine (every_isTidy_withChildren_iff h.here hc).trans (not_congr ?_)
    simp

lemma isTidy_of_load {existing : Option String} {name base : String} {d : Document}
    (h : load existing name base = .ok d) : d.IsTidy := by
  rcases load_cases h with ⟨rfl, _⟩ | ⟨source, _, hp, _⟩
  · refine ⟨.intro ⟨(create name base).root.attributes.nodup_keys, ?_, ?_, ?_, ?_⟩ ?_, rfl⟩ <;>
      simp [create]
  · exact isTidy_of_parse hp

end Tidy

/-- A theme that was brought up to date and written can be read, and what is read is stable from then
on. It is the theme that was written, and written the same, unless a leaf of blanks was filled. -/
theorem load_written_iff {existing : Option String} {name base : String} {d : Document}
    (h : load existing name base = .ok d) (hn : ∀ source ∈ existing, ReadsNames source)
    (x : ViewIndex) (set : String) :
    let synced : Document := ⟨(sync d.root x set).1⟩
    ∃ again : Document, load (some synced.print) name base = .ok again ∧
      (again = synced ∧ again.print = synced.print ↔ ¬ FillsBlankLeaf d.root x set) ∧
      load (some again.print) name base = .ok again := by
  intro synced
  have hd := isTidy_of_load h
  have hnames : synced.HasNames := every_hasNames_sync (hasNames_of_load h hn) x set
  have hagain := load_sync x set h hn
  refine ⟨synced.tidy, hagain, ?_, ?_⟩
  · rw [← every_isTidy_sync_iff hd.1 x set]
    constructor
    · rintro ⟨he, _⟩
      have ht := synced.isTidy_tidy
      rw [he] at ht
      exact ht.1
    · intro ht
      have htail : synced.root.tail = none := by
        cases grown_sync d.root x set with
        | intro _ _ tail => exact tail.trans hd.2
      have he : synced.tidy = synced := Document.tidy_eq_self ⟨ht, htail⟩
      exact ⟨he, congrArg Document.print he⟩
  · have ht : load (some synced.tidy.print) name base = .ok synced.tidy.tidy :=
      load_print hnames.tidy (tag_of_load hagain)
    rwa [Document.tidy_eq_self synced.isTidy_tidy] at ht

def spaced : Document where
  root := {
    tag := "theme"
    attributes := Dict.ofList [("name", "t")]
    children := [
      { tag := "property-set", attributes := Dict.ofList [("name", "b")], text := some " " }] }

def oneView : ViewIndex :=
  ViewIndex.ofLayout { tag := "V", attributes := Dict.ofList [("id", "x")] } .nearestIdentified

lemma load_spaced : load (some spaced.print) "t" "hdt" = .ok spaced :=
  load_print (by decide) rfl

lemma readsNames_spaced : ∀ source ∈ some spaced.print, ReadsNames source := by
  rintro _ ⟨⟩
  exact readsNames_print (by decide)

theorem load_written_spaced :
    let synced : Document := ⟨(sync spaced.root oneView "b").1⟩
    load (some spaced.print) "t" "hdt" = .ok spaced ∧
      (∀ source ∈ some spaced.print, ReadsNames source) ∧
      ∃ again : Document, load (some synced.print) "t" "hdt" = .ok again ∧
        (again = synced ∧ again.print = synced.print ↔ ¬ FillsBlankLeaf spaced.root oneView "b") ∧
        load (some again.print) "t" "hdt" = .ok again :=
  ⟨load_spaced, readsNames_spaced, load_written_iff load_spaced readsNames_spaced oneView "b"⟩

theorem written_spaced_ne :
    let synced : Document := ⟨(sync spaced.root oneView "b").1⟩
    load (some spaced.print) "t" "hdt" = .ok spaced ∧
      (∀ source ∈ some spaced.print, ReadsNames source) ∧
      ∃ again : Document, load (some synced.print) "t" "hdt" = .ok again ∧ again ≠ synced ∧
        again.print ≠ synced.print := by
  intro synced
  refine ⟨load_spaced, readsNames_spaced, synced.tidy,
    load_sync oneView "b" load_spaced readsNames_spaced, ?_, ?_⟩
  · decide +kernel
  · decide +kernel

end LayoutSync.Theme
