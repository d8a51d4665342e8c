import LayoutSync.Proofs.ImportTable.Declarations
import LayoutSync.Proofs.Path.Extensions
import LayoutSync.Workspace.LayoutPaths

/-!
What is a layout is decided by how a path is spelled below the workspace, with backslashes for slashes.
Where no name there says nothing, leads up or has a backslash, this goes by the components of the path.
-/

namespace LayoutSync.Workspace

open Text LayoutSync.Path ImportTable

def layoutNames (directory stem : List Char) : List (List Char) :=
  ["res".toList, directory, "layout".toList, stem ++ ".xml".toList]

def SpelledPlainly (workspace p : String) : Prop :=
  ∀ ns, NamesBelow workspace p ns → ∀ n ∈ ns, isIdle n = false ∧ n ≠ ['.', '.'] ∧ '\\' ∉ n

lemma isLayoutName_iff {cs : List Char} : isLayoutName cs = true ↔
    ∃ a stem, a ≠ [] ∧ stem ≠ [] ∧ pieces '/' cs = layoutNames a stem := by
  unfold isLayoutName
  constructor
  · intro h
    split at h
    next r a l f hp =>
      simp only [Bool.and_eq_true, decide_eq_true_eq, Bool.not_eq_true', List.isEmpty_eq_false_iff] at h
      obtain ⟨⟨⟨⟨rfl, ha⟩, rfl⟩, hlen⟩, hs⟩ := h
      obtain ⟨stem, rfl⟩ := List.isSuffixOf_iff_suffix.mp hs
      refine ⟨a, stem, ha, ?_, hp⟩
      rintro rfl
      exact absurd hlen (by decide)
    · cases h
  · rintro ⟨a, stem, ha, hs, hp⟩
    have hl := List.length_pos_iff.mpr hs
    have hx : ".xml".toList.length = 4 := rfl
    rw [hp, layoutNames]
    simp only [Bool.and_eq_true, decide_eq_true_eq, Bool.not_eq_true', List.isEmpty_eq_false_iff]
    refine ⟨⟨⟨⟨trivial, ha⟩, trivial⟩, ?_⟩, List.isSuffixOf_iff_suffix.mpr (List.suffix_append _ _)⟩
    rw [List.length_append]
    omega

section Filter

variable {workspace p : String} {ns : List (List Char)} {a stem : List Char}

lemma isLayoutFile_iff (hw : isAbsolute workspace = true) : isLayoutFile workspace p = true ↔
    ∃ ns a stem, NamesBelow workspace p ns ∧ a ≠ [] ∧ stem ≠ [] ∧
      pieces '/' (withSlashes (String.ofList (ofNames ns))).toList = layoutNames a stem := by
  unfold isLayoutFile
  constructor
  · intro h
    split at h
    · cases h
    next relative hr =>
      obtain ⟨ns, hns, rfl⟩ := (relativeTo?_isSome_iff hw).mp hr
      obtain ⟨a, stem, ha, hs, hp⟩ := isLayoutName_iff.mp h
      exact ⟨ns, a, stem, hns, ha, hs, hp⟩
  · rintro ⟨ns, a, stem, hns, ha, hs, hp⟩
    rw [(relativeTo?_isSome_iff hw).mpr ⟨ns, hns, rfl⟩]
    exact isLayoutName_iff.mpr ⟨a, stem, ha, hs, hp⟩

lemma withSlashes_ofNames (h : ∀ n ∈ ns, '\\' ∉ n) :
    withSlashes (String.ofList (ofNames ns)) = String.ofList (ofNames ns) := by
  apply withSlashes_eq_self
  rw [String.toList_ofList]
  induction ns with
  | nil => simp [ofNames]
  | cons n ns ih =>
    have hn := h n List.mem_cons_self
    have hns := ih fun m hm => h m (List.mem_cons_of_mem _ hm)
    cases ns with
    | nil => simpa [ofNames] using hn
    | cons m ms =>
      rw [ofNames_cons n (List.cons_ne_nil m ms)]
      simp [hn, hns]

lemma pieces_withSlashes_iff (hb : ∀ n ∈ ns, '\\' ∉ n) (hs : ∀ n ∈ ns, '/' ∉ n) :
    pieces '/' (withSlashes (String.ofList (ofNames ns))).toList = layoutNames a stem ↔
      ns = layoutNames a stem := by
  rw [withSlashes_ofNames hb, String.toList_ofList]
  by_cases hne : ns = []
  · subst hne
    constructor
    · intro h
      cases h
    · intro h
      cases h
  · rw [pieces_ofNames hne hs]

lemma not_isIdle_layoutNames (ha : isIdle a = false) (hs : stem ≠ []) :
    ∀ n ∈ layoutNames a stem, isIdle n = false := by
  intro n hn
  have hf : isIdle (stem ++ ".xml".toList) = false := isIdle_dotted hs "xml".toList
  simp only [layoutNames, List.mem_cons, List.not_mem_nil, or_false] at hn
  rcases hn with rfl | rfl | rfl | rfl
  · decide
  · exact ha
  · decide
  · exact hf

lemma isLayoutFile_iff_components (hw : isAbsolute workspace = true)
    (hp : SpelledPlainly workspace p) : isLayoutFile workspace p = true ↔
    ∃ a stem, a ≠ ['.', '.'] ∧ stem ≠ [] ∧
      components p = components workspace ++ layoutNames a stem := by
  rw [isLayoutFile_iff hw]
  constructor
  · rintro ⟨ns, a, stem, hns, ha, hs, hpieces⟩
    have hplain := hp ns hns
    obtain rfl := (pieces_withSlashes_iff (fun n hn => (hplain n hn).2.2)
      (slash_not_mem_of_namesBelow hns)).mp hpieces
    have hmem : a ∈ layoutNames a stem := by simp [layoutNames]
    refine ⟨a, stem, (hplain a hmem).2.1, hs, ?_⟩
    rw [components_of_namesBelow hns, List.filter_eq_self.mpr]
    intro n hn
    rw [(hplain n hn).1]
    rfl
  · rintro ⟨a, stem, _, hs, hc⟩
    have hprefix : (components workspace).isPrefixOf (components p) = true := by
      rw [hc, List.isPrefixOf_iff_prefix]
      exact List.prefix_append _ _
    obtain ⟨ns, hns⟩ := exists_namesBelow hw hprefix
    have hplain := hp ns hns
    have heq : ns = layoutNames a stem := by
      have hfilter := components_of_namesBelow hns
      rw [List.filter_eq_self.mpr fun n hn => by rw [(hplain n hn).1]; rfl] at hfilter
      exact List.append_cancel_left (hfilter.symm.trans hc)
    have ha : a ≠ [] := by
      rintro rfl
      exact absurd (hplain [] (by simp [heq, layoutNames])).1 (by decide)
    exact ⟨ns, a, stem, hns, ha, hs, (pieces_withSlashes_iff (fun n hn => (hplain n hn).2.2)
      (slash_not_mem_of_namesBelow hns)).mpr heq⟩

end Filter

section Derived

variable {workspace p : String} {a stem : List Char}

lemma exists_parent? {q : String} (h : steps q.toList ≠ []) : ∃ d, parent? q = some d ∧ IsParent d q := by
  cases hd : parent? q with
  | none => exact absurd (steps_of_parent?_none hd).1 h
  | some d => exact ⟨d, rfl, isParent_of_parent? hd⟩

lemma steps_of_namesBelow (hn : NamesBelow workspace p (layoutNames a stem)) (ha : isIdle a = false)
    (hs : stem ≠ []) : steps p.toList = steps workspace.toList ++ layoutNames a stem := by
  obtain ⟨ms, es, hnames, _, hms, _, he⟩ := hn
  have hes : es.filter (!isIdle ·) = [] := by
    apply List.filter_eq_nil_iff.mpr
    intro e hmem
    simp [he e hmem]
  have hl : (layoutNames a stem).filter (!isIdle ·) = layoutNames a stem := by
    apply List.filter_eq_self.mpr
    intro n hmem
    rw [not_isIdle_layoutNames ha hs n hmem]
    rfl
  rw [← steps_names, hnames, List.filter_append, List.filter_append, hms, hl, hes, List.append_nil]

lemma components_themeDirectory (hp : isAbsolute p = true)
    (hs : steps p.toList = steps workspace.toList ++ layoutNames a stem)
    (hw : isAbsolute workspace = true) : ∃ d, themeDirectory? p = some (Path.join d "theme") ∧
      components d = components workspace ++ ["res".toList] := by
  obtain ⟨b, hb, hpb⟩ := exists_parent? (q := p) (by simp [hs, layoutNames])
  have hsb : steps b.toList = steps workspace.toList ++ ["res".toList, a, "layout".toList] := by
    rw [hpb.steps, hs, List.dropLast_append_of_ne_nil (by simp [layoutNames])]
    rfl
  obtain ⟨c, hc, hpc⟩ := exists_parent? (q := b) (by simp [hsb])
  have hsc : steps c.toList = steps workspace.toList ++ ["res".toList, a] := by
    rw [hpc.steps, hsb, List.dropLast_append_of_ne_nil (by simp)]
    rfl
  obtain ⟨d, hd, hpd⟩ := exists_parent? (q := c) (by simp [hsc])
  have hsd : steps d.toList = steps workspace.toList ++ ["res".toList] := by
    rw [hpd.steps, hsc, List.dropLast_append_of_ne_nil (by simp)]
    rfl
  have habs : isAbsolute d = true := by
    rw [hpd.isAbsolute, hpc.isAbsolute, hpb.isAbsolute, hp]
  refine ⟨d, ?_, ?_⟩
  · rw [themeDirectory?, hb]
    simp only [Option.bind_eq_bind, Option.bind_some, hc, hd]
    rfl
  · rw [components_of_isAbsolute habs, hsd, components_of_isAbsolute hw]
    rfl

lemma isAbsolute_of_namesBelow {ns : List (List Char)} (hw : isAbsolute workspace = true)
    (hn : NamesBelow workspace p ns) : isAbsolute p = true := by
  have hc := components_of_namesBelow hn
  rw [components_of_isAbsolute hw, List.cons_append] at hc
  exact (isAbsolute_of_components hc).1

lemma toList_of_namesBelow (hp : isAbsolute p = true)
    (hn : NamesBelow workspace p (layoutNames a stem)) : ∃ ks es,
      p.toList = '/' :: ofNames (ks ++ (stem ++ '.' :: "xml".toList) :: es) ∧
      (∀ n ∈ ks ++ (stem ++ '.' :: "xml".toList) :: es, '/' ∉ n) ∧ ∀ e ∈ es, isIdle e = true := by
  obtain ⟨ms, es, hnames, _, _, _, he⟩ := hn
  have hsplit : names p.toList =
      (ms ++ ["res".toList, a, "layout".toList]) ++ (stem ++ '.' :: "xml".toList) :: es := by
    rw [hnames, layoutNames]
    simp
  refine ⟨ms ++ ["res".toList, a, "layout".toList], es, ?_, ?_, he⟩
  · have hspell := lead_append_names p.toList
    rw [(isAbsolute_iff_lead p).mp hp, hsplit] at hspell
    exact hspell.symm
  · rw [← hsplit]
    exact fun n hmem => not_mem_of_mem_pieces hmem

lemma components_of_absolute {ns : List (List Char)} (hp : p.toList = '/' :: ofNames ns) (hne : ns ≠ [])
    (hs : ∀ n ∈ ns, '/' ∉ n) : components p = ['/'] :: ns.filter (!isIdle ·) := by
  obtain ⟨hl, hn⟩ := names_of_absolute hp hne hs
  rw [components_eq, ← steps_names, hl, hn]
  rfl

lemma components_parameters (hp : isAbsolute p = true)
    (hn : NamesBelow workspace p (layoutNames a stem)) (hs : stem ≠ []) (hd : stem ≠ ['.']) :
    components (withExtension p "json") = (components p).dropLast ++ [stem ++ ".json".toList] := by
  obtain ⟨ks, es, hspell, hslash, he⟩ := toList_of_namesBelow hp hn
  have hpoint : '.' ∉ "xml".toList := by decide
  have hext := withExtension_absolute hspell hslash hs hd hpoint he "json"
  have hes : ∀ e, ((stem ++ '.' :: e) :: es).filter (!isIdle ·) = [stem ++ '.' :: e] := by
    intro e
    rw [List.filter_cons, isIdle_dotted hs, List.filter_eq_nil_iff.mpr]
    · rfl
    · intro n hmem
      simp [he n hmem]
  have hone : ∀ e, [stem ++ '.' :: e].filter (!isIdle ·) = [stem ++ '.' :: e] := by
    intro e
    rw [List.filter_singleton, isIdle_dotted hs]
    rfl
  have hclean : ∀ n ∈ ks ++ [stem ++ '.' :: "json".toList], '/' ∉ n := by
    apply names_clean (fun k hk => hslash k (List.mem_append_left _ hk)) _ (by simp)
    intro h
    rcases List.mem_append.mp h with h | h
    · exact hslash (stem ++ '.' :: "xml".toList) (by simp) (List.mem_append_left _ h)
    · exact absurd h (by decide)
  rw [components_of_absolute hext (by simp) hclean, components_of_absolute hspell (by simp) hslash,
    List.filter_append, List.filter_append, hes, hone, ← List.cons_append, ← List.cons_append,
    List.dropLast_concat]
  rfl

lemma derive?_of_namesBelow (hw : isAbsolute workspace = true) (hl : isLayoutFile workspace p = true)
    (hn : NamesBelow workspace p (layoutNames a stem)) (ha : isIdle a = false) (hs : stem ≠ [])
    (s : Settings) : ∃ paths, LayoutPaths.derive? workspace p s = some paths ∧
      (stem ≠ ['.'] →
        components paths.parameters = (components p).dropLast ++ [stem ++ ".json".toList]) ∧
      List.Forall₂ (fun variant theme => IsProper variant → components theme =
        components workspace ++ ["res".toList, "theme".toList, variant.toList])
        s.themeVariants paths.themes := by
  have hp := isAbsolute_of_namesBelow hw hn
  obtain ⟨d, hd, hcd⟩ := components_themeDirectory hp (steps_of_namesBelow hn ha hs) hw
  obtain ⟨ks, es, hspell, hslash, he⟩ := toList_of_namesBelow hp hn
  have hup : stem ++ '.' :: "xml".toList ≠ ['.', '.'] := by
    intro h
    have hlen := congrArg List.length h
    simp at hlen
  have hstem : stem? p = some (String.ofList stem) := by
    rw [stem?, fileName?_absolute hspell hslash (isIdle_dotted hs _) hup he, Option.map_some,
      String.toList_ofList, splitExtension_eq hs (by decide)]
  rw [LayoutPaths.derive?, hl, hstem, hd]
  refine ⟨_, rfl, components_parameters hp hn hs, ?_⟩
  apply List.forall₂_map_right_iff.mpr
  apply List.forall₂_same.mpr
  intro variant _ hv
  have htheme : IsProper "theme" := ⟨by decide, by decide, by decide⟩
  have hbelow : ∀ n ∈ ["theme", variant], IsProper n := by
    simp [htheme, hv]
  have hc := components_pathBelow d hbelow
  rw [hcd] at hc
  simpa [pathBelow] using hc

end Derived

/-- For every workspace and every path, in any spelling. Whether the path is that of a layout depends
on the text from the first to the last name below the workspace. Where that is spelled plainly, it
depends on the components only. The files of a layout are beside it and beside its directory, unless
that directory is the one around it or the layout has no other name than a point. -/
theorem isLayoutFile_spelled (workspace p : String) (hw : isAbsolute workspace = true) :
    (isLayoutFile workspace p = true ↔ ∃ ns a stem, NamesBelow workspace p ns ∧ a ≠ [] ∧ stem ≠ [] ∧
      pieces '/' (withSlashes (String.ofList (ofNames ns))).toList = layoutNames a stem) ∧
    (SpelledPlainly workspace p →
      (isLayoutFile workspace p = true ↔ ∃ a stem, a ≠ ['.', '.'] ∧ stem ≠ [] ∧
        components p = components workspace ++ layoutNames a stem) ∧
      ∀ q, SpelledPlainly workspace q → components q = components p →
        isLayoutFile workspace q = isLayoutFile workspace p) ∧
    ∀ a stem, isLayoutFile workspace p = true → NamesBelow workspace p (layoutNames a stem) →
      isIdle a = false → stem ≠ [] → ∀ s, ∃ paths,
        LayoutPaths.derive? workspace p s = some paths ∧
        (stem ≠ ['.'] →
          components paths.parameters = (components p).dropLast ++ [stem ++ ".json".toList]) ∧
        List.Forall₂ (fun variant theme => IsProper variant → components theme =
          components workspace ++ ["res".toList, "theme".toList, variant.toList])
          s.themeVariants paths.themes := by
  refine ⟨isLayoutFile_iff hw, fun hp => ⟨isLayoutFile_iff_components hw hp, ?_⟩, ?_⟩
  · intro q hq hc
    rw [Bool.eq_iff_iff, isLayoutFile_iff_components hw hq, isLayoutFile_iff_components hw hp, hc]
  · intro a stem hl hn ha hs s
    exact derive?_of_namesBelow hw hl hn ha hs s

theorem isLayoutFile_spelled_sample : isAbsolute "/ws/." = true ∧
    (isLayoutFile "/ws/." "//ws/./res/a/layout/b.xml/." = true ↔ ∃ a stem, a ≠ ['.', '.'] ∧ stem ≠ [] ∧
      components "//ws/./res/a/layout/b.xml/." = components "/ws/." ++ layoutNames a stem) ∧
    ∃ paths, LayoutPaths.derive? "/ws/." "//ws/./res/a/layout/b.xml/." {} = some paths ∧
      components paths.parameters = (components "//ws/./res/a/layout/b.xml/.").dropLast ++
        ["b.json".toList] := by
  have hw : isAbsolute "/ws/." = true := by decide
  have hn : NamesBelow "/ws/." "//ws/./res/a/layout/b.xml/." (layoutNames ['a'] ['b']) := by
    refine ⟨[[], "ws".toList, ['.']], [['.']], by decide, by decide, by decide, ?_, by decide⟩
    exact bounded_of_forall (by decide)
  have hplain : SpelledPlainly "/ws/." "//ws/./res/a/layout/b.xml/." := by
    intro ns hns
    obtain rfl := namesBelow_unique hns hn (by decide) (by decide)
    decide
  obtain ⟨_, hcomponents, hderived⟩ :=
    isLayoutFile_spelled "/ws/." "//ws/./res/a/layout/b.xml/." hw
  obtain ⟨paths, hp, hparameters, _⟩ :=
    hderived ['a'] ['b'] (by decide +kernel) hn (by decide) (by decide) {}
  exact ⟨hw, (hcomponents hplain).1, paths, hp, hparameters (by decide)⟩

theorem not_by_components :
    (components "/ws/res//a/layout/b.xml" = components "/ws/res/a/layout/b.xml" ∧
      isLayoutFile "/ws" "/ws/res/a/layout/b.xml" = true ∧
      isLayoutFile "/ws" "/ws/res//a/layout/b.xml" = false) ∧
    (components "/ws/res/a/layout/b\\c.xml" =
        components "/ws" ++ layoutNames ['a'] ['b', '\\', 'c'] ∧
      isLayoutFile "/ws" "/ws/res/a/layout/b\\c.xml" = false) ∧
    (isLayoutFile "/ws" "/ws/res/./layout/b.xml" = true ∧
      isLayoutFile "/ws" "/ws/res/../layout/b.xml" = true ∧
      isLayoutFile "/ws" "/ws/res\\a\\layout\\b.xml" = true) ∧
    withExtension "/ws/res/a/layout/..xml" "json" = "/ws/res/a/layout/.." := by
  decide +kernel

end LayoutSync.Workspace
