import LayoutSync.Proofs.Path.Joining

/-!
The rest of a path below a directory is spelled by the names that follow those of the directory, from
the first to the last one that says something.
-/

namespace LayoutSync.Path

open Text

lemma components_eq (p : String) :
    components p = (if lead p.toList = [] then [] else [lead p.toList]) ++ steps p.toList := by
  rw [components, steps_names]

lemma components_of_isAbsolute {p : String} (h : isAbsolute p = true) :
    components p = ['/'] :: steps p.toList := by
  obtain ⟨r, hr⟩ := (isAbsolute_iff p).mp h
  rw [components_eq, hr]
  rfl

lemma slash_not_mem_steps {cs n : List Char} (h : n ∈ steps cs) : '/' ∉ n :=
  not_mem_of_mem_pieces (List.mem_filter.mp h).1

lemma isAbsolute_of_components {p : String} {ns : List (List Char)}
    (h : components p = ['/'] :: ns) : isAbsolute p = true ∧ steps p.toList = ns := by
  have hsteps : steps p.toList ≠ ['/'] :: ns := by
    intro hs
    have hm : ['/'] ∈ steps p.toList := hs ▸ List.mem_cons_self
    exact absurd List.mem_cons_self (slash_not_mem_steps hm)
  rw [components_eq] at h
  rcases lead_cases p.toList with ⟨r, hr, hl⟩ | ⟨_, hl⟩ | ⟨r, _, hl⟩ | ⟨hl, _⟩ <;> rw [hl] at h
  · exact ⟨(isAbsolute_iff p).mpr ⟨r, hr⟩, (List.cons.inj h).2⟩
  · cases (List.cons.inj h).1
  · cases (List.cons.inj h).1
  · exact absurd h hsteps

section Dropping

variable {k : Nat} {ms ns : List (List Char)}

lemma dropWhile_dropNames (hk : (ms.filter (!isIdle ·)).length = k) :
    (dropNames k (ms ++ ns)).dropWhile isIdle = ns.dropWhile isIdle := by
  induction ms generalizing k with
  | nil =>
    obtain rfl : k = 0 := hk.symm
    rw [List.nil_append, dropNames]
  | cons m ms ih =>
    by_cases hm : isIdle m = true
    · rw [List.filter_cons_of_neg (by simp [hm])] at hk
      rw [List.cons_append, ← ih hk]
      cases k with
      | zero =>
        rw [dropNames, dropNames, List.dropWhile_cons_of_pos hm]
      | succ k => rw [dropNames, if_pos hm]
    · rw [List.filter_cons_of_pos (by simpa using hm), List.length_cons] at hk
      cases k with
      | zero => omega
      | succ k =>
        rw [List.cons_append, dropNames, if_neg hm]
        exact ih (by omega)

def Bounded (ns : List (List Char)) : Prop :=
  (∀ n ∈ ns.head?, isIdle n = false) ∧ ∀ n ∈ ns.getLast?, isIdle n = false

lemma Bounded.dropWhile_append (h : Bounded ns) {es : List (List Char)}
    (he : ∀ e ∈ es, isIdle e = true) : trimEnd ((ns ++ es).dropWhile isIdle) = ns := by
  have htrim : ∀ l, trimEnd (l ++ es) = trimEnd l := by
    intro l
    rw [trimEnd_eq, trimEnd_eq, List.rdropWhile, List.reverse_append, List.dropWhile_append_of_pos]
    · rfl
    · intro e hm
      exact he e (List.mem_reverse.mp hm)
  cases ns with
  | nil =>
    rw [List.nil_append, List.dropWhile_eq_nil_iff.mpr he]
    rfl
  | cons n ns =>
    have hn : isIdle n = false := h.1 n rfl
    rw [List.cons_append, List.dropWhile_cons_of_neg (by simp [hn]), ← List.cons_append, htrim]
    obtain ⟨ls, z, hz⟩ := (List.eq_nil_or_concat' (n :: ns)).resolve_left (by simp)
    have hlast : isIdle z = false := h.2 z (by rw [hz]; simp)
    rw [hz, trimEnd_of_last hlast]

lemma bounded_of_forall (h : ∀ n ∈ ns, isIdle n = false) : Bounded ns :=
  ⟨fun n hn => h n (List.mem_of_head? hn), fun n hn => h n (List.mem_of_getLast? hn)⟩

lemma exists_bounded (ns : List (List Char)) : ∃ is ms es, ns = is ++ ms ++ es ∧
    (∀ n ∈ is, isIdle n = true) ∧ Bounded ms ∧ ∀ n ∈ es, isIdle n = true := by
  refine ⟨ns.takeWhile isIdle, trimEnd (ns.dropWhile isIdle), (ns.dropWhile isIdle).rtakeWhile isIdle,
    ?_, fun n hn => List.mem_takeWhile_imp hn, ⟨?_, ?_⟩, fun n hn => List.mem_rtakeWhile_imp hn⟩
  · rw [List.append_assoc, trimEnd_eq, List.rdropWhile_append_rtakeWhile,
      List.takeWhile_append_dropWhile]
  · intro n hn
    have hd := List.head?_dropWhile_not isIdle ns
    obtain ⟨t, ht⟩ := trimEnd_start (ns.dropWhile isIdle)
    rw [← ht, List.head?_append, Option.mem_def.mp hn] at hd
    exact hd
  · intro n hn
    have hne : trimEnd (ns.dropWhile isIdle) ≠ [] := by
      intro he
      rw [he] at hn
      cases hn
    obtain ⟨ms, z, hz, hi⟩ := trimEnd_concat hne
    rw [hz, List.getLast?_concat] at hn
    rwa [← Option.some.inj hn]

end Dropping

/-- The names of a path below a directory, as they are spelled: those that follow the names of the
directory, from the first to the last one that says something. -/
def NamesBelow (base p : String) (ns : List (List Char)) : Prop :=
  ∃ ms es, names p.toList = ms ++ ns ++ es ∧ lead p.toList = lead base.toList ∧
    ms.filter (!isIdle ·) = steps base.toList ∧ Bounded ns ∧ ∀ e ∈ es, isIdle e = true

section Relative

variable {base p : String} {ns : List (List Char)}

lemma components_of_namesBelow (h : NamesBelow base p ns) :
    components p = components base ++ ns.filter (!isIdle ·) := by
  obtain ⟨ms, es, hn, hl, hm, _, he⟩ := h
  have hes : es.filter (!isIdle ·) = [] := by
    apply List.filter_eq_nil_iff.mpr
    intro e hmem
    simp [he e hmem]
  rw [components_eq, components_eq, hl, ← hm, ← steps_names p.toList, hn, List.filter_append,
    List.filter_append, hes, List.append_nil, List.append_assoc]

lemma relativeTo?_of_namesBelow (h : NamesBelow base p ns) (hb : components base ≠ []) :
    relativeTo? base p = some (String.ofList (ofNames ns)) := by
  have hp : (components base).isPrefixOf (components p) = true := by
    rw [components_of_namesBelow h, List.isPrefixOf_iff_prefix]
    exact List.prefix_append _ _
  obtain ⟨ms, es, hn, hl, hm, hns, he⟩ := h
  obtain ⟨k, hk⟩ : ∃ k, (components base).length = k + 1 :=
    Nat.exists_eq_succ_of_ne_zero (mt List.length_eq_zero_iff.mp hb)
  have hcount : (ms.filter (!isIdle ·)).length = if lead p.toList = [] then k + 1 else k := by
    rw [components_eq, List.length_append] at hk
    rw [hm, hl]
    split
    next h0 =>
      rw [if_pos h0, List.length_nil] at hk
      omega
    next h0 =>
      rw [if_neg h0, List.length_singleton] at hk
      omega
  rw [relativeTo?, if_pos hp, hk, dropComponents, hn, List.append_assoc, dropWhile_dropNames hcount,
    hns.dropWhile_append he]

lemma slash_not_mem_of_namesBelow (h : NamesBelow base p ns) : ∀ n ∈ ns, '/' ∉ n := by
  obtain ⟨ms, es, hn, _⟩ := h
  intro n hmem
  have hm : n ∈ names p.toList := by simp [hn, hmem]
  exact not_mem_of_mem_pieces hm

lemma namesBelow_unique {ks : List (List Char)} (hk : NamesBelow base p ks) (hn : NamesBelow base p ns)
    (hne : ns ≠ []) (hb : components base ≠ []) : ks = ns := by
  have heq : ofNames ks = ofNames ns := by
    have hr := (relativeTo?_of_namesBelow hk hb).symm.trans (relativeTo?_of_namesBelow hn hb)
    exact String.ofList_injective (Option.some.inj hr)
  have hns := pieces_ofNames hne (slash_not_mem_of_namesBelow hn)
  rw [← heq] at hns
  by_cases hke : ks = []
  · -- The empty text is that of one empty name, which says nothing.
    subst hke
    obtain ⟨_, _, _, _, _, hbounded, _⟩ := hn
    have hidle := hbounded.1 [] (by rw [← hns]; rfl)
    exact absurd hidle (by decide)
  · rw [pieces_ofNames hke (slash_not_mem_of_namesBelow hk)] at hns
    exact hns

lemma exists_namesBelow (hb : isAbsolute base = true)
    (h : (components base).isPrefixOf (components p) = true) : ∃ ns, NamesBelow base p ns := by
  rw [List.isPrefixOf_iff_prefix, components_of_isAbsolute hb] at h
  obtain ⟨t, ht⟩ := h
  obtain ⟨hp, hs⟩ := isAbsolute_of_components ht.symm
  rw [← steps_names p.toList] at hs
  obtain ⟨ms, rest, hn, hms, _⟩ := List.filter_eq_append_iff.mp hs
  obtain ⟨is, ns, es, rfl, his, hns, hes⟩ := exists_bounded rest
  refine ⟨ns, ms ++ is, es, ?_, ?_, ?_, hns, hes⟩
  · simp only [hn, List.append_assoc]
  · rw [(isAbsolute_iff_lead p).mp hp, (isAbsolute_iff_lead base).mp hb]
  · have hi : is.filter (!isIdle ·) = [] := by
      apply List.filter_eq_nil_iff.mpr
      intro n hmem
      simp [his n hmem]
    rw [List.filter_append, hms, hi, List.append_nil]

lemma relativeTo?_isSome_iff (hb : isAbsolute base = true) {r : String} :
    relativeTo? base p = some r ↔ ∃ ns, NamesBelow base p ns ∧ r = String.ofList (ofNames ns) := by
  have hne : components base ≠ [] := by
    rw [components_of_isAbsolute hb]
    exact List.cons_ne_nil _ _
  constructor
  · intro h
    have hp : (components base).isPrefixOf (components p) = true := by
      by_contra hp
      rw [relativeTo?, if_neg hp] at h
      cases h
    obtain ⟨ns, hns⟩ := exists_namesBelow hb hp
    rw [relativeTo?_of_namesBelow hns hne] at h
    exact ⟨ns, hns, (Option.some.inj h).symm⟩
  · rintro ⟨ns, hns, rfl⟩
    exact relativeTo?_of_namesBelow hns hne

end Relative

section Joining

variable {base : String} {ns : List String}

lemma names_pathBelow (base : String) (hns : ∀ n ∈ ns, IsProper n) (hne : ns ≠ []) :
    ∃ ms, names (pathBelow base ns).toList = ms ++ ns.map String.toList ∧
      lead (pathBelow base ns).toList = lead base.toList ∧
      ms.filter (!isIdle ·) = steps base.toList ∧ (base = "" → ms = []) := by
  induction ns using List.reverseRecOn with
  | nil => exact absurd rfl hne
  | append_singleton ns n ih =>
    have hn : IsProper n := hns n (by simp)
    have hp : pathBelow base (ns ++ [n]) = join (pathBelow base ns) n := List.foldl_concat ..
    rw [hp, List.map_append]
    rcases List.eq_nil_or_concat' ns with rfl | ⟨ks, k, hk⟩
    · exact names_join base hn
    · obtain ⟨ms, hnames, hlead, hms, hb⟩ := ih (fun m hm => hns m (by simp [hm])) (by simp [hk])
      have hend : EndsInName (pathBelow base ns) := by
        refine ⟨ms ++ ks.map String.toList, k.toList, ?_, (hns k (by simp [hk])).notIdle⟩
        rw [hnames, hk, List.map_append, List.append_assoc]
        rfl
      obtain ⟨hl, hnn⟩ := hend.names_join hn.whole
      refine ⟨ms, ?_, hl.trans hlead, hms, hb⟩
      rw [hnn, hnames, List.append_assoc]
      rfl

lemma namesBelow_pathBelow (hns : ∀ n ∈ ns, IsProper n) (hne : ns ≠ []) :
    NamesBelow base (pathBelow base ns) (ns.map String.toList) := by
  obtain ⟨ms, hn, hl, hm, _⟩ := names_pathBelow base hns hne
  refine ⟨ms, [], by rw [hn, List.append_nil], hl, hm, bounded_of_forall ?_, by simp⟩
  intro n hn
  obtain ⟨m, hm, rfl⟩ := List.mem_map.mp hn
  exact (hns m hm).notIdle

lemma filter_map_toList (hns : ∀ n ∈ ns, IsProper n) :
    (ns.map String.toList).filter (!isIdle ·) = ns.map String.toList := by
  apply List.filter_eq_self.mpr
  intro n hn
  obtain ⟨m, hm, rfl⟩ := List.mem_map.mp hn
  rw [(hns m hm).notIdle]
  rfl

lemma components_pathBelow (base : String) (hns : ∀ n ∈ ns, IsProper n) :
    components (pathBelow base ns) = components base ++ ns.map String.toList := by
  by_cases hne : ns = []
  · subst hne
    exact (List.append_nil _).symm
  · rw [components_of_namesBelow (namesBelow_pathBelow hns hne), filter_map_toList hns]

lemma components_eq_nil_iff (p : String) : components p = [] ↔ p = "" := by
  constructor
  · intro h
    rw [components_eq, List.append_eq_nil_iff] at h
    rcases lead_cases p.toList with ⟨r, _, hl⟩ | ⟨_, hl⟩ | ⟨r, _, hl⟩ | ⟨hl, hc⟩
    · rw [hl] at h
      cases h.1
    · rw [hl] at h
      cases h.1
    · rw [hl] at h
      cases h.1
    · exact String.toList_eq_nil_iff.mp (eq_nil_of_steps hl hc h.2)
  · rintro rfl
    rfl

lemma relativeTo?_pathBelow (base : String) (hns : ∀ n ∈ ns, IsProper n) (hne : ns ≠ []) :
    relativeTo? base (pathBelow base ns) = some (String.ofList (ofNames (ns.map String.toList))) := by
  by_cases hb : components base = []
  · obtain rfl := (components_eq_nil_iff base).mp hb
    obtain ⟨ms, hn, hl, _, hm⟩ := names_pathBelow "" hns hne
    obtain rfl := hm rfl
    obtain ⟨ks, k, hk⟩ := (List.eq_nil_or_concat' ns).resolve_left hne
    have htrim : trimEnd (ns.map String.toList) = ns.map String.toList := by
      rw [hk, List.map_append]
      exact trimEnd_of_last (hns k (by simp [hk])).notIdle _
    have hzero : dropComponents (pathBelow "" ns).toList (components "").length =
        ofNames (ns.map String.toList) := by
      change dropComponents _ 0 = _
      rw [dropComponents, hl, hn, List.nil_append, htrim]
      rfl
    rw [relativeTo?, hzero]
    exact if_pos rfl
  · exact relativeTo?_of_namesBelow (namesBelow_pathBelow hns hne) hb

end Joining

end LayoutSync.Path
