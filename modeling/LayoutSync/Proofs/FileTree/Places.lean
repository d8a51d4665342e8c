import LayoutSync.Proofs.FileTree.Children
import LayoutSync.Proofs.Path.Relative

namespace LayoutSync.FileTree

open Path

def Named (t : FileTree) : Prop := ∀ e ∈ t.entries, ∀ n ∈ e.1, IsProper n

instance (t : FileTree) : Decidable t.Named :=
  inferInstanceAs (Decidable (∀ e ∈ t.entries, ∀ n ∈ e.1, IsProper n))

variable {t : FileTree} {p n base : String} {l : Location} {ns : List String} {e : Entry}

lemma mem_entries_of_find? (ht : t.WellFormed) (hne : ns ≠ []) (hf : t.find? (l ++ ns) = some e) :
    (l ++ ns, e) ∈ t.entries := by
  obtain ⟨ms, m, rfl⟩ := (List.eq_nil_or_concat' ns).resolve_left hne
  rwa [← List.append_assoc, find?_concat, Assoc.get?_eq_some_iff ht.nodup, List.append_assoc] at hf

lemma Named.proper_of_find? (h : t.Named) (ht : t.WellFormed) (hf : t.find? (l ++ ns) = some e) :
    ∀ n ∈ ns, IsProper n := by
  intro n hm
  have he := mem_entries_of_find? ht (List.ne_nil_of_mem hm) hf
  exact h _ he n (List.mem_append_right _ hm)

lemma Named.proper (h : t.Named) (ht : t.WellFormed) (he : t.find? (l ++ [n]) = some e) :
    IsProper n :=
  h.proper_of_find? ht he n (List.mem_singleton_self n)

lemma leadsElsewhere_of_proper (h : IsProper n) : leadsElsewhere n = false := by
  have hd : n ≠ "." := by
    rintro rfl
    exact absurd h.notIdle (by decide)
  simp [leadsElsewhere, hd, h.notUp]

lemma mem_stepsOf (h : n ∈ stepsOf p) : n = ".." ∨ IsProper n := by
  obtain ⟨cs, hc, rfl⟩ := List.mem_map.mp h
  obtain ⟨hm, hi⟩ := List.mem_filter.mp hc
  refine or_iff_not_imp_left.mpr fun hu => ⟨?_, hu, ?_⟩
  · simpa using hi
  · rw [String.toList_ofList]
    exact Text.not_mem_of_mem_pieces hm

lemma proper_of_mem_trail (hl : ∀ n ∈ l, IsProper n) (hs : ∀ n ∈ ns, n = ".." ∨ IsProper n) :
    ∀ k ∈ l :: trail l ns, ∀ n ∈ k, IsProper n := by
  induction ns generalizing l with
  | nil => exact List.forall_mem_singleton.mpr hl
  | cons m ns ih =>
    obtain ⟨hm, hs⟩ := List.forall_mem_cons.mp hs
    refine List.forall_mem_cons.mpr ⟨hl, ih (fun n hn => ?_) hs⟩
    unfold descend at hn
    split at hn
    · exact hl n hn
    · split at hn
      · exact hl n (List.dropLast_subset l hn)
      next hu =>
        rcases List.mem_append.mp hn with hn | hn
        · exact hl n hn
        · rw [List.mem_singleton.mp hn]
          exact hm.resolve_left hu

lemma Named.proper_of_mem_trailOf (h : t.Named) (ht : t.WellFormed) (p : String) :
    ∀ k ∈ t.start p :: t.trailOf p, ∀ n ∈ k, IsProper n := by
  refine proper_of_mem_trail (fun n hn => ?_) fun n => mem_stepsOf
  exact h.proper_of_find? ht (l := []) (ht.start p) n hn

section Joining

lemma stepsOf_join (p : String) (hn : IsProper n) : stepsOf (join p n) = stepsOf p ++ [n] := by
  simp [stepsOf, steps_join p hn, String.ofList_toList]

lemma start_join (t : FileTree) (p : String) (hn : IsProper n) : t.start (join p n) = t.start p := by
  rw [start, start, isAbsolute_join p hn]

lemma location_join (p : String) (hn : IsProper n) (t : FileTree) :
    t.location (join p n) = t.location p ++ [n] := by
  rw [location, location, stepsOf_join p hn, List.foldl_concat,
    descend_plain (leadsElsewhere_of_proper hn), start_join t p hn]

lemma filePath_join (hn : IsProper n) (hf : pathFault? (join p n) = none) :
    FilePath (join p n) (stepsOf p) n := by
  obtain ⟨d, hd, hj⟩ := join_around p
  obtain ⟨ks, hk⟩ := pieces_around hd
  have hs : segmentsOf (join p n) = (ks.filter (· ≠ [])).map String.ofList ++ [n] := by
    have hne := ne_nil_of_not_isIdle hn.notIdle
    rw [segmentsOf, segments, hj n hn.whole, hk _ hn.whole, List.filter_append, List.map_append]
    simp [hne, String.ofList_toList]
  have hl : (join p n).toList.getLast? ≠ some '/' := by
    obtain ⟨c, hc, hs⟩ := (endsInName_join p hn).getLast?
    rw [hc]
    exact fun he => hs (Option.some.inj he)
  have hp := filePath_of_concat hf hs (leadsElsewhere_of_proper hn) hl
  obtain ⟨he, _⟩ := List.append_inj' (hp.steps.symm.trans (stepsOf_join p hn)) rfl
  rwa [he] at hp

lemma pathBelow_concat (base : String) (ns : List String) (n : String) :
    pathBelow base (ns ++ [n]) = join (pathBelow base ns) n := List.foldl_concat ..

lemma stepsOf_pathBelow (hns : ∀ n ∈ ns, IsProper n) :
    stepsOf (pathBelow base ns) = stepsOf base ++ ns := by
  induction ns using List.reverseRecOn with
  | nil => exact (List.append_nil _).symm
  | append_singleton ns n ih =>
    obtain ⟨hns, hn⟩ := List.forall_mem_append.mp hns
    rw [pathBelow_concat, stepsOf_join _ (hn n (List.mem_singleton_self n)), ih hns,
      List.append_assoc]

lemma start_pathBelow (t : FileTree) (hns : ∀ n ∈ ns, IsProper n) :
    t.start (pathBelow base ns) = t.start base := by
  induction ns using List.reverseRecOn with
  | nil => rfl
  | append_singleton ns n ih =>
    obtain ⟨hns, hn⟩ := List.forall_mem_append.mp hns
    rw [pathBelow_concat, start_join t _ (hn n (List.mem_singleton_self n)), ih hns]

end Joining

section Below

def reach (base : String) (ns : List String) : Except AccessFault Unit :=
  match pathFault? (pathBelow base ns) with
  | some f => .error f
  | none => forM ns checkName

lemma walk_below (ht : t.WellFormed) (hns : ∀ n ∈ ns, IsProper n)
    (hd : t.find? (l ++ ns) = some .directory) :
    t.walk l ns = (do forM ns checkName; return l ++ ns) := by
  induction ns generalizing l with
  | nil => rw [List.append_nil]; rfl
  | cons n ns ih =>
    obtain ⟨hn, hns⟩ := List.forall_mem_cons.mp hns
    have hc : l ++ n :: ns = l ++ [n] ++ ns := by simp
    rw [hc] at hd
    have hf : t.find? (l ++ [n]) = some .directory := by
      by_cases hne : ns = []
      · rwa [hne, List.append_nil] at hd
      · exact ht.above hne (by rw [hd]; simp)
    rw [walk_cons, enter_plain (leadsElsewhere_of_proper hn), hf, List.forM_cons, hc]
    cases checkName n with
    | error f => rfl
    | ok _ => exact ih hns hd

lemma walk_of_lookup (hl : t.lookup p = .ok (l, .directory)) :
    pathFault? p = none ∧ t.walk (t.start p) (stepsOf p) = .ok l := by
  cases hf : pathFault? p with
  | some f =>
    rw [lookup_of_fault hf] at hl
    cases hl
  | none => exact ⟨rfl, (lookup_directory_iff hf).mp hl⟩

variable (ht : t.WellFormed) (hl : t.lookup base = .ok (l, .directory))

include ht hl

lemma lookup_concat (hns : ∀ n ∈ ns, IsProper n) (hd : t.find? (l ++ ns) = some .directory)
    (hn : IsProper n) : t.lookup (pathBelow base (ns ++ [n])) = (do
      reach base (ns ++ [n])
      match t.find? (l ++ (ns ++ [n])) with
      | none => .error .missing
      | some e => return (l ++ (ns ++ [n]), e)) := by
  obtain ⟨_, hw⟩ := walk_of_lookup hl
  cases hf : pathFault? (pathBelow base (ns ++ [n])) with
  | some f =>
    rw [lookup_of_fault hf, reach, hf]
    rfl
  | none =>
    have hp := filePath_join hn (pathBelow_concat base ns n ▸ hf)
    have hwalk : t.walk (t.start base) (stepsOf base ++ ns) =
        (do forM ns checkName; return l ++ ns) := by
      rw [walk, List.foldlM_append, ← walk, hw]
      exact walk_below ht hns hd
    rw [reach, hf, ← List.append_assoc, pathBelow_concat, hp.lookup, start_join t _ hn,
      start_pathBelow t hns, stepsOf_pathBelow hns, hwalk]
    simp only [List.forM_append, List.forM_cons, List.forM_nil]
    cases forM ns checkName with
    | error f => rfl
    | ok _ => cases checkName n <;> rfl

lemma lookup_pathBelow (hns : ∀ n ∈ ns, IsProper n) (hd : t.find? (l ++ ns) = some .directory) :
    t.lookup (pathBelow base ns) = (do reach base ns; return (l ++ ns, .directory)) := by
  rcases List.eq_nil_or_concat' ns with rfl | ⟨ms, m, rfl⟩
  · have hf : pathFault? (pathBelow base []) = none := (walk_of_lookup hl).1
    rw [List.append_nil, reach, hf]
    exact hl
  · obtain ⟨hms, hm⟩ := List.forall_mem_append.mp hns
    have habove := ht.above (List.cons_ne_nil m []) (by rw [List.append_assoc, hd]; simp)
    rw [lookup_concat ht hl hms habove (hm m (List.mem_singleton_self m)), hd]

end Below

section Listing

lemma list_eq_ok_iff {es : List (String × Entry)} :
    t.list p = .ok es ↔ ∃ l, t.lookup p = .ok (l, .directory) ∧ es = t.children l := by
  unfold list
  cases t.lookup p with
  | error f => simp
  | ok r =>
    obtain ⟨l, e⟩ := r
    cases e <;> simp [pure_eq_ok, eq_comm]

lemma list_of_lookup (h : t.lookup p = .ok (l, .directory)) : t.list p = .ok (t.children l) :=
  list_eq_ok_iff.mpr ⟨l, h, rfl⟩

lemma mem_listed_iff (ht : t.WellFormed) {c : String × Entry} :
    c ∈ t.listed p ↔ ∃ l, t.lookup p = .ok (l, .directory) ∧ t.find? (l ++ [c.1]) = some c.2 := by
  unfold listed
  split
  next es hes =>
    obtain ⟨l, hl, rfl⟩ := list_eq_ok_iff.mp hes
    rw [hl]
    refine (mem_children ht.nodup).trans ⟨fun h => ⟨l, rfl, h⟩, ?_⟩
    rintro ⟨k, hk, h⟩
    cases hk
    exact h
  next f hf =>
    refine ⟨fun h => absurd h List.not_mem_nil, ?_⟩
    rintro ⟨l, hl, _⟩
    rw [list_of_lookup hl] at hf
    cases hf

lemma isFile_iff : t.isFile p = true ↔ ∃ l c, t.lookup p = .ok (l, .file c) := by
  unfold isFile
  cases t.lookup p with
  | error f => simp
  | ok r =>
    obtain ⟨l, e⟩ := r
    cases e <;> simp

end Listing

end LayoutSync.FileTree
