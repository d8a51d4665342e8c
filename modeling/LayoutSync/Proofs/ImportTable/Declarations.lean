import LayoutSync.Proofs.ImportTable.Packages
import LayoutSync.Proofs.Path.Steps

namespace LayoutSync.ImportTable

open FileTree

variable {t : FileTree} {root n : String} {l f p : Location} {ns : List String}
  {ps : List (List String)} {fuel : Nat}

section Walk

variable (ht : t.WellFormed) (h : Readable t root l)

include ht h

lemma mem_filesBelow (hd : t.find? (l ++ ns) = some .directory) (hf : cost t (l ++ ns) ≤ fuel) :
    f ∈ filesBelow t root fuel ns ↔
      (∃ ms, ms ≠ [] ∧ f = ns ++ ms) ∧ ∃ c, t.find? (l ++ f) = some (.file c) := by
  -- The fuel is at least the cost of the directory, and whatever is in it costs less.
  induction fuel generalizing ns with
  | zero =>
    rw [cost] at hf
    omega
  | succ fuel ih =>
    rw [cost] at hf
    rw [filesBelow, h.listed hd, List.mem_flatMap]
    have hdown : ∀ {n}, (n, Entry.directory) ∈ t.children (l ++ ns) →
        t.find? (l ++ (ns ++ [n])) = some .directory ∧ cost t (l ++ (ns ++ [n])) ≤ fuel := by
      intro n hc
      have hcost := cost_le_inside hc
      rw [← List.append_assoc]
      exact ⟨(mem_children ht.nodup).mp hc, by omega⟩
    constructor
    · rintro ⟨⟨n, e⟩, hc, hm⟩
      cases e with
      | file c =>
        obtain rfl := List.mem_singleton.mp hm
        rw [mem_children ht.nodup, List.append_assoc] at hc
        exact ⟨⟨[n], by simp, rfl⟩, c, hc⟩
      | directory =>
        obtain ⟨hdir, hcost⟩ := hdown hc
        obtain ⟨⟨ms, _, rfl⟩, hfile⟩ := (ih hdir hcost).mp hm
        exact ⟨⟨n :: ms, by simp, by simp⟩, hfile⟩
    · rintro ⟨⟨ms, hne, rfl⟩, c, hfile⟩
      obtain ⟨n, ms, rfl⟩ := List.exists_cons_of_ne_nil hne
      cases ms with
      | nil =>
        rw [← List.append_assoc] at hfile
        exact ⟨(n, .file c), (mem_children ht.nodup).mpr hfile, List.mem_singleton_self _⟩
      | cons m ms =>
        have hc : l ++ (ns ++ n :: m :: ms) = l ++ ns ++ [n] ++ m :: ms := by simp
        have habove := ht.above (List.cons_ne_nil m ms) (by rw [← hc, hfile]; simp)
        have hchild := (mem_children ht.nodup).mpr habove
        obtain ⟨hdir, hcost⟩ := hdown hchild
        exact ⟨(n, .directory), hchild, (ih hdir hcost).mpr ⟨⟨m :: ms, by simp, by simp⟩, c, hfile⟩⟩

omit ht h in
lemma start_of_mem_filesBelow (hf : f ∈ filesBelow t root fuel ns) : ns <+: f := by
  induction fuel generalizing ns with
  | zero => cases hf
  | succ fuel ih =>
    rw [filesBelow, List.mem_flatMap] at hf
    obtain ⟨⟨n, e⟩, _, hf⟩ := hf
    cases e with
    | file c =>
      obtain rfl := List.mem_singleton.mp hf
      exact List.prefix_append ns [n]
    | directory => exact (List.prefix_append ns [n]).trans (ih hf)

lemma filesBelow_pairwise (fuel : Nat) (hd : t.find? (l ++ ns) = some .directory) :
    (filesBelow t root fuel ns).Pairwise (· < ·) := by
  induction fuel generalizing ns with
  | zero => exact List.Pairwise.nil
  | succ fuel ih =>
    rw [filesBelow, h.listed hd, List.pairwise_flatMap]
    refine ⟨fun c hc => ?_, (children_lt ht.nodup _).imp fun {a b} hab f hf k hk => ?_⟩
    · obtain ⟨n, e⟩ := c
      cases e with
      | file c => exact List.pairwise_singleton _ _
      | directory =>
        rw [mem_children ht.nodup, List.append_assoc] at hc
        exact ih hc
    -- Files of two entries differ in the names of the entries first.
    · obtain ⟨n, e⟩ := a
      obtain ⟨m, e'⟩ := b
      have hn : ns ++ [n] <+: f := by
        cases e with
        | file c => exact List.mem_singleton.mp hf ▸ List.prefix_refl _
        | directory => exact start_of_mem_filesBelow hf
      have hm : ns ++ [m] <+: k := by
        cases e' with
        | file c => exact List.mem_singleton.mp hk ▸ List.prefix_refl _
        | directory => exact start_of_mem_filesBelow hk
      obtain ⟨fs, rfl⟩ := hn
      obtain ⟨ks, rfl⟩ := hm
      rw [List.append_assoc, List.append_assoc]
      exact List.append_left_lt (List.cons_lt_cons_iff.mpr (.inl hab))

end Walk

section Names

lemma withoutSuffix?_eq_some {s : String} :
    withoutSuffix? s = some n ↔ s = n ++ declarationSuffix := by
  have hl : declarationSuffix.toList.length = declarationSuffix.length := String.length_toList
  unfold withoutSuffix?
  dsimp only
  constructor
  · intro h
    split at h
    next hs =>
      obtain ⟨m, hm⟩ := List.isSuffixOf_iff_suffix.mp hs
      have hn := Option.some.inj h
      rw [← hm, List.length_append, hl, Nat.add_sub_cancel, List.take_left] at hn
      rw [← hn, ← String.toList_inj, String.toList_append, String.toList_ofList, hm]
    · cases h
  · rintro rfl
    rw [String.toList_append, if_pos (List.isSuffixOf_iff_suffix.mpr (List.suffix_append _ _)),
      List.length_append, hl, Nat.add_sub_cancel, List.take_left, String.ofList_toList]

lemma withSlashes_eq_self {s : String} (h : '\\' ∉ s.toList) : withSlashes s = s := by
  have hc : ∀ c ∈ s.toList, (if c = '\\' then '/' else c) = id c := by
    intro c hc
    rw [if_neg]
    · rfl
    · rintro rfl
      exact h hc
  rw [withSlashes, ← String.toList_inj, String.toList_map, List.map_congr_left hc, List.map_id]

lemma mem_ofNames {c : Char} {ns : List (List Char)} (h : c ∈ Path.ofNames ns) :
    c = '/' ∨ ∃ n ∈ ns, c ∈ n := by
  induction ns with
  | nil => cases h
  | cons n ns ih =>
    cases ns with
    | nil =>
      rw [Path.ofNames, List.intercalate_singleton] at h
      exact .inr ⟨n, List.mem_cons_self, h⟩
    | cons m ns =>
      rw [Path.ofNames_cons n (List.cons_ne_nil m ns), List.mem_append, List.mem_cons] at h
      rcases h with h | h | h
      · exact .inr ⟨n, List.mem_cons_self, h⟩
      · exact .inl h
      · rcases ih h with h | ⟨k, hk, hc⟩
        · exact .inl h
        · exact .inr ⟨k, List.mem_cons_of_mem _ hk, hc⟩

lemma toList_intercalate (ns : List String) :
    ("/".intercalate ns).toList = Path.ofNames (ns.map String.toList) := String.toList_intercalate

lemma intercalate_concat (ns : List String) (n s : String) :
    "/".intercalate (ns ++ [n ++ s]) = "/".intercalate (ns ++ [n]) ++ s := by
  rw [← String.toList_inj, String.toList_append, toList_intercalate, toList_intercalate,
    List.map_append, List.map_append, List.map_singleton, List.map_singleton, Path.ofNames_concat,
    Path.ofNames_concat _ n.toList, String.toList_append, List.append_assoc]

def declared? (f : Location) : Option (String × Location) := do
  let name ← withoutSuffix? (← f.getLast?)
  return (name, f)

def moduleOf (l : Location) (a : String × Location) : String :=
  "/".intercalate ((a.2.drop l.length).dropLast ++ [a.1])

lemma declared?_eq_some {a : String × Location} :
    declared? f = some a ↔ a.2 = f ∧ f.getLast? = some (a.1 ++ declarationSuffix) := by
  unfold declared?
  obtain ⟨n, k⟩ := a
  constructor
  · intro h
    obtain ⟨s, hs, h⟩ := Option.bind_eq_some_iff.mp h
    obtain ⟨m, hm, h⟩ := Option.bind_eq_some_iff.mp h
    obtain ⟨rfl, rfl⟩ := Prod.mk.inj (Option.some.inj h)
    exact ⟨rfl, by rw [hs, withoutSuffix?_eq_some.mp hm]⟩
  · rintro ⟨rfl, hs⟩
    dsimp only at hs ⊢
    rw [hs]
    simp [withoutSuffix?_eq_some.mpr]

lemma declaration?_eq (l : Location) (hne : ns ≠ []) (hb : ∀ n ∈ ns, '\\' ∉ n.toList) :
    declaration? ns = (declared? (l ++ ns)).map fun a => (a.1, moduleOf l a) := by
  obtain ⟨ms, s, rfl⟩ := (List.eq_nil_or_concat' ns).resolve_left hne
  have hlast : (l ++ (ms ++ [s])).getLast? = some s := by
    rw [← List.append_assoc, List.getLast?_concat]
  have hdrop : (l ++ (ms ++ [s])).drop l.length = ms ++ [s] := List.drop_left
  unfold declaration? declared?
  rw [hlast, List.getLast?_concat]
  cases hn : withoutSuffix? s with
  | none => simp [hn]
  | some n =>
    obtain rfl := withoutSuffix?_eq_some.mp hn
    -- No name has a backslash, so that nothing is divided anew when backslashes become slashes.
    have hslash : withSlashes ("/".intercalate (ms ++ [n ++ declarationSuffix])) =
        "/".intercalate (ms ++ [n]) ++ declarationSuffix := by
      rw [withSlashes_eq_self, intercalate_concat]
      intro hc
      rw [toList_intercalate] at hc
      rcases mem_ofNames hc with hc | ⟨k, hk, hc⟩
      · exact absurd hc (by decide)
      · obtain ⟨m, hm, rfl⟩ := List.mem_map.mp hk
        exact hb m hm hc
    simp [hn, hslash, withoutSuffix?_eq_some.mpr, moduleOf, hdrop]

end Names

section Candidates

/-- A file that declares a type: it is called after the type, and there is a package around it. -/
structure Declares (t : FileTree) (l : Location) (n : String) (f : Location) : Prop where
  file : ∃ c, t.find? f = some (.file c)
  name : f.getLast? = some (n ++ declarationSuffix)
  package : ∃ p, l <+: p ∧ p <+: f.dropLast ∧ HasManifest t p

/-- The file's outermost package is nearer to the root, or as near and its path is smaller; in one
package the file with the smaller path comes first, as in a walk that goes by names. -/
def Precedes (t : FileTree) (l f k : Location) : Prop :=
  ∃ p q, Outermost t l p ∧ p <+: f.dropLast ∧ Outermost t l q ∧ q <+: k.dropLast ∧
    (Before p q ∨ p = q ∧ f < k)

lemma exists_outermost (hl : l <+: p) (hp : HasManifest t p) :
    ∃ q, Outermost t l q ∧ q <+: p := by
  induction hn : p.length using Nat.strong_induction_on generalizing p with
  | _ k ih =>
    by_cases h : ∀ q, l <+: q → q <+: p → HasManifest t q → q = p
    · exact ⟨p, ⟨hl, hp, h⟩, List.prefix_refl p⟩
    · simp only [not_forall] at h
      obtain ⟨q, hlq, hqp, hq, hne⟩ := h
      have hlt : q.length ≠ p.length := fun he => hne (hqp.eq_of_length he)
      have hle := hqp.length_le
      obtain ⟨r, hr, hrq⟩ := ih q.length (by omega) hlq hq rfl
      exact ⟨r, hr, hrq.trans hqp⟩

lemma Outermost.unique {q r : Location} (hp : Outermost t l p) (hq : Outermost t l q)
    (hpr : p <+: r) (hqr : q <+: r) : p = q := by
  rcases List.prefix_or_prefix_of_prefix hpr hqr with h | h
  · exact hq.outer p hp.start h hp.package
  · exact (hp.outer q hq.start h hq.package).symm

lemma Precedes.asymm {k : Location} (h : Precedes t l f k) : ¬ Precedes t l k f := by
  rintro ⟨q', p', hq', hqk', hp', hpf', h'⟩
  obtain ⟨p, q, hp, hpf, hq, hqk, h⟩ := h
  obtain rfl := hp.unique hp' hpf hpf'
  obtain rfl := hq.unique hq' hqk hqk'
  rcases h with h | ⟨rfl, h⟩
  · rcases h' with h' | ⟨rfl, _⟩
    · exact Before.irrefl _ (h.trans h')
    · exact Before.irrefl _ h
  · rcases h' with h' | ⟨_, h'⟩
    · exact Before.irrefl _ h'
    · exact lt_irrefl _ (h.trans h')

lemma inside_iff (hf : f ≠ []) : (∃ ns, ns ≠ [] ∧ f = p ++ ns) ↔ p <+: f.dropLast := by
  constructor
  · rintro ⟨ns, hne, rfl⟩
    rw [List.dropLast_append_of_ne_nil hne]
    exact List.prefix_append _ _
  · rintro ⟨ms, hm⟩
    refine ⟨ms ++ [f.getLast hf], by simp, ?_⟩
    rw [← List.append_assoc, hm, List.dropLast_append_getLast hf]

structure Searched (t : FileTree) (root : String) (l : Location) (ps : List (List String)) : Prop where
  wellFormed : t.WellFormed
  top : t.find? l = some .directory
  readable : Readable t root l
  packages : packages t root (t.entries.length + 1) [[]] = .ok ps

def packaged (t : FileTree) (root : String) (l : Location) (ps : List (List String)) : List Location :=
  (ps.flatMap (filesBelow t root (t.entries.length + 1))).map (l ++ ·)

namespace Searched

variable (h : Searched t root l ps)

include h

lemma located : Located t root l := h.readable.located h.wellFormed h.top

lemma mem_packages : p ∈ ps ↔ Outermost t l (l ++ p) := by
  rw [ImportTable.mem_packages h.wellFormed h.readable (enough_root h.top) h.packages]
  simp

lemma directory (hp : p ∈ ps) : t.find? (l ++ p) = some .directory :=
  directory_of_packages h.located (enough_root h.top).1 h.packages p hp

lemma mem_filesBelow (hp : p ∈ ps) : f ∈ filesBelow t root (t.entries.length + 1) p ↔
    (∃ ms, ms ≠ [] ∧ f = p ++ ms) ∧ ∃ c, t.find? (l ++ f) = some (.file c) :=
  ImportTable.mem_filesBelow h.wellFormed h.readable (h.directory hp) (cost_le t _)

end Searched

lemma mem_packaged (h : Searched t root l ps) : f ∈ packaged t root l ps ↔
    ∃ p, Outermost t l p ∧ (∃ ns, ns ≠ [] ∧ f = p ++ ns) ∧ ∃ c, t.find? f = some (.file c) := by
  simp only [packaged, List.mem_map, List.mem_flatMap]
  constructor
  · rintro ⟨k, ⟨p, hp, hk⟩, rfl⟩
    obtain ⟨⟨ns, hne, rfl⟩, hfile⟩ := (h.mem_filesBelow hp).mp hk
    exact ⟨l ++ p, h.mem_packages.mp hp, ⟨ns, hne, by simp⟩, hfile⟩
  · rintro ⟨k, hp, ⟨ns, hne, rfl⟩, hfile⟩
    obtain ⟨p, rfl⟩ := hp.start
    have hm := h.mem_packages.mpr hp
    have hc : l ++ p ++ ns = l ++ (p ++ ns) := List.append_assoc l p ns
    rw [hc] at hfile
    exact ⟨p ++ ns, ⟨p, hm, (h.mem_filesBelow hm).mpr ⟨⟨ns, hne, rfl⟩, hfile⟩⟩, hc.symm⟩

lemma ne_nil_of_getLast? {s : String} (h : f.getLast? = some s) : f ≠ [] := by
  rintro rfl
  cases h

def candidates (t : FileTree) (root : String) (l : Location) (ps : List (List String)) :
    List (String × Location) :=
  (packaged t root l ps).filterMap declared?

lemma mem_candidates (h : Searched t root l ps) :
    (n, f) ∈ candidates t root l ps ↔ Declares t l n f := by
  simp only [candidates, List.mem_filterMap, declared?_eq_some, mem_packaged h]
  constructor
  · rintro ⟨_, ⟨p, hp, hin, hfile⟩, rfl, hlast⟩
    exact ⟨hfile, hlast, p, hp.start, (inside_iff (ne_nil_of_getLast? hlast)).mp hin, hp.package⟩
  · rintro ⟨hfile, hlast, p, hlp, hpf, hp⟩
    obtain ⟨q, hq, hqp⟩ := exists_outermost hlp hp
    have hin := (inside_iff (ne_nil_of_getLast? hlast)).mpr (hqp.trans hpf)
    exact ⟨f, ⟨q, hq, hin, hfile⟩, rfl, hlast⟩

lemma packaged_pairwise (h : Searched t root l ps) :
    (packaged t root l ps).Pairwise (Precedes t l) := by
  have hin : ∀ p ∈ ps, ∀ f ∈ filesBelow t root (t.entries.length + 1) p,
      Outermost t l (l ++ p) ∧ l ++ p <+: (l ++ f).dropLast := by
    intro p hp f hf
    obtain ⟨⟨ns, hne, rfl⟩, _⟩ := (h.mem_filesBelow hp).mp hf
    refine ⟨h.mem_packages.mp hp, (inside_iff (by simp [hne])).mp ⟨ns, hne, ?_⟩⟩
    rw [List.append_assoc]
  refine List.pairwise_map.mpr (List.pairwise_flatMap.mpr ⟨fun p hp => ?_, ?_⟩)
  · have hsorted := filesBelow_pairwise h.wellFormed h.readable (t.entries.length + 1) (h.directory hp)
    refine hsorted.imp_of_mem fun {f k} hf hk hlt => ?_
    obtain ⟨hp', hpf⟩ := hin p hp f hf
    exact ⟨l ++ p, l ++ p, hp', hpf, hp', (hin p hp k hk).2, .inr ⟨rfl, List.append_left_lt hlt⟩⟩
  · have hordered := packages_pairwise h.located (enough_root h.top).1 (ordered_singleton []) h.packages
    refine hordered.1.imp_of_mem fun {p q} hp hq hpq f hf k hk => ?_
    obtain ⟨hp', hpf⟩ := hin p hp f hf
    obtain ⟨hq', hqk⟩ := hin q hq k hk
    exact ⟨l ++ p, l ++ q, hp', hpf, hq', hqk, .inl (hpq.append_left l)⟩

lemma candidates_pairwise (h : Searched t root l ps) :
    (candidates t root l ps).Pairwise fun a b => Precedes t l a.2 b.2 := by
  refine List.Pairwise.filterMap _ (fun f k hfk a ha b hb => ?_) (packaged_pairwise h)
  rw [(declared?_eq_some.mp ha).1, (declared?_eq_some.mp hb).1]
  exact hfk

lemma declarations_eq (h : Searched t root l ps)
    (hb : ∀ ns, t.find? (l ++ ns) ≠ none → ∀ n ∈ ns, '\\' ∉ n.toList) :
    declarations t root = .ok ((candidates t root l ps).map fun a => (a.1, moduleOf l a)) := by
  have hd : declarations t root =
      .ok ((ps.flatMap (filesBelow t root (t.entries.length + 1))).filterMap declaration?) := by
    rw [declarations, h.packages, List.filterMap_flatMap]
    rfl
  rw [hd, candidates, packaged, List.filterMap_map, List.map_filterMap]
  refine congrArg Except.ok (List.filterMap_congr fun f hf => ?_)
  obtain ⟨p, hp, hf⟩ := List.mem_flatMap.mp hf
  obtain ⟨⟨ns, hne, rfl⟩, c, hc⟩ := (h.mem_filesBelow hp).mp hf
  exact declaration?_eq l (by simp [hne]) (hb _ (by rw [hc]; simp))

end Candidates

end LayoutSync.ImportTable
