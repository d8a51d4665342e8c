import LayoutSync.Proofs.ImportTable.Repository
import Mathlib.Data.List.Lex

/-!
Which packages the search of a repository finds, and in which order. The queue holds directories
of at most two depths, nearer ones first and those of one depth by their paths.
-/

namespace LayoutSync.ImportTable

open FileTree Path

variable {t : FileTree} {root : String} {l p q : Location} {ns : List String} {fuel : Nat}
  {queue ps : List (List String)}

def Before (p q : Location) : Prop := p.length < q.length ∨ p.length = q.length ∧ p < q

lemma append_lt_of_length {p q : Location} (h : p.length = q.length) (hlt : p < q)
    (ms ns : Location) : p ++ ms < q ++ ns := by
  induction p generalizing q with
  | nil =>
    obtain rfl := List.length_eq_zero_iff.mp h.symm
    exact absurd hlt (lt_irrefl _)
  | cons a p ih =>
    cases q with
    | nil => cases h
    | cons b q =>
      rw [List.cons_append, List.cons_append, List.cons_lt_cons_iff]
      rcases List.cons_lt_cons_iff.mp hlt with hab | ⟨rfl, hpq⟩
      · exact .inl hab
      · exact .inr ⟨rfl, ih (Nat.succ.inj h) hpq⟩

namespace Before

lemma trans {r : Location} (h : Before p q) (h' : Before q r) : Before p r := by
  rcases h with h | ⟨h, hlt⟩
  · rcases h' with h' | ⟨h', _⟩
    · exact .inl (h.trans h')
    · exact .inl (h' ▸ h)
  · rcases h' with h' | ⟨h', hlt'⟩
    · exact .inl (h ▸ h')
    · exact .inr ⟨h.trans h', hlt.trans hlt'⟩

lemma irrefl (p : Location) : ¬ Before p p := by
  rintro (h | ⟨_, h⟩)
  · exact lt_irrefl _ h
  · exact lt_irrefl _ h

lemma below (n : String) : Before p (p ++ [n]) := .inl (by simp)

lemma concat (h : Before p q) (m n : String) : Before (p ++ [m]) (q ++ [n]) := by
  rcases h with h | ⟨h, hlt⟩
  · exact .inl (by simpa using h)
  · exact .inr ⟨by simp [h], append_lt_of_length h hlt [m] [n]⟩

lemma of_start {r : Location} (h : Before p q) (hr : q <+: r) : Before p r := by
  rcases eq_or_ne q r with rfl | hne
  · exact h
  · have hl := hr.length_le
    have hlt : q.length ≠ r.length := fun he => hne (hr.eq_of_length he)
    left
    rcases h with h | ⟨h, _⟩ <;> omega

end Before

structure Ordered (queue : List Location) : Prop where
  pairwise : queue.Pairwise Before
  inner : ∀ p ∈ queue, ∀ q ∈ queue, ∀ n, Before q (p ++ [n])

lemma ordered_singleton (l : Location) : Ordered [l] := by
  refine ⟨List.pairwise_singleton _ _, fun p hp q hq n => ?_⟩
  rw [List.mem_singleton.mp hp, List.mem_singleton.mp hq]
  exact .below n

lemma Before.append_left (h : Before p q) (l : Location) : Before (l ++ p) (l ++ q) := by
  rcases h with h | ⟨h, hlt⟩
  · exact .inl (by simpa using h)
  · exact .inr ⟨by simpa using h, List.append_left_lt hlt⟩

lemma directoriesIn_pairwise (h : (Assoc.keys t.entries).Nodup) (ns : List String) (l : Location) :
    (directoriesIn ns (t.children l)).Pairwise Before := by
  refine List.Pairwise.filterMap _ (fun a b hab c hc d hd => ?_) (children_lt h l)
  dsimp only at hc hd
  split at hc
  · split at hd
    · obtain rfl := Option.some.inj hc
      obtain rfl := Option.some.inj hd
      refine .inr ⟨by simp, List.append_left_lt ?_⟩
      exact List.cons_lt_cons_iff.mpr (.inl hab)
    · cases hd
  · cases hc

lemma Ordered.next (h : (Assoc.keys t.entries).Nodup) (ho : Ordered (ns :: queue)) (l : Location) :
    Ordered (queue ++ directoriesIn ns (t.children l)) := by
  obtain ⟨hfirst, hrest⟩ := List.pairwise_cons.mp ho.pairwise
  have hold : ∀ q ∈ queue, ∀ p ∈ ns :: queue, ∀ n, Before q (p ++ [n]) := fun q hq p hp n =>
    ho.inner p hp q (List.mem_cons_of_mem _ hq) n
  -- What is new stands behind the rest of the queue, and in the order of the names.
  refine ⟨List.pairwise_append.mpr ⟨hrest, directoriesIn_pairwise h ns l, fun q hq c hc => ?_⟩, ?_⟩
  · obtain ⟨n, rfl, _⟩ := mem_directoriesIn.mp hc
    exact hold q hq ns List.mem_cons_self n
  · intro p hp q hq n
    rcases List.mem_append.mp hp with hp | hp
    · rcases List.mem_append.mp hq with hq | hq
      · exact hold q hq p (List.mem_cons_of_mem _ hp) n
      · obtain ⟨m, rfl, _⟩ := mem_directoriesIn.mp hq
        exact (hfirst p hp).concat m n
    · obtain ⟨m, rfl, _⟩ := mem_directoriesIn.mp hp
      rcases List.mem_append.mp hq with hq | hq
      · exact (hold q hq ns List.mem_cons_self m).trans (.below n)
      · obtain ⟨k, rfl, _⟩ := mem_directoriesIn.mp hq
        exact .inl (by simp)

/-- Every directory of a repository can be listed by its path, and every manifest is found. -/
structure Readable (t : FileTree) (root : String) (l : Location) : Prop where
  directory : ∀ ns, t.find? (l ++ ns) = some .directory →
    t.lookup (pathBelow root ns) = .ok (l ++ ns, .directory)
  manifest : ∀ ns c, t.find? (l ++ ns ++ [manifest]) = some (.file c) →
    t.isFile (join (pathBelow root ns) manifest) = true

namespace Readable

lemma list (h : Readable t root l) (hd : t.find? (l ++ ns) = some .directory) :
    t.list (pathBelow root ns) = .ok (t.children (l ++ ns)) :=
  list_of_lookup (h.directory ns hd)

lemma listed (h : Readable t root l) (hd : t.find? (l ++ ns) = some .directory) :
    t.listed (pathBelow root ns) = t.children (l ++ ns) := by
  rw [FileTree.listed, h.list hd]

lemma located (h : Readable t root l) (ht : t.WellFormed) (hl : t.find? l = some .directory) :
    Located t root l := by
  refine ⟨ht, hl, fun ns es hd he => ?_⟩
  rw [h.list hd] at he
  exact (Except.ok.inj he).symm

lemma subdirectories (h : Readable t root l) (hd : t.find? (l ++ ns) = some .directory) :
    subdirectories t root ns = .ok (directoriesIn ns (t.children (l ++ ns))) := by
  rw [ImportTable.subdirectories, h.list hd]

end Readable

lemma readable_of_entries (ht : t.WellFormed) (hn : t.Named) (hl : t.lookup root = .ok (l, .directory))
    (h : ∀ e ∈ t.entries, l.isPrefixOf e.1 = true →
      (if e.2 = .directory then t.isDirectory (pathBelow root (e.1.drop l.length))
        else t.isFile (pathBelow root (e.1.drop l.length))) = true) : Readable t root l := by
  have hfound : ∀ ns e, ns ≠ [] → t.find? (l ++ ns) = some e →
      (if e = .directory then t.isDirectory (pathBelow root ns) else t.isFile (pathBelow root ns)) =
        true := by
    intro ns e hne he
    have hm := h _ (mem_entries_of_find? ht hne he) (List.isPrefixOf_iff_prefix.mpr ⟨ns, rfl⟩)
    rwa [List.drop_left] at hm
  constructor
  · intro ns hd
    by_cases hne : ns = []
    · rw [hne, List.append_nil]
      exact hl
    · obtain ⟨k, hk⟩ := isDirectory_iff_lookup.mp (hfound ns _ hne hd)
      have hw := lookup_pathBelow ht hl (hn.proper_of_find? ht hd) hd
      rw [hk] at hw
      obtain ⟨_, _, he⟩ := bind_eq_ok.mp hw.symm
      rw [hk, Except.ok.inj he]
  · intro ns c hf
    rw [List.append_assoc] at hf
    rw [← pathBelow_concat]
    exact hfound _ _ (by simp) hf

def HasManifest (t : FileTree) (l : Location) : Prop := ∃ c, t.find? (l ++ [manifest]) = some (.file c)

lemma isPackage_iff (ht : t.WellFormed) (h : Readable t root l)
    (hd : t.find? (l ++ ns) = some .directory) :
    isPackage t root ns = true ↔ HasManifest t (l ++ ns) := by
  refine ⟨fun hp => ?_, fun ⟨c, hc⟩ => h.manifest ns c hc⟩
  obtain ⟨k, c, hk⟩ := isFile_iff.mp hp
  obtain ⟨_, rfl, hf⟩ := file_of_lookup hk
  rw [location_join _ (by decide), ← (lookup_directory ht (h.directory ns hd)).1] at hf
  exact ⟨c, hf⟩

/-- A package at or below a directory that is in no other such package. -/
structure Outermost (t : FileTree) (l p : Location) : Prop where
  start : l <+: p
  package : HasManifest t p
  outer : ∀ q, l <+: q → q <+: p → HasManifest t q → q = p

lemma outermost_self (h : HasManifest t l) : Outermost t l p ↔ p = l := by
  constructor
  · exact fun hp => (hp.outer l (List.prefix_refl l) hp.start h).symm
  · rintro rfl
    exact ⟨List.prefix_refl _, h, fun q hq hq' _ => hq'.eq_of_length_le hq.length_le⟩

lemma outermost_inside (ht : t.WellFormed) (h : ¬ HasManifest t l) :
    Outermost t l p ↔ ∃ c ∈ directoriesIn l (t.children l), Outermost t c p := by
  constructor
  · intro hp
    obtain ⟨ns, rfl⟩ := hp.start
    cases ns with
    | nil =>
      rw [List.append_nil] at hp
      exact absurd hp.package h
    | cons n ns =>
      have hc : l ++ n :: ns = l ++ [n] ++ ns := by simp
      obtain ⟨c, hm⟩ := hp.package
      rw [hc, List.append_assoc] at hm
      have hne : ns ++ [manifest] ≠ [] := by simp
      have hd := ht.above hne (by rw [hm]; simp)
      refine ⟨l ++ [n], mem_directoriesIn.mpr ⟨n, rfl, (mem_children ht.nodup).mpr hd⟩,
        hc ▸ List.prefix_append _ _, hp.package,
        fun q hq => hp.outer q ((List.prefix_append l [n]).trans hq)⟩
  · rintro ⟨c, hc, hp⟩
    obtain ⟨n, rfl, _⟩ := mem_directoriesIn.mp hc
    refine ⟨(List.prefix_append l [n]).trans hp.start, hp.package, fun q hq hqp hpk => ?_⟩
    refine hp.outer q ?_ hqp hpk
    -- Two starts of one location are starts of one another, and the shorter one is no package.
    rcases List.prefix_or_prefix_of_prefix hp.start hqp with hs | hs
    · exact hs
    · have hne : q ≠ l := fun he => h (he ▸ hpk)
      have hlen : q.length ≠ l.length := fun he => hne (hq.eq_of_length he.symm).symm
      have h1 := hq.length_le
      have h2 := hs.length_le
      rw [List.length_append, List.length_singleton] at h2
      have he : q = l ++ [n] := hs.eq_of_length (by rw [List.length_append, List.length_singleton]; omega)
      exact he ▸ List.prefix_refl q

lemma exists_packages (ht : t.WellFormed) (h : Readable t root l)
    (hq : ∀ ns ∈ queue, t.find? (l ++ ns) = some .directory) :
    ∃ ps, packages t root fuel queue = .ok ps := by
  induction fuel generalizing queue with
  | zero => exact ⟨[], rfl⟩
  | succ fuel ih =>
    cases queue with
    | nil => exact ⟨[], rfl⟩
    | cons ns queue =>
      obtain ⟨hns, hq⟩ := List.forall_mem_cons.mp hq
      by_cases hp : isPackage t root ns = true
      · obtain ⟨rest, hr⟩ := ih hq
        exact ⟨ns :: rest, packages_cons_eq_ok_iff.mpr (.inl ⟨hp, rest, hr, rfl⟩)⟩
      · obtain ⟨ps, hr⟩ := ih (List.forall_mem_append.mpr ⟨hq, fun c => directory_of_mem ht⟩)
        exact ⟨ps, packages_cons_eq_ok_iff.mpr (.inr ⟨hp, _, h.subdirectories hns, hr⟩)⟩

lemma mem_packages (ht : t.WellFormed) (h : Readable t root l) (he : Enough t l fuel queue)
    (hp : packages t root fuel queue = .ok ps) :
    p ∈ ps ↔ ∃ q ∈ queue, Outermost t (l ++ q) (l ++ p) := by
  induction fuel generalizing queue ps with
  | zero =>
    cases queue with
    | nil =>
      obtain rfl := Except.ok.inj hp
      simp
    | cons ns queue => exact absurd he not_enough_zero
  | succ fuel ih =>
    cases queue with
    | nil =>
      obtain rfl := Except.ok.inj hp
      simp
    | cons ns queue =>
      have hd := he.1 ns List.mem_cons_self
      rw [List.exists_mem_cons_iff]
      rcases packages_cons_eq_ok_iff.mp hp with ⟨hk, rest, hr, rfl⟩ | ⟨hk, cs, hs, hr⟩
      · rw [isPackage_iff ht h hd] at hk
        rw [List.mem_cons, ih he.tail hr, outermost_self hk, List.append_cancel_left_eq]
      · rw [isPackage_iff ht h hd] at hk
        rw [h.subdirectories hd] at hs
        obtain rfl := Except.ok.inj hs
        have hmap : (∃ c ∈ directoriesIn (l ++ ns) (t.children (l ++ ns)), Outermost t c (l ++ p)) ↔
            ∃ c ∈ directoriesIn ns (t.children (l ++ ns)), Outermost t (l ++ c) (l ++ p) := by
          simp only [← map_directoriesIn, List.mem_map, exists_exists_and_eq_and]
        rw [ih (he.next ht) hr, outermost_inside ht hk, hmap]
        simp only [List.mem_append, or_and_right, exists_or]
        exact or_comm

lemma packages_pairwise (h : Located t root l)
    (hq : ∀ ns ∈ queue, t.find? (l ++ ns) = some .directory) (ho : Ordered queue)
    (hp : packages t root fuel queue = .ok ps) :
    ps.Pairwise Before ∧ ∀ p ∈ ps, ∃ q ∈ queue, q <+: p := by
  -- Besides the order, what is found stays below the queue: this carries the order over to later
  -- packages.
  induction fuel generalizing queue ps with
  | zero =>
    obtain rfl := Except.ok.inj hp
    simp
  | succ fuel ih =>
    cases queue with
    | nil =>
      obtain rfl := Except.ok.inj hp
      simp
    | cons ns queue =>
      obtain ⟨hns, hq⟩ := List.forall_mem_cons.mp hq
      rcases packages_cons_eq_ok_iff.mp hp with ⟨_, rest, hr, rfl⟩ | ⟨_, cs, hs, hr⟩
      · obtain ⟨hfirst, hrest⟩ := List.pairwise_cons.mp ho.pairwise
        obtain ⟨h1, h2⟩ := ih hq ⟨hrest, fun p hp q hq =>
          ho.inner p (List.mem_cons_of_mem _ hp) q (List.mem_cons_of_mem _ hq)⟩ hr
        refine ⟨List.pairwise_cons.mpr ⟨fun p hp => ?_, h1⟩, fun p hp => ?_⟩
        · obtain ⟨q, hq, hqp⟩ := h2 p hp
          exact (hfirst q hq).of_start hqp
        · rcases List.mem_cons.mp hp with rfl | hp
          · exact ⟨p, List.mem_cons_self, List.prefix_refl p⟩
          · obtain ⟨q, hq, hqp⟩ := h2 p hp
            exact ⟨q, List.mem_cons_of_mem _ hq, hqp⟩
      · obtain rfl := h.subdirectories hns hs
        obtain ⟨h1, h2⟩ := ih (List.forall_mem_append.mpr
          ⟨hq, fun c => directory_of_mem h.wellFormed⟩) (ho.next h.wellFormed.nodup _) hr
        refine ⟨h1, fun p hp => ?_⟩
        obtain ⟨q, hq, hqp⟩ := h2 p hp
        rcases List.mem_append.mp hq with hq | hq
        · exact ⟨q, List.mem_cons_of_mem _ hq, hqp⟩
        · obtain ⟨n, rfl, _⟩ := mem_directoriesIn.mp hq
          exact ⟨ns, List.mem_cons_self, (List.prefix_append ns [n]).trans hqp⟩

end LayoutSync.ImportTable
