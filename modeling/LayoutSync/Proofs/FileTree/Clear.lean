import LayoutSync.Proofs.FileTree.WellFormed

/-!
Paths of files that are missing. When nothing stands in the way to such a file its directories can be
made, and the file is missing still. What can be read and written by a path depends on the path's
trail only.
-/

namespace LayoutSync.FileTree

/-- Nothing is where a path leads, and only directories are on the way; the names are not too long. -/
structure Clear (t : FileTree) (p : String) : Prop where
  way : ∀ l ∈ t.wayTo p, t.find? l = none ∨ t.find? l = some .directory
  names : ∀ n ∈ stepsOf p, checkName n = .ok ()
  free : t.find? (t.location p) = none

instance (t : FileTree) (p : String) : Decidable (t.Clear p) :=
  decidable_of_iff ((∀ l ∈ t.wayTo p, t.find? l = none ∨ t.find? l = some .directory) ∧
      (∀ n ∈ stepsOf p, checkName n = .ok ()) ∧ t.find? (t.location p) = none)
    ⟨fun ⟨h1, h2, h3⟩ => ⟨h1, h2, h3⟩, fun h => ⟨h.way, h.names, h.free⟩⟩

/-- The trees are the same along a path, but for directories that came on the way. -/
structure Near (p : String) (t s : FileTree) : Prop where
  keeps : Keeps (t.trailOf p) t s
  same : s.find? (t.location p) = t.find? (t.location p)

variable {t s u : FileTree} {p q n : String} {l : Location} {ns : List String} {c : ByteArray}

section Trail

lemma trail_mono {ms : List String} (h : ms <+: ns) (hl : l ∈ trail (t.start p) ms) :
    l ∈ trail (t.start p) ns := by
  obtain ⟨rest, rfl⟩ := h
  rw [trail_append]
  exact List.mem_append_left _ hl

end Trail

section Congruence

lemma enter_congr (h : s.find? (descend l n) = t.find? (descend l n)) :
    s.enter l n = t.enter l n := by
  cases hn : leadsElsewhere n with
  | true => rw [enter_elsewhere hn, enter_elsewhere hn]
  | false =>
    rw [descend_plain hn] at h
    rw [enter_plain hn, enter_plain hn, h]

lemma walk_congr (h : ∀ k ∈ trail l ns, s.find? k = t.find? k) : s.walk l ns = t.walk l ns := by
  induction ns generalizing l with
  | nil => rfl
  | cons n ns ih =>
    rw [walk_cons, walk_cons, enter_congr (h _ List.mem_cons_self)]
    cases he : t.enter l n with
    | error f => rfl
    | ok m =>
      obtain rfl := descend_of_enter he
      exact ih fun k hk => h k (List.mem_cons_of_mem _ hk)

lemma target?_congr (hc : s.current = t.current) (h : ∀ k ∈ t.trailOf p, s.find? k = t.find? k) :
    s.target? p = t.target? p := by
  rw [target?_eq, target?_eq, start_congr hc]
  split
  · rfl
  · split
    · rfl
    · have hp : (segmentsOf p).dropLast.filter (· ≠ ".") <+: stepsOf p := by
        rw [stepsOf_eq_filter]
        exact (List.dropLast_prefix _).filter _
      have hw := walk_congr fun k hk => h k (trail_mono hp hk)
      rw [walk_filter, walk_filter] at hw
      rw [hw]

lemma target?_location {g : Target} (h : t.target? p = .ok (some g))
    (hg : leadsElsewhere g.name = false) :
    g.directory ++ [g.name] = t.location p ∧ t.location p ∈ t.trailOf p := by
  rw [target?_eq] at h
  split at h
  · cases h
  · rcases List.eq_nil_or_concat' (segmentsOf p) with hs | ⟨ns, n, hs⟩
    · rw [hs] at h
      cases h
    · rw [hs, List.getLast?_concat, List.dropLast_concat] at h
      dsimp only at h
      obtain ⟨d, hw, h⟩ := bind_eq_ok.mp h
      obtain rfl := Option.some.inj (Except.ok.inj h)
      dsimp only at hg ⊢
      have hn : n ≠ "." := by
        rintro rfl
        cases hg
      have hst : stepsOf p = ns.filter (· ≠ ".") ++ [n] := by
        rw [stepsOf_eq_filter, hs, List.filter_append]
        simp [hn]
      rw [← walk_filter] at hw
      have hl : t.location p = d ++ [n] := by
        rw [location, hst, List.foldl_concat, descend_plain hg, ← eq_of_walk hw]
      exact ⟨hl.symm, (mem_trailOf_iff (by simp [hst])).mpr (.inr rfl)⟩

lemma write_congr (hc : s.current = t.current) (h : ∀ k ∈ t.trailOf p, s.find? k = t.find? k)
    (c : ByteArray) :
    (∃ f, t.write p c = .error f ∧ s.write p c = .error f) ∨
      (t.write p c = .ok (t.put (t.location p) (.file c)) ∧
        s.write p c = .ok (s.put (t.location p) (.file c))) := by
  unfold write
  rw [target?_congr hc h]
  cases hg : t.target? p with
  | error f => exact .inl ⟨f, rfl, rfl⟩
  | ok g =>
    cases g with
    | none => exact .inl ⟨_, rfl, rfl⟩
    | some g =>
      simp only [ok_bind]
      by_cases ha : g.asDirectory = true
      · exact .inl ⟨.isDirectory, by rw [if_pos ha], by rw [if_pos ha]⟩
      rw [if_neg ha, if_neg ha]
      by_cases hl : leadsElsewhere g.name = true
      · rw [if_pos hl, if_pos hl, enter_elsewhere hl, enter_elsewhere hl]
        exact .inl ⟨.isDirectory, rfl, rfl⟩
      rw [if_neg hl, if_neg hl]
      -- The file's own location is on the trail, so that both trees agree on what is there.
      obtain ⟨he, hm⟩ := target?_location hg (by simpa using hl)
      rw [he, h _ hm]
      cases checkName g.name with
      | error f => exact .inl ⟨f, rfl, rfl⟩
      | ok _ =>
        simp only [ok_bind]
        split
        · exact .inl ⟨_, rfl, rfl⟩
        · exact .inr ⟨rfl, rfl⟩

end Congruence

lemma walk_of_open (hn : ∀ n ∈ ns, checkName n = .ok ())
    (hw : ∀ k ∈ trail l ns, t.find? k = none ∨ t.find? k = some .directory) :
    t.walk l ns = .error .missing ∨ ∃ d, t.walk l ns = .ok d := by
  induction ns generalizing l with
  | nil => exact .inr ⟨l, rfl⟩
  | cons n ns ih =>
    have hrest := ih (l := descend l n) (fun m hm => hn m (List.mem_cons_of_mem _ hm))
      fun k hk => hw k (List.mem_cons_of_mem _ hk)
    rw [walk_cons]
    cases hp : leadsElsewhere n with
    | true =>
      rw [enter_elsewhere hp]
      exact hrest
    | false =>
      have hf := hw (descend l n) List.mem_cons_self
      rw [descend_plain hp] at hf
      rcases hf with hf | hf
      · rw [enter_missing_iff.mpr ⟨hp, hn n List.mem_cons_self, hf⟩]
        exact .inl rfl
      · rw [enter_eq_ok_iff.mpr ⟨rfl, .inr ⟨hn n List.mem_cons_self, hf⟩⟩]
        exact hrest

namespace Clear

lemma near (h : t.Clear p) (hn : Near p t s) : s.Clear p := by
  have hc := hn.keeps.current
  have hl : s.location p = t.location p := by
    rw [location, location, start_congr hc]
  refine ⟨fun l hm => ?_, h.names, by rw [hl, hn.same, h.free]⟩
  rw [wayTo, start_congr hc] at hm
  rcases hn.keeps.find? l (mem_trailOf_of_mem_wayTo hm) with he | ⟨_, he⟩
  · rw [he]
    exact h.way l hm
  · exact .inr he

lemma steps (h : t.Clear p) (ht : t.WellFormed) : stepsOf p ≠ [] := by
  intro hs
  have hf := h.free
  rw [location, hs] at hf
  exact absurd (hf.symm.trans (ht.start p)) (by simp)

lemma missing (h : t.Clear p) (ht : t.WellFormed) (hf : pathFault? p = none) :
    t.read p = .error .missing := by
  rw [read_missing_iff_walk hf]
  have hopen : ∀ k ∈ t.trailOf p, t.find? k = none ∨ t.find? k = some .directory := by
    intro k hk
    rcases (mem_trailOf_iff (h.steps ht)).mp hk with hk | rfl
    · exact h.way k hk
    · exact .inl h.free
  rcases walk_of_open h.names hopen with hw | ⟨d, hw⟩
  · exact hw
  · -- A directory that is found is where the path leads.
    have hdir := (ht.walk (ht.start p) hw).1
    have hfree := h.free
    rw [location, ← eq_of_walk hw, hdir] at hfree
    cases hfree

lemma walk_made (h : t.Clear p) (hq : Path.IsParent q p) (hm : Made q t u) :
    u.walk (u.start q) (stepsOf q) = .error .missing ∨
      ∃ d, u.walk (u.start q) (stepsOf q) = .ok d := by
  rw [start_congr hm.current, start_parent hq, stepsOf_parent hq]
  refine walk_of_open (fun n hn => h.names n ((List.dropLast_prefix _).subset hn)) fun k hk => ?_
  rcases hm.find? k with he | ⟨_, he, _⟩
  · rw [he]
    exact h.way k hk
  · exact .inr he

lemma makeDirectories (h : t.Clear p) (ht : t.WellFormed) (hf : pathFault? p = none)
    (hq : Path.parent? p = some q) :
    ∃ u, t.makeDirectories q = (u, .ok ()) ∧ u.current = t.current ∧
      ∀ l, u.find? l = if l ∈ t.wayTo p then some .directory else t.find? l := by
  have hpar := Path.isParent_of_parent? hq
  have hsound := (sound_of_pathFault? hf).parent hpar
  obtain ⟨hmade, hout⟩ := makeDirectories_spec hpar.trimmed hsound t
  have hbuilds : Builds (t.start q) (stepsOf q) t (t.makeDirectories q).1 :=
    builds_makeDirectoriesWithin hpar.trimmed hsound t
  generalize t.makeDirectories q = result at hmade hout hbuilds
  obtain ⟨u, r⟩ := result
  have hway : trail (u.start q) (stepsOf q) = t.wayTo p := by
    rw [start_congr hmade.current, start_parent hpar, stepsOf_parent hpar, wayTo]
  cases r with
  | error f =>
    obtain ⟨f, hw, hne⟩ := hout
    rcases h.walk_made hpar hmade with hm | ⟨d, hd⟩
    · rw [hw] at hm
      exact absurd (Except.error.inj hm) hne
    · rw [hw] at hd
      cases hd
  | ok _ =>
    obtain ⟨d, hw⟩ := hout
    refine ⟨u, rfl, hmade.current, fun l => ?_⟩
    split
    next hl =>
      rw [← hway] at hl
      have hu := (hbuilds.wellFormed ht (ht.start q)).1
      exact (hu.walk (hu.start q) hw).2 l hl
    next hl =>
      rcases hmade.find? l with he | ⟨_, _, hm⟩
      · exact he
      · rw [trailOf, start_parent hpar, stepsOf_parent hpar] at hm
        exact absurd hm hl

end Clear

structure Plain (p : String) : Prop where
  fault : pathFault? p = none
  steps : ∀ n ∈ stepsOf p, leadsElsewhere n = false
  names : ∀ n ∈ stepsOf p, checkName n = .ok ()

section Plain

lemma foldl_mem_trail (l : Location) (ns : List String) : ns.foldl descend l ∈ l :: trail l ns := by
  induction ns generalizing l with
  | nil => exact List.mem_cons_self
  | cons n ns ih => exact List.mem_cons_of_mem _ (ih (descend l n))

lemma none_below (ht : t.WellFormed) (hl : t.find? l = none)
    (hp : ∀ n ∈ ns, leadsElsewhere n = false) : ∀ k ∈ l :: trail l ns, t.find? k = none := by
  induction ns generalizing l with
  | nil => simpa [trail] using hl
  | cons n ns ih =>
    obtain ⟨hn, hp⟩ := List.forall_mem_cons.mp hp
    have hd : t.find? (descend l n) = none := by
      rw [descend_plain hn]
      by_contra hne
      rw [ht.around l n hne] at hl
      cases hl
    exact List.forall_mem_cons.mpr ⟨hl, ih hd hp⟩

lemma none_of_walk (ht : t.WellFormed) (hp : ∀ n ∈ ns, leadsElsewhere n = false)
    (hw : t.walk l ns = .error .missing) : t.find? (ns.foldl descend l) = none ∧
      ∀ k ∈ trail l ns, t.find? k = none ∨ t.find? k = some .directory := by
  induction ns generalizing l with
  | nil => cases hw
  | cons n ns ih =>
    obtain ⟨hn, hp⟩ := List.forall_mem_cons.mp hp
    rw [List.foldl_cons, trail]
    obtain he | ⟨d, he, hw⟩ := bind_eq_error.mp hw
    · obtain ⟨_, _, hf⟩ := enter_missing_iff.mp he
      have hb := none_below ht (descend_plain hn ▸ hf) hp
      exact ⟨hb _ (foldl_mem_trail _ ns), fun k hk => .inl (hb k hk)⟩
    · obtain ⟨rfl, hd⟩ := enter_eq_ok_iff.mp he
      obtain ⟨h1, h2⟩ := ih hp hw
      refine ⟨h1, List.forall_mem_cons.mpr ⟨.inr ?_, h2⟩⟩
      rw [descend_plain hn]
      exact (hd.resolve_left (by simp [hn])).2

lemma directory_above (ht : t.WellFormed) (hp : ∀ n ∈ ns, leadsElsewhere n = false)
    (hd : t.find? (ns.foldl descend l) = some .directory) :
    ∀ k ∈ trail l ns, t.find? k = some .directory := by
  induction ns using List.reverseRecOn with
  | nil => simp [trail]
  | append_singleton ns n ih =>
    have hn := hp n (by simp)
    rw [List.foldl_concat, descend_plain hn] at hd
    have hup := ih (fun m hm => hp m (by simp [hm])) (ht.around _ n (by rw [hd]; simp))
    intro k hk
    rw [trail_append, trail, trail, descend_plain hn] at hk
    rcases List.mem_append.mp hk with hk | hk
    · exact hup k hk
    · rwa [List.mem_singleton.mp hk]

namespace Plain

lemma clear (h : Plain p) (ht : t.WellFormed) (hm : t.read p = .error .missing) : t.Clear p := by
  obtain ⟨hfree, hway⟩ := none_of_walk ht h.steps ((read_missing_iff_walk h.fault).mp hm)
  exact ⟨fun l hl => hway l (mem_trailOf_of_mem_wayTo hl), h.names, hfree⟩

lemma isDirectory (h : Plain p) (ht : t.WellFormed)
    (hd : t.find? (t.location p) = some .directory) : t.isDirectory p = true := by
  rw [isDirectory_iff h.fault]
  have hopen := directory_above ht h.steps hd
  rcases walk_of_open h.names fun k hk => .inr (hopen k hk) with hw | hw
  · have hn := (none_of_walk ht h.steps hw).1
    rw [← location, hd] at hn
    cases hn
  · exact hw

end Plain

end Plain

end LayoutSync.FileTree
