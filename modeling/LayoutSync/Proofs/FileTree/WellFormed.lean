import LayoutSync.Proofs.FileTree.Making

/-!
Well-formed trees, in which everything that is there is in a directory. Making directories builds
them one by one, each in one that is there, so that trees stay well-formed.
-/

namespace LayoutSync.FileTree

/-- Every location stands once, what is there is in a directory, and paths start in one. -/
structure WellFormed (t : FileTree) : Prop where
  nodup : (Assoc.keys t.entries).Nodup
  around : ∀ l n, t.find? (l ++ [n]) ≠ none → t.find? l = some .directory
  current : t.find? t.current = some .directory

def below (t : FileTree) (l : Location) : List (Location × Entry) :=
  t.entries.filter fun e => l.isPrefixOf e.1

inductive Builds (l : Location) (ns : List String) (t : FileTree) : FileTree → Prop
  | refl : Builds l ns t t
  | step {u : FileTree} {ms : List String} {n : String} {d : Location} (h : Builds l ns t u)
      (hn : ms ++ [n] <+: ns) (hp : leadsElsewhere n = false) (hw : u.walk l ms = .ok d)
      (hf : u.find? (d ++ [n]) = none) : Builds l ns t (u.put (d ++ [n]) .directory)

variable {t u v : FileTree} {l k r d : Location} {n : String} {ns ms : List String} {e : Entry}

section Decidable

lemma around_iff : (∀ l n, t.find? (l ++ [n]) ≠ none → t.find? l = some .directory) ↔
    ∀ l ∈ Assoc.keys t.entries, l ≠ [] → t.find? l.dropLast = some .directory := by
  have hfind : ∀ l n, t.find? (l ++ [n]) ≠ none ↔ l ++ [n] ∈ Assoc.keys t.entries := by
    intro l n
    rw [find?, if_neg (by simp), ne_eq, Assoc.get?_eq_none_iff, not_not]
  constructor
  · intro h l hl hne
    rw [← List.dropLast_append_getLast hne] at hl
    exact h _ _ ((hfind _ _).mpr hl)
  · intro h l n hl
    have hd := h _ ((hfind l n).mp hl) (by simp)
    rwa [List.dropLast_concat] at hd

instance (t : FileTree) : Decidable t.WellFormed :=
  decidable_of_iff ((Assoc.keys t.entries).Nodup ∧
      (∀ l ∈ Assoc.keys t.entries, l ≠ [] → t.find? l.dropLast = some .directory) ∧
      t.find? t.current = some .directory)
    ⟨fun ⟨h1, h2, h3⟩ => ⟨h1, around_iff.mpr h2, h3⟩,
      fun h => ⟨h.nodup, around_iff.mp h.around, h.current⟩⟩

end Decidable

section Put

lemma below_put (h : ¬ r <+: k) (t : FileTree) (e : Entry) : (t.put k e).below r = t.below r := by
  have hk : r.isPrefixOf k = false := by
    rw [← Bool.not_eq_true, List.isPrefixOf_iff_prefix]
    exact h
  unfold below put
  dsimp only
  induction t.entries with
  | nil => simp [Assoc.put, hk]
  | cons a es ih =>
    unfold Assoc.put
    split
    next he => simp [← he, he ▸ hk]
    next => simp only [List.filter_cons, ih]

lemma WellFormed.put (h : t.WellFormed) (hd : t.find? d = some .directory)
    (hn : t.find? (d ++ [n]) ≠ some .directory) (e : Entry) : (t.put (d ++ [n]) e).WellFormed := by
  have hne : d ++ [n] ≠ [] := by simp
  have hkeep : ∀ m, t.find? m = some .directory → (t.put (d ++ [n]) e).find? m = some .directory := by
    intro m hm
    rw [find?_put t hne, if_neg, hm]
    rintro rfl
    exact hn hm
  refine ⟨Assoc.nodup_keys_put _ _ h.nodup, fun m k hk => hkeep m ?_, hkeep _ h.current⟩
  rw [find?_put t hne] at hk
  split at hk
  next he => rwa [(List.append_inj' he rfl).1]
  next => exact h.around m k hk

end Put

section Walk

lemma WellFormed.enter (h : t.WellFormed) (hl : t.find? l = some .directory)
    (he : t.enter l n = .ok d) : t.find? d = some .directory := by
  obtain ⟨rfl, hd⟩ := enter_eq_ok_iff.mp he
  cases hn : leadsElsewhere n with
  | true =>
    obtain rfl | rfl : n = "." ∨ n = ".." := by simpa [leadsElsewhere] using hn
    · exact hl
    · rcases List.eq_nil_or_concat' l with rfl | ⟨k, x, rfl⟩
      · rfl
      · rw [descend, if_neg (by decide), if_pos rfl, List.dropLast_concat]
        exact h.around k x (by rw [hl]; simp)
  | false =>
    rw [descend_plain hn]
    exact (hd.resolve_left (by simp [hn])).2

lemma WellFormed.walk (h : t.WellFormed) (hl : t.find? l = some .directory)
    (hw : t.walk l ns = .ok d) :
    t.find? d = some .directory ∧ ∀ k ∈ trail l ns, t.find? k = some .directory := by
  induction ns generalizing l with
  | nil =>
    obtain rfl := Except.ok.inj hw
    exact ⟨hl, by simp [trail]⟩
  | cons n ns ih =>
    obtain ⟨m, he, hw⟩ := bind_eq_ok.mp hw
    have hm := h.enter hl he
    obtain rfl := descend_of_enter he
    obtain ⟨h1, h2⟩ := ih hm hw
    exact ⟨h1, List.forall_mem_cons.mpr ⟨hm, h2⟩⟩

lemma WellFormed.start (h : t.WellFormed) (p : String) : t.find? (t.start p) = some .directory := by
  unfold FileTree.start
  split
  · rfl
  · exact h.current

lemma lookup_directory (ht : t.WellFormed) (h : t.lookup p = .ok (d, .directory)) :
    d = t.location p ∧ t.find? d = some .directory := by
  cases hf : pathFault? p with
  | some f =>
    rw [lookup_of_fault hf] at h
    cases h
  | none =>
    have hw := (lookup_directory_iff hf).mp h
    exact ⟨eq_of_walk hw, (ht.walk (ht.start p) hw).1⟩

lemma find?_of_isDirectory (ht : t.WellFormed) (h : t.isDirectory p = true) :
    t.find? (t.location p) = some .directory := by
  obtain ⟨l, hl⟩ := isDirectory_iff_lookup.mp h
  obtain ⟨rfl, hd⟩ := lookup_directory ht hl
  exact hd

end Walk

namespace Builds

lemma current (h : Builds l ns t u) : u.current = t.current := by
  induction h with
  | refl => rfl
  | step _ _ _ _ _ ih => exact ih

lemma trans (h : Builds l ns t u) (h' : Builds l ns u v) : Builds l ns t v := by
  induction h' with
  | refl => exact h
  | step _ hn hp hw hf ih => exact ih.step hn hp hw hf

lemma mono (h : Builds l ms t u) (hm : ms <+: ns) : Builds l ns t u := by
  induction h with
  | refl => exact .refl
  | step _ hn hp hw hf ih => exact ih.step (hn.trans hm) hp hw hf

lemma wellFormed (h : Builds l ns t u) (ht : t.WellFormed) (hl : t.find? l = some .directory) :
    u.WellFormed ∧ u.find? l = some .directory := by
  induction h with
  | refl => exact ⟨ht, hl⟩
  | @step w ms n d _ _ _ hw hf ih =>
    obtain ⟨h1, h2⟩ := ih
    refine ⟨h1.put (h1.walk h2 hw).1 (by rw [hf]; simp) .directory, ?_⟩
    rw [find?_put w (by simp), if_neg, h2]
    rintro rfl
    rw [h2] at hf
    cases hf

lemma below_eq (h : Builds l ns t u) (hr : ∀ k ∈ trail l ns, ¬ r <+: k) : u.below r = t.below r := by
  induction h with
  | refl => rfl
  | @step w ms n d _ hn hp hw _ ih =>
    rw [below_put (hr _ ?_) w .directory, ih]
    obtain ⟨rest, rfl⟩ := hn
    rw [eq_of_walk hw, trail_append, trail_append, trail, descend_plain hp]
    simp

end Builds

section Making

variable {p q : String}

lemma Ending.builds (h : Ending p ns n) (t : FileTree) :
    Builds (t.start p) (stepsOf p) t (t.ensureDirectory p).1 := by
  unfold ensureDirectory
  cases hm : t.makeDirectory p with
  | error f => exact .refl
  | ok u =>
    obtain ⟨d, hd, hn, _, hf, rfl⟩ := h.makeDirectory_eq_ok_iff.mp hm
    exact .step .refl (h.steps ▸ List.prefix_refl _) hn hd hf

lemma builds_makeDirectoriesWithin {fuel : Nat} (ht : Path.IsTrimmed p.toList) (hp : Sound p)
    (t : FileTree) : Builds (t.start p) (stepsOf p) t (t.makeDirectoriesWithin fuel p).1 := by
  induction fuel generalizing t p with
  | zero => exact .refl
  | succ fuel ih =>
    rw [makeDirectoriesWithin]
    by_cases he : p = ""
    · subst he
      exact .refl
    · rw [if_neg (by simpa using he)]
      rcases ending_cases ht (pathFault?_of_sound hp he) with ⟨_, ho⟩ | ⟨ns, n, h⟩
      · rw [ho]
        simp only [ensureDirectory, ho]
        exact .refl
      · split
        next hm hq =>
          -- The directories of the parent come first, and those that were made are on the same way.
          have hpar := Path.isParent_of_parent? hq
          have hb := ih hpar.trimmed (hp.parent hpar) t
          rw [start_parent hpar, stepsOf_parent hpar] at hb
          replace hb := hb.mono (List.dropLast_prefix _)
          split
          next u f hu => simpa [hu] using hb
          next u hu =>
            rw [hu] at hb
            have h1 := h.builds u
            rw [start_congr hb.current] at h1
            exact hb.trans h1
        · exact h.builds t

end Making

end LayoutSync.FileTree
