import LayoutSync.ImportTable.Discovery
import LayoutSync.Proofs.FileTree.Places
import Mathlib.Algebra.GroupWithZero.Nat
import Mathlib.Algebra.Order.BigOperators.Group.List
import Mathlib.Algebra.Order.Group.Nat

/-!
What a repository declares depends on what is in it only. Each directory costs the search one step,
so that it ends before the steps it may take are used up, however many files there are elsewhere.
-/

namespace LayoutSync.ImportTable

open FileTree Path

variable {t s : FileTree} {l r : Location} {root : String} {ns : List String}

def inside (t : FileTree) (l : Location) : List (Location × Entry) :=
  t.entries.filter fun e => l.isPrefixOf e.1 && e.1 ≠ l

def cost (t : FileTree) (l : Location) : Nat := (inside t l).length + 1

section Counting

lemma sum_filter_le {α : Type} (es : List α) (Ps : List (α → Bool)) (Q : α → Bool)
    (hQ : ∀ P ∈ Ps, ∀ e, P e = true → Q e = true)
    (hP : Ps.Pairwise fun P P' => ∀ e, P e = true → P' e = false) :
    (Ps.map fun P => (es.filter P).length).sum ≤ (es.filter Q).length := by
  -- The first predicate takes its share away, and the others only hold of what is left.
  induction Ps generalizing Q with
  | nil => simp
  | cons P Ps ih =>
    obtain ⟨hd, hP⟩ := List.pairwise_cons.mp hP
    have hrest := ih (fun e => Q e && !P e) (fun P' hP' e he => by
      have hne : P e = false := by
        rw [← Bool.not_eq_true]
        intro hPe
        rw [hd P' hP' e hPe] at he
        cases he
      simp [hQ P' (List.mem_cons_of_mem _ hP') e he, hne]) hP
    have hfirst : (es.filter Q).filter P = es.filter P := by
      rw [List.filter_filter]
      refine List.filter_congr fun e _ => ?_
      cases hPe : P e with
      | false => rfl
      | true => simp [hQ P List.mem_cons_self e hPe]
    have hsplit := List.length_eq_length_filter_add (l := es.filter Q) P
    rw [hfirst, List.filter_filter] at hsplit
    have hcomm : es.filter (fun e => !P e && Q e) = es.filter fun e => Q e && !P e :=
      List.filter_congr fun e _ => Bool.and_comm _ _
    rw [hcomm] at hsplit
    rw [List.map_cons, List.sum_cons]
    omega

lemma mem_directoriesIn {c : List String} {es : List (String × Entry)} :
    c ∈ directoriesIn ns es ↔ ∃ n, c = ns ++ [n] ∧ (n, .directory) ∈ es := by
  rw [directoriesIn, List.mem_filterMap]
  constructor
  · rintro ⟨⟨n, e⟩, hm, hc⟩
    dsimp only at hc
    split at hc
    next he => exact ⟨n, (Option.some.inj hc).symm, he ▸ hm⟩
    next => cases hc
  · rintro ⟨n, rfl, hm⟩
    exact ⟨_, hm, by simp⟩

lemma directoriesIn_perm (t : FileTree) (l : Location) :
    (directoriesIn l (t.children l)).Perm ((t.entries.filter fun e =>
      e.2 = .directory && e.1.dropLast = l && e.1 ≠ []).map Prod.fst) := by
  unfold directoriesIn children
  refine ((List.mergeSort_perm _ _).filterMap _).trans (List.Perm.of_eq ?_)
  rw [List.filterMap_filterMap]
  induction t.entries with
  | nil => rfl
  | cons e es ih =>
    obtain ⟨m, e⟩ := e
    rw [List.filterMap_cons, List.filter_cons, ih]
    rcases List.eq_nil_or_concat' m with rfl | ⟨k, n, rfl⟩
    · simp
    · by_cases hk : k = l
      · subst hk
        by_cases he : e = .directory <;> simp [he]
      · simp [hk]

lemma exists_of_mem_directoriesIn {c : Location} (h : c ∈ directoriesIn l (t.children l)) :
    ∃ n, c = l ++ [n] ∧ (c, .directory) ∈ t.entries := by
  obtain ⟨⟨m, e⟩, hm, rfl⟩ := List.mem_map.mp ((directoriesIn_perm t l).mem_iff.mp h)
  simp only [List.mem_filter, Bool.and_eq_true, decide_eq_true_eq] at hm
  obtain ⟨hmem, ⟨rfl, rfl⟩, hne⟩ := hm
  exact ⟨m.getLast hne, (List.dropLast_append_getLast hne).symm, hmem⟩

lemma map_directoriesIn (l : Location) (ns : List String) (es : List (String × Entry)) :
    (directoriesIn ns es).map (l ++ ·) = directoriesIn (l ++ ns) es := by
  rw [directoriesIn, directoriesIn, List.map_filterMap]
  refine List.filterMap_congr fun c _ => ?_
  by_cases hc : c.2 = .directory
  · simp [hc]
  · simp [hc]

lemma cost_le_below {c : Location} (h : (c, .directory) ∈ t.entries) :
    cost t c ≤ (t.below c).length := by
  have hs : (c, Entry.directory) ∈ t.below c := List.mem_filter.mpr ⟨h, by simp⟩
  have hf : inside t c = (t.below c).filter fun e => e.1 ≠ c := by
    rw [inside, below, List.filter_filter]
    exact List.filter_congr fun e _ => Bool.and_comm _ _
  rw [cost, hf]
  exact List.length_filter_lt_length_iff_exists.mpr ⟨_, hs, by simp⟩

lemma inside_of_below_concat {n : String} {k : Location} (h : (l ++ [n]).isPrefixOf k = true) :
    (l.isPrefixOf k && k ≠ l) = true := by
  rw [List.isPrefixOf_iff_prefix] at h
  have hne : k ≠ l := by
    rintro rfl
    have := h.length_le
    simp only [List.length_append, List.length_singleton] at this
    omega
  simpa [hne] using (List.prefix_append l [n]).trans h

lemma sum_cost_directoriesIn (hn : (Assoc.keys t.entries).Nodup) (l : Location) :
    ((directoriesIn l (t.children l)).map (cost t)).sum ≤ (inside t l).length := by
  have hnodup : (directoriesIn l (t.children l)).Nodup :=
    (directoriesIn_perm t l).nodup_iff.mpr (hn.sublist (List.filter_sublist.map _))
  have hle : ((directoriesIn l (t.children l)).map (cost t)).sum ≤
      ((directoriesIn l (t.children l)).map fun c => (t.below c).length).sum := by
    refine List.sum_le_sum fun c hc => ?_
    obtain ⟨_, _, hm⟩ := exists_of_mem_directoriesIn hc
    exact cost_le_below hm
  refine hle.trans ?_
  have hsum := sum_filter_le t.entries
    ((directoriesIn l (t.children l)).map fun c (e : Location × Entry) => c.isPrefixOf e.1)
    (fun e => l.isPrefixOf e.1 && e.1 ≠ l) ?_ ?_
  · rwa [List.map_map] at hsum
  · intro P hP e he
    obtain ⟨c, hc, rfl⟩ := List.mem_map.mp hP
    obtain ⟨n, rfl, _⟩ := exists_of_mem_directoriesIn hc
    exact inside_of_below_concat he
  · refine List.pairwise_map.mpr (List.Pairwise.imp_of_mem (fun {c c'} hc hc' hne e he => ?_) hnodup)
    -- Two subdirectories have names of their own, so that nothing is below both.
    obtain ⟨n, rfl, _⟩ := exists_of_mem_directoriesIn hc
    obtain ⟨n', rfl, _⟩ := exists_of_mem_directoriesIn hc'
    rw [← Bool.not_eq_true, List.isPrefixOf_iff_prefix]
    rw [List.isPrefixOf_iff_prefix] at he
    intro he'
    exact hne ((List.prefix_of_prefix_length_le he he' (by simp)).eq_of_length (by simp))

end Counting

structure Located (t : FileTree) (root : String) (l : Location) : Prop where
  wellFormed : t.WellFormed
  top : t.find? l = some .directory
  listed : ∀ ns es, t.find? (l ++ ns) = some .directory → t.list (pathBelow root ns) = .ok es →
    es = t.children (l ++ ns)

lemma located_of_proper (ht : t.WellFormed) (hl : t.lookup root = .ok (l, .directory))
    (hn : ∀ ns e, t.find? (l ++ ns) = some e → ∀ n ∈ ns, IsProper n) : Located t root l := by
  refine ⟨ht, (lookup_directory ht hl).2, fun ns es hd hes => ?_⟩
  obtain ⟨k, hk, rfl⟩ := list_eq_ok_iff.mp hes
  rw [lookup_pathBelow ht hl (hn ns _ hd) hd] at hk
  obtain ⟨_, _, hk⟩ := bind_eq_ok.mp hk
  rw [(Prod.mk.inj (Except.ok.inj hk)).1]

section Steps

variable {fuel : Nat} {queue cs : List (List String)}

lemma cost_le (t : FileTree) (l : Location) : cost t l ≤ t.entries.length + 1 :=
  Nat.succ_le_succ (List.length_filter_le _ _)

lemma directory_of_mem {ns c : List String} (ht : t.WellFormed)
    (hc : c ∈ directoriesIn ns (t.children (l ++ ns))) : t.find? (l ++ c) = some .directory := by
  obtain ⟨n, rfl, hm⟩ := mem_directoriesIn.mp hc
  rw [← List.append_assoc]
  exact (mem_children ht.nodup).mp hm

lemma Located.subdirectories (h : Located t root l) (hd : t.find? (l ++ ns) = some .directory)
    (hs : subdirectories t root ns = .ok cs) : cs = directoriesIn ns (t.children (l ++ ns)) := by
  unfold ImportTable.subdirectories at hs
  split at hs
  next => cases hs
  next es he => rw [← Except.ok.inj hs, h.listed ns es hd he]

def Enough (t : FileTree) (l : Location) (fuel : Nat) (queue : List (List String)) : Prop :=
  (∀ ns ∈ queue, t.find? (l ++ ns) = some .directory) ∧
    (queue.map fun ns => cost t (l ++ ns)).sum ≤ fuel

lemma enough_root (h : t.find? l = some .directory) :
    Enough t l (t.entries.length + 1) [[]] := by
  refine ⟨?_, ?_⟩
  · simpa using h
  · simpa using cost_le t l

lemma not_enough_zero : ¬ Enough t l 0 (ns :: queue) := by
  rintro ⟨_, h⟩
  rw [List.map_cons, List.sum_cons, cost] at h
  omega

lemma Enough.tail (h : Enough t l (fuel + 1) (ns :: queue)) : Enough t l fuel queue := by
  obtain ⟨hd, hs⟩ := h
  rw [List.map_cons, List.sum_cons, cost] at hs
  exact ⟨fun ns hn => hd ns (List.mem_cons_of_mem _ hn), by omega⟩

lemma Enough.next (h : Enough t l (fuel + 1) (ns :: queue)) (ht : t.WellFormed) :
    Enough t l fuel (queue ++ directoriesIn ns (t.children (l ++ ns))) := by
  obtain ⟨hd, hs⟩ := h
  rw [List.map_cons, List.sum_cons, cost] at hs
  refine ⟨fun c hc => ?_, ?_⟩
  · rcases List.mem_append.mp hc with hc | hc
    · exact hd c (List.mem_cons_of_mem _ hc)
    · exact directory_of_mem ht hc
  · have hsum := sum_cost_directoriesIn ht.nodup (l ++ ns)
    rw [← map_directoriesIn, List.map_map] at hsum
    rw [List.map_append, List.sum_append]
    exact (Nat.add_le_add_left hsum _).trans (by omega)

lemma packages_enough (h : Located t root l) (he : Enough t l fuel queue) (more : Nat) :
    packages t root (fuel + more) queue = packages t root fuel queue := by
  induction fuel generalizing queue with
  | zero =>
    cases queue with
    | nil => cases more <;> simp [packages]
    | cons ns queue => exact absurd he not_enough_zero
  | succ fuel ih =>
    cases queue with
    | nil => rw [Nat.succ_add, packages, packages]
    | cons ns queue =>
      rw [Nat.succ_add, packages, packages]
      split
      · rw [ih he.tail]
      · cases hs : subdirectories t root ns with
        | error f => rfl
        | ok cs =>
          obtain rfl := h.subdirectories (he.1 ns List.mem_cons_self) hs
          exact ih (he.next h.wellFormed)

lemma cost_le_inside {name : String} (h : (name, .directory) ∈ t.children l) :
    cost t (l ++ [name]) ≤ (inside t l).length := by
  have hc : l ++ [name] ∈ directoriesIn l (t.children l) := mem_directoriesIn.mpr ⟨name, rfl, h⟩
  obtain ⟨_, _, hm⟩ := exists_of_mem_directoriesIn hc
  exact (cost_le_below hm).trans
    (List.Sublist.length_le (List.monotone_filter_right _ fun _ => inside_of_below_concat))

lemma mem_listed (h : Located t root l) (hd : t.find? (l ++ ns) = some .directory)
    {c : String × Entry} (hc : c ∈ t.listed (pathBelow root ns)) : c ∈ t.children (l ++ ns) := by
  unfold FileTree.listed at hc
  split at hc
  next es he => rwa [h.listed ns es hd he] at hc
  next => cases hc

lemma filesBelow_enough (h : Located t root l) (hd : t.find? (l ++ ns) = some .directory)
    (hf : cost t (l ++ ns) ≤ fuel) (more : Nat) :
    filesBelow t root (fuel + more) ns = filesBelow t root fuel ns := by
  induction fuel generalizing ns with
  | zero =>
    rw [cost] at hf
    omega
  | succ fuel ih =>
    rw [Nat.succ_add, filesBelow, filesBelow]
    refine List.flatMap_congr fun c hc => ?_
    have hm := mem_listed h hd hc
    obtain ⟨name, e⟩ := c
    cases e with
    | file _ => rfl
    | directory =>
      have hcost := cost_le_inside hm
      have hdir := (mem_children h.wellFormed.nodup).mp hm
      rw [cost] at hf
      rw [List.append_assoc] at hcost hdir
      exact ih hdir (by omega)

end Steps

section Found

variable {fuel : Nat} {queue ps : List (List String)}

lemma packages_cons_eq_ok_iff : packages t root (fuel + 1) (ns :: queue) = .ok ps ↔
    isPackage t root ns = true ∧ (∃ rest, packages t root fuel queue = .ok rest ∧ ps = ns :: rest) ∨
    ¬ isPackage t root ns = true ∧
      ∃ cs, subdirectories t root ns = .ok cs ∧ packages t root fuel (queue ++ cs) = .ok ps := by
  rw [packages]
  split
  next hp => simp [hp, bind_eq_ok, pure_eq_ok, eq_comm (b := ps)]
  next hp => simp [hp, bind_eq_ok]

lemma directory_of_packages (h : Located t root l)
    (hq : ∀ ns ∈ queue, t.find? (l ++ ns) = some .directory)
    (hp : packages t root fuel queue = .ok ps) : ∀ p ∈ ps, t.find? (l ++ p) = some .directory := by
  induction fuel generalizing queue ps with
  | zero =>
    obtain rfl := Except.ok.inj hp
    exact List.forall_mem_nil _
  | succ fuel ih =>
    cases queue with
    | nil =>
      obtain rfl := Except.ok.inj hp
      exact List.forall_mem_nil _
    | cons ns queue =>
      obtain ⟨hns, hq⟩ := List.forall_mem_cons.mp hq
      rcases packages_cons_eq_ok_iff.mp hp with ⟨_, rest, hr, rfl⟩ | ⟨_, cs, hs, hr⟩
      · exact List.forall_mem_cons.mpr ⟨hns, ih hq hr⟩
      · obtain rfl := h.subdirectories hns hs
        exact ih (List.forall_mem_append.mpr ⟨hq, fun c => directory_of_mem h.wellFormed⟩) hr

lemma packages_error {f : Fault} (hp : packages t root fuel queue = .error f) :
    ∃ ns g, f = .access (pathBelow root ns) g ∧ t.list (pathBelow root ns) = .error g := by
  induction fuel generalizing queue with
  | zero => cases hp
  | succ fuel ih =>
    cases queue with
    | nil => cases hp
    | cons ns queue =>
      rw [packages] at hp
      split at hp
      · rcases bind_eq_error.mp hp with hr | ⟨_, _, hr⟩
        · exact ih hr
        · cases hr
      · rcases bind_eq_error.mp hp with hs | ⟨cs, _, hr⟩
        · unfold subdirectories at hs
          split at hs
          next g hg => exact ⟨ns, g, (Except.error.inj hs).symm, hg⟩
          next => cases hs
        · exact ih hr

theorem ofRepository_error {f : Fault} (h : ofRepository t root = .error f) :
    ∃ ns g, f = .access (pathBelow root ns) g ∧ t.list (pathBelow root ns) = .error g := by
  unfold ofRepository declarations at h
  split at h
  · rcases bind_eq_error.mp h with hd | ⟨_, _, hd⟩
    · rcases bind_eq_error.mp hd with hp | ⟨_, _, hp⟩
      · exact packages_error hp
      · cases hp
    · cases hd
  · cases h

end Found

section Shared

lemma get?_filter {P : Location → Bool} (hk : P l = true) (es : List (Location × Entry)) :
    Assoc.get? l (es.filter fun e => P e.1) = Assoc.get? l es := by
  induction es with
  | nil => rfl
  | cons e es ih =>
    rw [List.filter_cons]
    split
    · simp only [Assoc.get?, ih]
    next he =>
      have hne : e.1 ≠ l := fun hl => he (hl ▸ hk)
      rw [ih, Assoc.get?, if_neg hne]

lemma find?_congr (h : s.below r = t.below r) (hl : r <+: l) : s.find? l = t.find? l := by
  have hf : ∀ u : FileTree, Assoc.get? l u.entries = Assoc.get? l (u.below r) := fun u =>
    (get?_filter (List.isPrefixOf_iff_prefix.mpr hl) u.entries).symm
  rw [find?, find?, hf s, hf t, h]

lemma children_congr (h : s.below r = t.below r) (hl : r <+: l) : s.children l = t.children l := by
  have hc : ∀ u : FileTree, u.children l = { u with entries := u.below r }.children l := by
    intro u
    unfold children below
    dsimp only
    rw [List.filterMap_filter]
    congr 1
    refine List.filterMap_congr fun e _ => ?_
    by_cases hd : e.1.dropLast = l
    · have hr : r <+: e.1 := (hd ▸ hl).trans (List.dropLast_prefix e.1)
      rw [if_pos (List.isPrefixOf_iff_prefix.mpr hr)]
    · simp [hd]
  rw [hc s, hc t, h]
  rfl

structure Shared (t s : FileTree) (root : String) (l : Location) : Prop where
  wellFormed : t.WellFormed
  wellFormed' : s.WellFormed
  lookup : t.lookup root = .ok (l, .directory)
  lookup' : s.lookup root = .ok (l, .directory)
  below : s.below l = t.below l
  proper : ∀ ns e, t.find? (l ++ ns) = some e → ∀ n ∈ ns, IsProper n

namespace Shared

variable {fuel : Nat} {queue : List (List String)} (h : Shared t s root l)

include h

lemma find? (ns : List String) : s.find? (l ++ ns) = t.find? (l ++ ns) :=
  find?_congr h.below (List.prefix_append l ns)

lemma located : Located t root l := located_of_proper h.wellFormed h.lookup h.proper

lemma located' : Located s root l :=
  located_of_proper h.wellFormed' h.lookup' fun ns e he => h.proper ns e (h.find? ns ▸ he)

lemma list (hd : t.find? (l ++ ns) = some .directory) :
    s.list (pathBelow root ns) = t.list (pathBelow root ns) := by
  have hns := h.proper ns _ hd
  have hc := children_congr h.below (List.prefix_append l ns)
  rw [FileTree.list, FileTree.list, lookup_pathBelow h.wellFormed h.lookup hns hd,
    lookup_pathBelow h.wellFormed' h.lookup' hns (h.find? ns ▸ hd)]
  cases reach root ns with
  | error f => rfl
  | ok _ => simp only [ok_bind, pure_eq_ok, hc]

lemma isPackage (hd : t.find? (l ++ ns) = some .directory) :
    isPackage s root ns = isPackage t root ns := by
  have hns := h.proper ns _ hd
  have hm : IsProper manifest := by decide
  rw [ImportTable.isPackage, ImportTable.isPackage, ← pathBelow_concat, isFile, isFile,
    lookup_concat h.wellFormed h.lookup hns hd hm,
    lookup_concat h.wellFormed' h.lookup' hns (h.find? ns ▸ hd) hm, h.find?]

lemma packages (hq : ∀ ns ∈ queue, t.find? (l ++ ns) = some .directory) :
    packages s root fuel queue = packages t root fuel queue := by
  induction fuel generalizing queue with
  | zero => rfl
  | succ fuel ih =>
    cases queue with
    | nil => rfl
    | cons ns queue =>
      obtain ⟨hns, hq⟩ := List.forall_mem_cons.mp hq
      have hs : subdirectories s root ns = subdirectories t root ns := by
        rw [subdirectories, subdirectories, h.list hns]
      rw [ImportTable.packages, ImportTable.packages, h.isPackage hns, hs]
      split
      · rw [ih hq]
      · cases hcs : subdirectories t root ns with
        | error f => rfl
        | ok cs =>
          obtain rfl := h.located.subdirectories hns hcs
          exact ih (List.forall_mem_append.mpr ⟨hq, fun c => directory_of_mem h.wellFormed⟩)

lemma filesBelow (hd : t.find? (l ++ ns) = some .directory) :
    filesBelow s root fuel ns = filesBelow t root fuel ns := by
  induction fuel generalizing ns with
  | zero => rfl
  | succ fuel ih =>
    rw [ImportTable.filesBelow, ImportTable.filesBelow, listed, listed, h.list hd]
    refine List.flatMap_congr fun c hc => ?_
    have hm := mem_listed h.located hd hc
    obtain ⟨name, e⟩ := c
    cases e with
    | file _ => rfl
    | directory =>
      rw [mem_children h.wellFormed.nodup, List.append_assoc] at hm
      exact ih hm

end Shared

lemma declarations_enough (h : Located t root l) (more : Nat) :
    declarations t root = (do
      let size := t.entries.length + 1 + more
      return (← packages t root size [[]]).flatMap fun package =>
        (filesBelow t root size package).filterMap declaration?) := by
  have he := enough_root (l := l) h.top
  unfold declarations
  dsimp only
  rw [packages_enough h he]
  cases hp : packages t root (t.entries.length + 1) [[]] with
  | error f => rfl
  | ok ps =>
    have hd := directory_of_packages h he.1 hp
    refine congrArg Except.ok (List.flatMap_congr fun p hm => ?_)
    rw [filesBelow_enough h (hd p hm) (cost_le t _)]

lemma declarations_congr (h : Shared t s root l) : declarations s root = declarations t root := by
  -- The two searches are compared at steps enough for both.
  have hsum : s.entries.length + 1 + (t.entries.length + 1) =
      t.entries.length + 1 + (s.entries.length + 1) := Nat.add_comm _ _
  have hq := (enough_root h.located.top).1
  rw [declarations_enough h.located' (t.entries.length + 1),
    declarations_enough h.located (s.entries.length + 1), hsum]
  dsimp only
  rw [h.packages hq]
  cases hp : packages t root (t.entries.length + 1 + (s.entries.length + 1)) [[]] with
  | error f => rfl
  | ok ps =>
    have hd := directory_of_packages h.located hq hp
    refine congrArg Except.ok (List.flatMap_congr fun p hm => ?_)
    rw [h.filesBelow (hd p hm)]

lemma ofRepository_congr (h : Shared t s root l) : ofRepository s root = ofRepository t root := by
  have hd : ∀ u : FileTree, u.lookup root = .ok (l, .directory) → u.isDirectory root = true :=
    fun u hu => isDirectory_iff_lookup.mpr ⟨l, hu⟩
  rw [ofRepository, ofRepository, hd s h.lookup', hd t h.lookup, declarations_congr h]

end Shared

section Caching

variable {c : Cache}

lemma ofRepository_of_package (h : t.isDirectory root = true) (hp : isPackage t root [] = true) :
    ofRepository t root = .ok (ofList ((filesBelow t root (t.entries.length + 1) []).filterMap
      declaration?)) := by
  have hnil : packages t root t.entries.length [] = .ok [] := by
    cases t.entries.length <;> rfl
  have hps : packages t root (t.entries.length + 1) [[]] = .ok [[]] :=
    packages_cons_eq_ok_iff.mpr (.inl ⟨hp, [], hnil, rfl⟩)
  rw [ofRepository, if_pos h, declarations, hps]
  simp

lemma ofRepository_of_not_directory (h : ¬ t.isDirectory root = true) :
    ofRepository t root = .ok empty := by
  rw [ofRepository, if_neg h]
  rfl

lemma Cache.get_snd (c : Cache) (t : FileTree) :
    (c.get t).2 = { c with table := (c.get t).1.toOption } := by
  obtain ⟨root, table⟩ := c
  unfold Cache.get
  cases table with
  | some table => rfl
  | none =>
    dsimp only
    cases ofRepository t root <;> rfl

lemma Cache.get_again (c : Cache) (h : (∃ f, (c.get t).1 = .error f) → s = t) :
    ((c.get t).2.get s).1 = (c.get t).1 := by
  cases hg : (c.get t).1 with
  | ok table =>
    rw [Cache.get_snd, hg]
    rfl
  | error f =>
    obtain rfl := h ⟨f, hg⟩
    obtain ⟨root, table⟩ := c
    cases table with
    | some table => cases hg
    | none =>
      rw [Cache.get_snd, hg]
      exact hg

lemma get_of_none (h : c.table = none) (t : FileTree) : (c.get t).1 = ofRepository t c.root := by
  unfold Cache.get
  rw [h]
  cases ofRepository t c.root <;> rfl

lemma get_congr (h : ofRepository s c.root = ofRepository t c.root) : (c.get s).1 = (c.get t).1 := by
  rw [Cache.get, Cache.get, h]

end Caching

end LayoutSync.ImportTable
