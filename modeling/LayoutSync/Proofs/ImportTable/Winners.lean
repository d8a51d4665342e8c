import LayoutSync.Proofs.ImportTable.Declarations

/-!
Where several files of a repository declare one type, the first of them is imported. The table has
each declared type, and the types stand in the order in which those first files are found.
-/

namespace LayoutSync.ImportTable

open FileTree

section Entering

variable {α : Type}

lemma get?_map (key statement : α → String) (ws : List α) (n : String) :
    Assoc.get? n (ws.map fun a => (key a, statement a)) =
      (ws.find? (key · = n)).map statement := by
  induction ws with
  | nil => rfl
  | cons w ws ih =>
    rw [List.map_cons, Assoc.get?, ih, List.find?_cons]
    by_cases h : key w = n <;> simp [h]

lemma exists_winners (key module : α → String) (es : List α) : ∃ ws : List α, ws.Sublist es ∧
    (ofList (es.map fun a => (key a, module a))).statements.entries =
      ws.map (fun a => (key a, importStatement (key a) (module a))) ∧
    ∀ n, ws.find? (key · = n) = es.find? (key · = n) := by
  -- From the end: the last declaration is entered last, and only if its name is new.
  induction es using List.reverseRecOn with
  | nil => exact ⟨[], List.Sublist.slnil, rfl, fun _ => rfl⟩
  | append_singleton es e ih =>
    obtain ⟨ws, hsub, hent, hfind⟩ := ih
    have hstep : ofList ((es ++ [e]).map fun a => (key a, module a)) =
        (ofList (es.map fun a => (key a, module a))).insert (key e) (module e) := by
      rw [ofList, List.map_append, List.foldl_append]
      rfl
    generalize ofList (es.map fun a => (key a, module a)) = table at hent hstep
    have hget : table.statements.get? (key e) =
        (es.find? (key · = key e)).map fun a => importStatement (key a) (module a) := by
      rw [Dict.get?, hent, get?_map key fun a => importStatement (key a) (module a), hfind]
    rw [hstep, insert, contains, Dict.contains, hget, Option.isSome_map]
    cases he : es.find? (key · = key e) with
    | some w =>
      refine ⟨ws, hsub.trans (List.sublist_append_left _ _), hent, fun n => ?_⟩
      rw [hfind, List.find?_append]
      by_cases hn : key e = n
      · rw [← hn, he]
        rfl
      · simp [hn]
    | none =>
      refine ⟨ws ++ [e], hsub.append (List.Sublist.refl [e]), ?_, fun n => ?_⟩
      · have hk : key e ∉ Assoc.keys table.statements.entries := by
          rw [← Assoc.get?_eq_none_iff]
          exact hget.trans (by rw [he]; rfl)
        rw [if_neg (by simp), List.map_append, ← hent]
        exact Assoc.put_of_not_mem hk
      · rw [List.find?_append, List.find?_append, hfind]

end Entering

structure First (t : FileTree) (l : Location) (n : String) (f : Location) : Prop where
  declares : Declares t l n f
  least : ∀ k, Declares t l n k → k = f ∨ Precedes t l f k

section Repository

variable {t : FileTree} {root n : String} {l : Location} {ps : List (List String)}
  {a : String × Location}

lemma first_of_find? (h : Searched t root l ps)
    (ha : (candidates t root l ps).find? (fun b => b.1 = n) = some a) : a.1 = n ∧ First t l n a.2 := by
  obtain ⟨hn, as, bs, hes, has⟩ := List.find?_eq_some_iff_append.mp ha
  rw [decide_eq_true_eq] at hn
  have hp := candidates_pairwise h
  refine ⟨hn, (mem_candidates h).mp ?_, fun k hk => ?_⟩
  · rw [hes, ← hn]
    exact List.mem_append_right _ List.mem_cons_self
  · rw [hes] at hp
    have hm := (mem_candidates h).mpr hk
    rw [hes] at hm
    rcases List.mem_append.mp hm with hm | hm
    · exact absurd (has _ hm) (by simp)
    · rcases List.mem_cons.mp hm with rfl | hm
      · exact .inl rfl
      · exact .inr ((List.pairwise_cons.mp (List.pairwise_append.mp hp).2.1).1 _ hm)

lemma exists_first (h : Searched t root l ps) {f : Location} (hf : Declares t l n f) :
    ∃ a, (candidates t root l ps).find? (fun b => b.1 = n) = some a := by
  rw [← Option.isSome_iff_exists, List.find?_isSome]
  exact ⟨(n, f), (mem_candidates h).mpr hf, by simp⟩

lemma find?_candidates (h : Searched t root l ps) :
    (candidates t root l ps).find? (fun b => b.1 = n) = some a ↔ a.1 = n ∧ First t l n a.2 := by
  refine ⟨first_of_find? h, ?_⟩
  rintro ⟨rfl, ha⟩
  obtain ⟨b, hb⟩ := exists_first h ha.declares
  obtain ⟨hb1, hb2⟩ := first_of_find? h hb
  rcases hb2.least a.2 ha.declares with he | hlt
  · rw [hb, Prod.ext hb1.symm he]
  · rcases ha.least b.2 hb2.declares with he | hlt'
    · rw [hb, Prod.ext hb1 he]
    · exact absurd hlt' hlt.asymm

lemma nodup_candidates (h : Searched t root l ps) : (candidates t root l ps).Nodup := by
  refine (candidates_pairwise h).imp fun {a b} hab he => ?_
  subst he
  exact hab.asymm hab

lemma mem_winners_iff {ws : List (String × Location)} (h : Searched t root l ps)
    (hkeys : (ws.map Prod.fst).Nodup)
    (hfind : ∀ n, ws.find? (·.1 = n) = (candidates t root l ps).find? (·.1 = n)) :
    a ∈ ws ↔ First t l a.1 a.2 := by
  constructor
  · intro ha
    cases hf : ws.find? (fun b => b.1 = a.1) with
    | none => exact absurd (List.find?_eq_none.mp hf a ha) (by simp)
    | some b =>
      have hba : b.1 = a.1 := by simpa using List.find?_some hf
      obtain rfl := List.inj_on_of_nodup_map hkeys (List.mem_of_find?_eq_some hf) ha hba
      exact (first_of_find? h ((hfind b.1).symm.trans hf)).2
  · intro ha
    have hf := (find?_candidates h).mpr ⟨rfl, ha⟩
    exact List.mem_of_find?_eq_some ((hfind a.1).trans hf)

/-- The table of a repository that can be read has exactly the types that are declared in its
packages, each imported from the first file that declares it. Every such file is entered once, in
order, and the types stand in the order in which their first files are found. -/
theorem ofRepository_first {t : FileTree} {root : String} {l : Location} (ht : t.WellFormed)
    (hl : t.lookup root = .ok (l, .directory)) (hr : Readable t root l)
    (hb : ∀ ns, t.find? (l ++ ns) ≠ none → ∀ n ∈ ns, '\\' ∉ n.toList) :
    let path := fun a : String × Location => "/".intercalate ((a.2.drop l.length).dropLast ++ [a.1])
    ∃ table, ofRepository t root = .ok table ∧
    (∀ n, table.contains n = true ↔ ∃ f, Declares t l n f) ∧
    (∀ n s, table.get? n = some s ↔ ∃ f, First t l n f ∧ s = importStatement n (path (n, f))) ∧
    ∃ found winners : List (String × Location),
      found.Nodup ∧ (∀ n f, (n, f) ∈ found ↔ Declares t l n f) ∧
      found.Pairwise (fun a b => Precedes t l a.2 b.2) ∧
      table = found.foldl (fun table a => table.insert a.1 (path a)) empty ∧
      winners.Sublist found ∧ (∀ n f, (n, f) ∈ winners ↔ First t l n f) ∧
      table.statements.entries = winners.map fun a => (a.1, importStatement a.1 (path a)) := by
  intro path
  have htop := (lookup_directory ht hl).2
  obtain ⟨ps, hps⟩ := exists_packages ht hr (enough_root htop).1
  have h : Searched t root l ps := ⟨ht, htop, hr, hps⟩
  obtain ⟨table, htable⟩ : ∃ table, table = ofList ((candidates t root l ps).map fun a =>
    (a.1, path a)) := ⟨_, rfl⟩
  refine ⟨table, ?_, ?_⟩
  · rw [ofRepository, if_pos (isDirectory_iff_lookup.mpr ⟨l, hl⟩), declarations_eq h hb, htable]
    rfl
  obtain ⟨ws, hsub, hent, hfind⟩ := exists_winners Prod.fst path (candidates t root l ps)
  rw [← htable] at hent
  have hget : ∀ n, table.get? n = ((candidates t root l ps).find? (fun b => b.1 = n)).map fun a =>
      importStatement a.1 (path a) := by
    intro n
    rw [get?, Dict.get?, hent, get?_map Prod.fst fun a => importStatement a.1 (path a), hfind]
  have hkeys : (ws.map Prod.fst).Nodup := by
    have hd := table.statements.nodup_keys
    rwa [hent, Assoc.keys, List.map_map] at hd
  have hwinners := fun n f => mem_winners_iff (a := (n, f)) h hkeys hfind
  refine ⟨fun n => ?_, fun n s => ?_, candidates t root l ps, ws, nodup_candidates h,
    fun n f => mem_candidates h, candidates_pairwise h, ?_, hsub, hwinners, hent⟩
  · have hc : table.contains n = (table.get? n).isSome := rfl
    rw [hc, hget, Option.isSome_map, List.find?_isSome]
    constructor
    · rintro ⟨⟨m, f⟩, hm, hn⟩
      obtain rfl : m = n := by simpa using hn
      exact ⟨f, (mem_candidates h).mp hm⟩
    · rintro ⟨f, hf⟩
      exact ⟨(n, f), (mem_candidates h).mpr hf, by simp⟩
  · rw [hget, Option.map_eq_some_iff]
    constructor
    · rintro ⟨⟨m, f⟩, ha, rfl⟩
      obtain ⟨rfl, hf⟩ := first_of_find? h ha
      exact ⟨f, hf, rfl⟩
    · rintro ⟨f, hf, rfl⟩
      exact ⟨(n, f), (find?_candidates h).mpr ⟨rfl, hf⟩, rfl⟩
  · rw [htable, ofList, List.foldl_map]

def clashTree : FileTree where
  entries := [
    (["m"], .directory), (["m", "z"], .directory), (["m", "z", "package.json"], .file ⟨#[]⟩),
    (["m", "z", "B.d.ts"], .file ⟨#[]⟩), (["m", "a"], .directory), (["m", "a", "x"], .directory),
    (["m", "a", "x", "package.json"], .file ⟨#[]⟩), (["m", "a", "x", "B.d.ts"], .file ⟨#[]⟩)]

lemma clashTree_plain : ∀ ns, clashTree.find? (["m"] ++ ns) ≠ none → ∀ n ∈ ns, '\\' ∉ n.toList := by
  have hk : ∀ f ∈ Assoc.keys clashTree.entries, ∀ n ∈ f.drop 1, '\\' ∉ n.toList := by
    decide +kernel
  intro ns hf n hn
  rw [find?, if_neg (by simp), ne_eq, Assoc.get?_eq_none_iff, not_not] at hf
  exact hk _ hf n hn

theorem ofRepository_first_clash :
    clashTree.WellFormed ∧ clashTree.lookup "/m" = .ok (["m"], .directory) ∧
    Readable clashTree "/m" ["m"] ∧
    (∀ ns, clashTree.find? (["m"] ++ ns) ≠ none → ∀ n ∈ ns, '\\' ∉ n.toList) ∧
    ∃ table, ofRepository clashTree "/m" = .ok table ∧ table.contains "B" = true ∧
      ∃ f s, First clashTree ["m"] "B" f ∧ table.get? "B" = some s := by
  have ht : clashTree.WellFormed := by decide +kernel
  have hl : clashTree.lookup "/m" = .ok (["m"], .directory) := rfl
  have hr : Readable clashTree "/m" ["m"] :=
    readable_of_entries ht (by decide +kernel) hl (by decide +kernel)
  obtain ⟨table, htable, h1, h2, _⟩ := ofRepository_first ht hl hr clashTree_plain
  have hc := (h1 "B").mpr ⟨["m", "z", "B.d.ts"], ⟨_, rfl⟩, rfl, ["m", "z"], by decide, by decide, _, rfl⟩
  refine ⟨ht, hl, hr, clashTree_plain, table, htable, hc, ?_⟩
  obtain ⟨s, hs⟩ := Option.isSome_iff_exists.mp hc
  obtain ⟨f, hf, rfl⟩ := (h2 "B" s).mp hs
  exact ⟨f, _, hf, hs⟩

end Repository

end LayoutSync.ImportTable
