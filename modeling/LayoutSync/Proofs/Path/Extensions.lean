import LayoutSync.Proofs.Path.Relative

namespace LayoutSync.Path

open Text

def idleText (es : List (List Char)) : List Char := es.flatMap ('/' :: ·)

lemma ofNames_cons_eq (n : List Char) (es : List (List Char)) : ofNames (n :: es) = n ++ idleText es := by
  induction es generalizing n with
  | nil => simp [ofNames, idleText]
  | cons e es ih =>
    rw [ofNames_cons n (List.cons_ne_nil e es), ih]
    rfl

lemma ofNames_append_eq (ks : List (List Char)) (n : List Char) (es : List (List Char)) :
    ofNames (ks ++ n :: es) = ofNames (ks ++ [[]]) ++ (n ++ idleText es) := by
  induction ks with
  | nil =>
    rw [List.nil_append, ofNames_cons_eq]
    simp [ofNames]
  | cons k ks ih =>
    rw [List.cons_append, List.cons_append, ofNames_cons k (by simp), ofNames_cons k (by simp), ih,
      List.append_assoc, List.cons_append]

lemma take_idleText {es : List (List Char)} (he : ∀ e ∈ es, isIdle e = true) (k : Nat) :
    ∃ fs, (∀ f ∈ fs, isIdle f = true) ∧ (idleText es).take k = idleText fs := by
  induction es generalizing k with
  | nil => exact ⟨[], by simp, List.take_nil⟩
  | cons e es ih =>
    have hes : ∀ f ∈ es, isIdle f = true := fun f hf => he f (List.mem_cons_of_mem _ hf)
    have hi : e = [] ∨ e = ['.'] := by simpa [isIdle] using he e List.mem_cons_self
    rcases hi with rfl | rfl
    · cases k with
      | zero => exact ⟨[], by simp, rfl⟩
      | succ k =>
        obtain ⟨fs, hfs, ht⟩ := ih hes k
        refine ⟨[] :: fs, List.forall_mem_cons.mpr ⟨rfl, hfs⟩, ?_⟩
        exact congrArg ('/' :: ·) ht
    · rcases k with _ | _ | k
      · exact ⟨[], by simp, rfl⟩
      · exact ⟨[[]], by simp [isIdle], rfl⟩
      · obtain ⟨fs, hfs, ht⟩ := ih hes k
        refine ⟨['.'] :: fs, List.forall_mem_cons.mpr ⟨rfl, hfs⟩, ?_⟩
        exact congrArg (fun r => '/' :: '.' :: r) ht

lemma take_extension {es : List (List Char)} (he : ∀ e ∈ es, isIdle e = true) (e : List Char) :
    ∃ d fs, (∀ c ∈ d, c ∈ e) ∧ (∀ f ∈ fs, isIdle f = true) ∧
      (e ++ idleText es).take (idleText es).length = d ++ idleText fs := by
  by_cases hshort : e.length ≤ (idleText es).length
  · obtain ⟨fs, hfs, hcut⟩ := take_idleText he ((idleText es).length - e.length)
    refine ⟨e, fs, fun c hc => hc, hfs, ?_⟩
    rw [List.take_append, List.take_of_length_le hshort, hcut]
  · refine ⟨e.take (idleText es).length, [], fun c hc => List.mem_of_mem_take hc,
      List.forall_mem_nil _, ?_⟩
    rw [List.take_append_of_le_length (by omega)]
    exact (List.append_nil _).symm

lemma splitExtension_eq {stem e : List Char} (hs : stem ≠ []) (he : '.' ∉ e) :
    splitExtension (stem ++ '.' :: e) = (stem, some e) := by
  have hall : ∀ c ∈ e.reverse, decide (c ≠ '.') = true := by
    intro c hc
    rw [decide_eq_true_eq]
    rintro rfl
    exact he (List.mem_reverse.mp hc)
  have hext : ((stem ++ '.' :: e).reverse.takeWhile (· ≠ '.')).reverse = e := by
    rw [List.reverse_append, List.reverse_cons, List.append_assoc,
      List.takeWhile_append_of_pos hall]
    simp
  have hlen : (stem ++ '.' :: e).length - e.length - 1 = stem.length := by
    simp only [List.length_append, List.length_cons]
    omega
  have hne : ¬ e.length = (stem ++ '.' :: e).length := by
    simp only [List.length_append, List.length_cons]
    omega
  rw [splitExtension, hext, hlen, List.take_left, if_neg]
  simpa [hs] using hne

section Absolute

variable {p : String} {ks es : List (List Char)} {m stem e : List Char}

lemma names_of_absolute {ns : List (List Char)} (hp : p.toList = '/' :: ofNames ns) (hne : ns ≠ [])
    (hs : ∀ n ∈ ns, '/' ∉ n) : lead p.toList = ['/'] ∧ names p.toList = ns := by
  rw [hp]
  exact ⟨rfl, pieces_ofNames hne hs⟩

lemma trimEnd_append_idle (hm : isIdle m = false) (he : ∀ e ∈ es, isIdle e = true) :
    trimEnd (ks ++ m :: es) = ks ++ [m] := by
  have hs : ks ++ m :: es = (ks ++ [m]) ++ es := by simp
  rw [hs, trimEnd_eq, List.rdropWhile, List.reverse_append, List.dropWhile_append_of_pos,
    List.reverse_append]
  · change ((m :: ks.reverse).dropWhile isIdle).reverse = _
    rw [List.dropWhile_cons_of_neg (by simp [hm])]
    simp
  · intro f hf
    exact he f (List.mem_reverse.mp hf)

lemma isIdle_dotted (hs : stem ≠ []) (e : List Char) : isIdle (stem ++ '.' :: e) = false := by
  apply isIdle_of_length
  have hl := List.length_pos_iff.mpr hs
  rw [List.length_append, List.length_cons]
  omega

lemma dotted_ne (hs : stem ≠ []) (hd : stem ≠ ['.']) (e : List Char) : stem ++ '.' :: e ≠ ['.', '.'] := by
  intro h
  have hl := congrArg List.length h
  have hp := List.length_pos_iff.mpr hs
  simp only [List.length_append, List.length_cons, List.length_nil] at hl
  have h1 : stem.length = 1 := by omega
  obtain ⟨c, rfl⟩ := List.length_eq_one_iff.mp h1
  exact hd (by rw [(List.cons.inj h).1])

lemma fileName?_absolute (hp : p.toList = '/' :: ofNames (ks ++ m :: es))
    (hs : ∀ n ∈ ks ++ m :: es, '/' ∉ n) (hm : isIdle m = false) (hu : m ≠ ['.', '.'])
    (he : ∀ e ∈ es, isIdle e = true) : fileName? p = some (String.ofList m) := by
  obtain ⟨_, hn⟩ := names_of_absolute hp (by simp) hs
  rw [fileName?, hn, trimEnd_append_idle hm he, List.getLast?_concat]
  exact if_neg hu

lemma setExtension_absolute (hp : p.toList = '/' :: ofNames (ks ++ (stem ++ '.' :: e) :: es))
    (hs : ∀ n ∈ ks ++ (stem ++ '.' :: e) :: es, '/' ∉ n) (hstem : stem ≠ []) (hdot : stem ≠ ['.'])
    (hpt : '.' ∉ e) (he : ∀ e ∈ es, isIdle e = true) (extension : String) :
    (setExtension p extension).toList =
      '/' :: ofNames (ks ++ [stem ++ '.' :: extension.toList]) := by
  have hm := isIdle_dotted hstem e
  have hu := dotted_ne hstem hdot e
  have hf := fileName?_absolute hp hs hm hu he
  obtain ⟨hl, hn⟩ := names_of_absolute hp (by simp) hs
  have hstem? : stem? p = some (String.ofList stem) := by
    rw [stem?, hf, Option.map_some, String.toList_ofList, splitExtension_eq hstem hpt]
  rw [setExtension, hstem?]
  dsimp only
  rw [hl, hn, trimEnd_append_idle hm he, List.dropLast_concat, String.toList_append,
    String.toList_append, String.toList_ofList, String.toList_ofList, ofNames_concat ks stem,
    ofNames_concat ks (stem ++ _)]
  simp

lemma names_clean (hks : ∀ k ∈ ks, '/' ∉ k) (hm : '/' ∉ m) (he : ∀ e ∈ es, isIdle e = true) :
    ∀ n ∈ ks ++ m :: es, '/' ∉ n := by
  intro n hn
  rcases List.mem_append.mp hn with hn | hn
  · exact hks n hn
  · rcases List.mem_cons.mp hn with rfl | hn
    · exact hm
    · have hi : n = [] ∨ n = ['.'] := by simpa [isIdle] using he n hn
      rcases hi with rfl | rfl <;> decide

lemma withExtension_absolute (hp : p.toList = '/' :: ofNames (ks ++ (stem ++ '.' :: e) :: es))
    (hs : ∀ n ∈ ks ++ (stem ++ '.' :: e) :: es, '/' ∉ n) (hstem : stem ≠ []) (hdot : stem ≠ ['.'])
    (hpt : '.' ∉ e) (he : ∀ e ∈ es, isIdle e = true) (extension : String) :
    (withExtension p extension).toList =
      '/' :: ofNames (ks ++ [stem ++ '.' :: extension.toList]) := by
  have hu : stem ++ '.' :: e ≠ ['.', '.'] := dotted_ne hstem hdot e
  have hext : extension? p = some (String.ofList e) := by
    rw [extension?, fileName?_absolute hp hs (isIdle_dotted hstem e) hu he, Option.bind_some,
      String.toList_ofList, splitExtension_eq hstem hpt]
    rfl
  have hparts : p.toList = '/' :: ofNames (ks ++ [[]]) ++ stem ++ ['.'] ++ (e ++ idleText es) := by
    rw [hp, ofNames_append_eq]
    simp
  have hcount : p.toList.length - e.length =
      ('/' :: ofNames (ks ++ [[]]) ++ stem ++ ['.']).length + (idleText es).length := by
    have hlen : (e ++ idleText es).length = e.length + (idleText es).length := List.length_append
    rw [hparts, List.length_append, hlen]
    omega
  obtain ⟨d, fs, hd, hfs, hcut⟩ := take_extension he e
  have hks : ∀ k ∈ ks, '/' ∉ k := fun k hk => hs k (by simp [hk])
  have hclean : '/' ∉ stem ++ '.' :: d := by
    intro h
    have hname : '/' ∉ stem ++ '.' :: e := hs _ (by simp)
    simp only [List.mem_append, List.mem_cons] at h hname
    exact hname (h.imp_right (Or.imp_right (hd _)))
  rw [withExtension, hext]
  dsimp only
  refine setExtension_absolute ?_ (names_clean hks hclean hfs) hstem hdot (fun h => hpt (hd _ h)) hfs
    extension
  rw [String.length_ofList, String.toList_ofList, hcount, hparts, List.take_length_add_append, hcut,
    ofNames_append_eq ks (stem ++ '.' :: d) fs]
  simp

end Absolute

end LayoutSync.Path
