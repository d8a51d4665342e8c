import LayoutSync.Proofs.Json.Grammar

namespace LayoutSync.Json

section Skipping

def PassedBy (skip : List Char → Except Fault (List Char)) (t : List Char) : Prop :=
  ∀ r, Ends r → ∃ b, Blank b ∧ skip (t ++ r) = .ok (b ++ r)

variable {skip : List Char → Except Fault (List Char)} {ts : List (List Char)} {b : List Char}

structure PassesList (bracket : Char) (pass : List Char → Except Fault (List Char))
    (go : Nat → Bool → List Char → Except Fault (List Char)) : Prop where
  closes : bracket = ']' ∨ bracket = '}'
  close {n : Nat} {first : Bool} {cs s : List Char} (h : skipSpace cs = bracket :: s) :
    go (n + 1) first cs = .ok s
  first {n : Nat} {cs s : List Char} {c : Char} (h : skipSpace cs = c :: s) (hc : c ≠ bracket) :
    go (n + 1) true cs = pass (skipSpace cs) >>= go n false
  next {n : Nat} {cs s : List Char} (h : skipSpace cs = ',' :: s) :
    go (n + 1) false cs = pass s >>= go n false

lemma passesList_items (skip : List Char → Except Fault (List Char)) :
    PassesList ']' skip (skipValue.skipItems skip) where
  closes := .inl rfl
  close h := by
    rw [skipValue.skipItems.eq_def]
    dsimp only
    rw [h]
    rfl
  first h hc := by
    rw [skipValue.skipItems.eq_def]
    dsimp only
    rw [h]
    dsimp only
    rw [if_neg hc]
    rfl
  next h := by
    rw [skipValue.skipItems.eq_def]
    dsimp only
    rw [h]
    rfl

lemma passesList_members (skip : List Char → Except Fault (List Char)) :
    PassesList '}' (fun cs => skipValue.member skip (skipSpace cs)) (skipValue.skipMembers skip) where
  closes := .inr rfl
  close h := by
    rw [skipValue.skipMembers.eq_def]
    dsimp only
    rw [h]
    rfl
  first h hc := by
    rw [skipSpace_skipSpace, skipValue.skipMembers.eq_def]
    dsimp only
    rw [h]
    dsimp only
    rw [if_neg hc]
    rfl
  next h := by
    rw [skipValue.skipMembers.eq_def]
    dsimp only
    rw [h]
    rfl

namespace PassesList

variable {bracket : Char} {pass : List Char → Except Fault (List Char)}
  {go : Nat → Bool → List Char → Except Fault (List Char)}

lemma isSpace_bracket (hg : PassesList bracket pass go) : isSpace bracket = false := by
  rcases hg.closes with rfl | rfl
  · rfl
  · rfl

lemma ends_bracket (hg : PassesList bracket pass go) (r : List Char) : Ends (bracket :: r) := by
  rcases hg.closes with rfl | rfl
  · exact Json.ends_bracket r
  · exact ends_brace r

lemma parts (hg : PassesList bracket pass go) (h : ∀ t ∈ ts, PassedBy pass t) (hb : Blank b)
    (r : List Char) {n : Nat} (hn : ts.length < n) :
    go n false (b ++ (ts.flatMap (',' :: ·) ++ bracket :: r)) = .ok r := by
  induction ts generalizing b n with
  | nil =>
    obtain ⟨n, rfl⟩ := Nat.exists_eq_succ_of_ne_zero (Nat.ne_zero_of_lt hn)
    apply hg.close
    rw [List.flatMap_nil, List.nil_append, skipSpace_blank hb,
      skipSpace_of_not_isSpace hg.isSpace_bracket]
  | cons t ts ih =>
    obtain ⟨n, rfl⟩ := Nat.exists_eq_succ_of_ne_zero (Nat.ne_zero_of_lt hn)
    obtain ⟨d, hd, he⟩ := h t List.mem_cons_self _ (ends_flatMap ts (hg.ends_bracket r))
    have hi := ih (fun u hu => h u (List.mem_cons_of_mem _ hu)) hd (Nat.lt_of_succ_lt_succ hn)
    have hcomma : skipSpace (b ++ ',' :: (t ++ (ts.flatMap (',' :: ·) ++ bracket :: r))) =
        ',' :: (t ++ (ts.flatMap (',' :: ·) ++ bracket :: r)) := by
      rw [skipSpace_blank hb, skipSpace_of_not_isSpace rfl]
    rw [List.flatMap_cons, List.append_assoc, List.cons_append, hg.next hcomma, he]
    exact hi

lemma joined (hg : PassesList bracket pass go) (hs : ∀ cs, pass (skipSpace cs) = pass cs)
    (h : ∀ t ∈ ts, Begins t ∧ PassedBy pass t) {body : List Char} (hj : Joined ts body)
    (r : List Char) {n : Nat} (hn : ts.length < n) : go n true (body ++ bracket :: r) = .ok r := by
  obtain ⟨n, rfl⟩ := Nat.exists_eq_succ_of_ne_zero (Nat.ne_zero_of_lt hn)
  cases hj with
  | none hb =>
    apply hg.close
    rw [skipSpace_blank hb, skipSpace_of_not_isSpace hg.isSpace_bracket]
  | some t ts =>
    obtain ⟨hbegin, hpass⟩ := h t List.mem_cons_self
    obtain ⟨d, hd, he⟩ := hpass _ (ends_flatMap ts (hg.ends_bracket r))
    obtain ⟨c, s, hskip, h1, h2⟩ := hbegin.skipSpace
    have hne : c ≠ bracket := by
      rcases hg.closes with rfl | rfl
      · exact h1
      · exact h2
    have hrest := hg.parts (fun u hu => (h u (List.mem_cons_of_mem _ hu)).2) hd r
      (Nat.lt_of_succ_lt_succ hn)
    rw [List.append_assoc, hg.first (hskip _) hne, hs, he]
    exact hrest

end PassesList

lemma passedBy_member {k t : List Char} (hk : IsKey k) (h : PassedBy skip t) :
    PassedBy (fun cs => skipValue.member skip (skipSpace cs)) (k ++ ':' :: t) := by
  intro r hr
  obtain ⟨cs, hcs, hp⟩ := hk
  obtain ⟨d, hd, hskip⟩ := hp.skipSpace rfl
  obtain ⟨b, hb, he⟩ := h r hr
  refine ⟨b, hb, ?_⟩
  dsimp only
  rw [List.append_assoc, List.cons_append, hskip, skipValue.member, if_pos rfl, skipString_isString hcs]
  simp only [ok_bind, readColon_blank hd, he]

lemma skipValue_skipSpace (fuel : Nat) (cs : List Char) :
    skipValue (fuel + 1) (skipSpace cs) = skipValue (fuel + 1) cs := by
  rw [skipValue.eq_def, skipValue.eq_def (fuel + 1) cs]
  dsimp only
  rw [skipSpace_skipSpace]

lemma passedBy_of_padded {c : Char} {s cs : List Char} {fuel : Nat} (hp : Padded (c :: s) cs)
    (hc : isSpace c = false) (h : ∀ r, Ends r → skipValue (fuel + 1) (c :: (s ++ r)) = .ok r) :
    PassedBy (skipValue (fuel + 1)) cs := by
  intro r hr
  obtain ⟨d, hd, hskip⟩ := hp.skipSpace hc
  refine ⟨d, hd, ?_⟩
  rw [← skipValue_skipSpace, hskip, h _ (ends_blank_append hd hr)]

lemma skipValue_magnitude {n r : List Char} (h : IsMagnitude n) (hr : Ends r) (fuel : Nat) :
    skipValue (fuel + 1) (n ++ r) = .ok r ∧ skipValue (fuel + 1) ('-' :: (n ++ r)) = .ok r := by
  have hn := skipMagnitude_append h hr
  refine ⟨?_, hn⟩
  obtain ⟨c, s, rfl, hc⟩ := isDigit_head h
  rw [List.cons_append] at hn ⊢
  rw [skipValue.eq_def]
  dsimp only
  rw [skipSpace_of_not_isSpace (not_isSpace_of_isDigit hc)]
  split
  next he => exact absurd (List.cons.inj he).1 (ne_of_isDigit hc rfl)
  next he => exact absurd (List.cons.inj he).1 (ne_of_isDigit hc rfl)
  next he => exact absurd (List.cons.inj he).1 (ne_of_isDigit hc rfl)
  next he => exact absurd (List.cons.inj he).1 (ne_of_isDigit hc rfl)
  · have hd : startsWithDigit (c :: (s ++ r)) = true := hc
    rw [if_pos hd, hn]

lemma skipValue_word {w : List Char} (h : w ∈ ["null".toList, "true".toList, "false".toList])
    (fuel : Nat) (r : List Char) : skipValue (fuel + 1) (w ++ r) = .ok r := by
  simp only [List.mem_cons, List.not_mem_nil, or_false] at h
  rcases h with rfl | rfl | rfl <;> rfl

theorem skipValue_isJson {cs : List Char} (h : IsJson cs) {fuel : Nat} (hf : cs.length < fuel) :
    PassedBy (skipValue fuel) cs := by
  -- The fuel is more than the length, and what is in brackets is shorter by the two of them.
  induction h generalizing fuel with
  | @word w cs h hp =>
    obtain ⟨fuel, rfl⟩ := Nat.exists_eq_succ_of_ne_zero (Nat.ne_zero_of_lt hf)
    have hw := skipValue_word h fuel
    simp only [List.mem_cons, List.not_mem_nil, or_false] at h
    rcases h with rfl | rfl | rfl
    · exact passedBy_of_padded hp rfl fun r _ => hw r
    · exact passedBy_of_padded hp rfl fun r _ => hw r
    · exact passedBy_of_padded hp rfl fun r _ => hw r
  | @number n cs h hp =>
    obtain ⟨fuel, rfl⟩ := Nat.exists_eq_succ_of_ne_zero (Nat.ne_zero_of_lt hf)
    have hn := fun r hr => skipValue_magnitude (r := r) h hr fuel
    rcases hp with hp | hp
    · obtain ⟨c, s, rfl, hc⟩ := isDigit_head h
      exact passedBy_of_padded hp (not_isSpace_of_isDigit hc) fun r hr => (hn r hr).1
    · exact passedBy_of_padded hp rfl fun r hr => (hn r hr).2
  | @string s cs h hp =>
    obtain ⟨fuel, rfl⟩ := Nat.exists_eq_succ_of_ne_zero (Nat.ne_zero_of_lt hf)
    exact passedBy_of_padded hp rfl fun r _ => skipString_isString h r
  | @array ts body cs h hj hp ih =>
    have hlen := length_of_padded hp
    rw [List.length_cons, List.length_append, List.length_singleton] at hlen
    obtain ⟨fuel, rfl⟩ : ∃ k, fuel = k + 1 + 1 := ⟨fuel - 2, by omega⟩
    have hts := hj.length_le fun t ht => (h t ht).begins.ne_nil
    have hitems : ∀ t ∈ ts, Begins t ∧ PassedBy (skipValue (fuel + 1)) t := by
      intro t ht
      have ht' := hj.length_mem ht
      exact ⟨(h t ht).begins, ih t ht (by omega)⟩
    refine passedBy_of_padded hp rfl fun r _ => ?_
    rw [List.append_assoc, List.singleton_append]
    refine (passesList_items _).joined (skipValue_skipSpace fuel) hitems hj r ?_
    rw [List.length_append, List.length_cons]
    omega
  | @object ms body cs hk h hj hp ih =>
    have hlen := length_of_padded hp
    rw [List.length_cons, List.length_append, List.length_singleton] at hlen
    obtain ⟨fuel, rfl⟩ : ∃ k, fuel = k + 1 + 1 := ⟨fuel - 2, by omega⟩
    have hmembers : ∀ t ∈ ms.map fun m => m.1 ++ ':' :: m.2,
        Begins t ∧ PassedBy (fun cs => skipValue.member (skipValue (fuel + 1)) (skipSpace cs)) t := by
      intro t ht
      have ht' := hj.length_mem ht
      obtain ⟨m, hm, rfl⟩ := List.mem_map.mp ht
      rw [List.length_append, List.length_cons] at ht'
      exact ⟨(hk m hm).begins _, passedBy_member (hk m hm) (ih m hm (by omega))⟩
    have hts := hj.length_le fun t ht => (hmembers t ht).1.ne_nil
    refine passedBy_of_padded hp rfl fun r _ => ?_
    rw [List.append_assoc, List.singleton_append]
    refine (passesList_members _).joined (fun cs => by rw [skipSpace_skipSpace]) hmembers hj r ?_
    rw [List.length_append, List.length_cons]
    omega

end Skipping

end LayoutSync.Json
