import LayoutSync.Proofs.Json.Extent

namespace LayoutSync.Json

section Objects

variable {σ : Type} {member : σ → String → List Char → Except Fault (σ × List Char)} {s u : σ}
  {ms : List (List Char × List Char)} {k b r r' : List Char} {n : Nat}

def HasName (k : List Char) (name : String) : Prop :=
  ∃ r s, nextKey? true (k ++ r) = .ok (some (name, s))

inductive Took (member : σ → String → List Char → Except Fault (σ × List Char)) :
    σ → List String → σ → Prop
  | nil (s : σ) : Took member s [] s
  | cons {s t u : σ} {k : String} {ks : List String} {cs r : List Char}
    (h : member s k cs = .ok (t, r)) (hs : Took member t ks u) : Took member s (k :: ks) u

lemma nextKey?_isKey (h : IsKey k) : ∃ d, Blank d ∧ ∀ r o, nextKey? true (k ++ r) = .ok o →
    ∃ name, o = some (name, d ++ r) ∧ HasName k name := by
  obtain ⟨cs, hcs, hp⟩ := h
  obtain ⟨d, hd, hkey⟩ := nextKey?_padded hp
  refine ⟨d, hd, fun r o ho => ?_⟩
  have hread := ho
  rw [hkey] at hread
  obtain ⟨⟨ds, x⟩, hx, hread⟩ := bind_eq_ok.mp hread
  obtain rfl := Except.ok.inj hread
  obtain rfl := eq_of_readString hcs hx
  exact ⟨String.ofList ds, rfl, r, d ++ r, ho⟩

def TakesWhole (member : σ → String → List Char → Except Fault (σ × List Char)) : Prop :=
  ∀ s k d t, Blank d → IsJson t → Spans (member s k) (d ++ ':' :: t)

lemma readMembers_stop {first : Bool} (hb : Blank b)
    (h : readMembers member n first s (b ++ '}' :: r) = .ok (u, r')) : r' = r ∧ s = u := by
  cases n with
  | zero => cases h
  | succ n =>
    rw [readMembers, nextKey?_close hb] at h
    change Except.ok (s, passBracket '}' (b ++ '}' :: r)) = _ at h
    obtain ⟨rfl, rfl⟩ := Prod.mk.inj (Except.ok.inj h)
    exact ⟨passBracket_close hb r, rfl⟩

lemma readMembers_spans (hm : TakesWhole member) (hms : ∀ m ∈ ms, IsKey m.1 ∧ IsJson m.2)
    (hb : Blank b)
    (h : readMembers member n false s
      (b ++ ((ms.map fun m => m.1 ++ ':' :: m.2).flatMap (',' :: ·) ++ '}' :: r)) = .ok (u, r')) :
    r' = r ∧ ∃ ks, List.Forall₂ (fun m k => HasName m.1 k) ms ks ∧ Took member s ks u := by
  -- What is left to read always starts with the space behind a value.
  induction ms generalizing b n s with
  | nil =>
    obtain ⟨hr, rfl⟩ := readMembers_stop hb h
    exact ⟨hr, [], .nil, .nil s⟩
  | cons m ms ih =>
    obtain ⟨hk, ht⟩ := hms m List.mem_cons_self
    obtain ⟨d, hd, hkey⟩ := nextKey?_isKey hk
    obtain ⟨cs, _, hp⟩ := hk
    cases n with
    | zero => cases h
    | succ n =>
      rw [List.map_cons, List.flatMap_cons, List.append_assoc, List.cons_append, List.append_assoc,
        readMembers, nextKey?_comma hp hb] at h
      obtain ⟨o, ho, h⟩ := bind_eq_ok.mp h
      obtain ⟨k, rfl, hname⟩ := hkey _ o ho
      obtain ⟨⟨t, x⟩, hx, h⟩ := bind_eq_ok.mp h
      have htext := hm s k d m.2 hd ht _
        (ends_flatMap (ms.map fun m => m.1 ++ ':' :: m.2) (ends_brace r))
      rw [List.append_assoc] at htext
      obtain ⟨e, he, rfl⟩ := htext t x hx
      obtain ⟨hr, ks, hks, htook⟩ := ih (fun m hm => hms m (List.mem_cons_of_mem _ hm)) he h
      exact ⟨hr, k :: ks, .cons hname hks, .cons hx htook⟩

lemma readMembers_spans_joined {body : List Char} (hm : TakesWhole member)
    (hms : ∀ m ∈ ms, IsKey m.1 ∧ IsJson m.2) (hj : Joined (ms.map fun m => m.1 ++ ':' :: m.2) body)
    (h : readMembers member n true s (body ++ '}' :: r) = .ok (u, r')) :
    r' = r ∧ ∃ ks, List.Forall₂ (fun m k => HasName m.1 k) ms ks ∧ Took member s ks u := by
  cases n with
  | zero => cases h
  | succ n =>
    cases ms with
    | nil =>
      cases hj with
      | none hb =>
        obtain ⟨hr, rfl⟩ := readMembers_stop hb h
        exact ⟨hr, [], .nil, .nil s⟩
    | cons m ms =>
      cases hj with
      | some =>
        obtain ⟨cs, _, hp⟩ := (hms m List.mem_cons_self).1
        rw [List.append_assoc, List.append_assoc, readMembers_first hp] at h
        apply readMembers_spans hm hms blank_nil
        simp only [List.map_cons, List.flatMap_cons, List.nil_append, List.append_assoc,
          List.cons_append] at h ⊢
        exact h

end Objects

section Keys

lemma MemberText.Keyed.hasName {m : MemberText} {k : String} (h : m.Keyed) (hk : HasName m.key k) :
    k = m.name := by
  obtain ⟨d, _, hkey⟩ := nextKey?_keyed h
  obtain ⟨r, s, hname⟩ := hk
  rw [hkey] at hname
  exact (Prod.mk.inj (Option.some.inj (Except.ok.inj hname))).1.symm

end Keys

section Names

variable {cs r : List Char} {names : List String} {room : Nat} {name : String}

lemma known_ok {expected : String} (h : expectName.known names expected cs = .ok (name, r)) :
    expectString expected cs = .ok (name, r) := by
  obtain ⟨⟨n, x⟩, hx, h⟩ := bind_eq_ok.mp h
  dsimp only at h
  split at h
  · obtain ⟨rfl, rfl⟩ := Prod.mk.inj (Except.ok.inj h)
    exact hx
  · cases h

lemma expectName_ok (h : expectName names room cs = .ok (name, r)) :
    expectString "variant identifier" cs = .ok (name, r) ∨ ∃ x y z w, skipSpace cs = '{' :: x ∧
      expectString "variant identifier" x = .ok (name, y) ∧ readColon y = .ok z ∧
        expectNull z = .ok w ∧ skipSpace w = '}' :: r := by
  rw [expectName.eq_def] at h
  split at h
  · cases h
  next x _ hx =>
    obtain ⟨⟨n, y⟩, hy, h⟩ := bind_eq_ok.mp h
    obtain ⟨z, hz, h⟩ := bind_eq_ok.mp h
    obtain ⟨w, hw, h⟩ := bind_eq_ok.mp h
    split at h
    · cases h
    next c v hv =>
      split at h
      next hc =>
        obtain ⟨rfl, rfl⟩ := Prod.mk.inj (Except.ok.inj h)
        exact .inr ⟨x, y, z, w, hx, known_ok hy, hz, hw, hc ▸ hv⟩
      · cases h
  next x hx =>
    refine .inl ?_
    rw [← ignoresSpace_string, hx]
    exact known_ok h
  · cases h
  · cases h

lemma eq_of_nullMember {ms : List (List Char × List Char)} {body x y z r' : List Char} {e : String}
    (hms : ∀ m ∈ ms, IsKey m.1 ∧ IsJson m.2) (hj : Joined (ms.map fun m => m.1 ++ ':' :: m.2) body)
    (hstring : expectString e (body ++ '}' :: r) = .ok (name, x)) (hcolon : readColon x = .ok y)
    (hnull : expectNull y = .ok z) (hend : skipSpace z = '}' :: r') : r' = r := by
  obtain ⟨q, ds, hq, hs⟩ := expectString_ok hstring
  cases ms with
  | nil =>
    cases hj with
    | none hb =>
      rw [skipSpace_blank hb] at hq
      cases hq
  | cons m ms =>
    cases hj with
    | some =>
      obtain ⟨⟨k, hk, hp⟩, hv⟩ := hms m List.mem_cons_self
      obtain ⟨b, hb, hkey⟩ := hp.skipSpace rfl
      simp only [List.append_assoc, List.cons_append] at hq
      rw [hkey] at hq
      obtain ⟨_, rfl⟩ := List.cons.inj hq
      obtain rfl := eq_of_readString hk hs
      rw [readColon_blank hb] at hcolon
      obtain rfl := Except.ok.inj hcolon
      obtain ⟨u, hu, hword⟩ := expectNull_ok hnull
      obtain ⟨t, d, hrest, hd, rfl⟩ := hv.isRest hu
      -- Of the values that start like the null, only the null itself is read as one.
      cases hrest with
      | digit hc => cases hc
      | null =>
        obtain rfl := Except.ok.inj hword
        change skipSpace (d ++ _) = _ at hend
        rw [skipSpace_blank hd] at hend
        cases ms with
        | nil => exact (List.cons.inj hend).2.symm
        | cons => cases hend

lemma readsWhole_name (names : List String) (room : Nat) : ReadsWhole (expectName names room) where
  ignoresSpace := ignoresSpace_name names room
  spans h r hr a r' hread := by
    obtain hstring | ⟨x, y, z, w, hx, hstring, hcolon, hnull, hend⟩ := expectName_ok hread
    · exact (readsWhole_string _).spans h r hr a r' hstring
    · obtain ⟨s, d, hrest, hd, rfl⟩ := h.isRest hx
      refine ⟨d, hd, ?_⟩
      cases hrest with
      | object hms hj =>
        rw [List.append_assoc, List.singleton_append] at hstring
        exact eq_of_nullMember hms hj hstring hcolon hnull hend
      | digit hc => cases hc

end Names

namespace Shape

variable {σ α : Type} {s : Shape σ α} {room i : Nat} {t u : σ} {f : RecordField σ}
  {fs : List (RecordField σ)} {ts : List (List Char)} {b cs r x : List Char}

def ReadsFields (fs : List (RecordField σ)) : Prop :=
  ∀ f ∈ fs, ∀ room t, ReadsWhole (f.read room t)

lemma close_ok {a : α} (h : s.close t cs = .ok (a, r)) : s.finish t = .ok a ∧ r = cs := by
  rw [close] at h
  split at h
  next b hb =>
    obtain ⟨rfl, rfl⟩ := Prod.mk.inj (Except.ok.inj h)
    exact ⟨hb, rfl⟩
  · cases h

lemma takesWhole_readMember (hf : ReadsFields s.fields) (room : Nat) :
    TakesWhole (s.readMember room) := by
  intro t k d v hd hv r hr u r' h
  rw [readMember, List.append_assoc, List.cons_append] at h
  split at h
  next f hfind =>
    split at h
    · cases h
    · rw [readColon_blank hd] at h
      exact (hf f (List.mem_of_find?_eq_some hfind) room t).spans hv r hr u r' h
  · have hlen : v.length < (v ++ r).length + 1 := by
      rw [List.length_append]
      omega
    obtain ⟨b, hb, he⟩ := skipValue_isJson hv hlen r hr
    rw [readColon_blank hd] at h
    obtain ⟨y, hy, h⟩ := bind_eq_ok.mp h
    obtain rfl := Except.ok.inj hy
    obtain ⟨z, hz, h⟩ := bind_eq_ok.mp h
    obtain ⟨_, rfl⟩ := Prod.mk.inj (Except.ok.inj h)
    exact ⟨b, hb, Except.ok.inj (hz.symm.trans he)⟩

lemma readItems_stop (hnext : nextItem? (i = 0) cs = .ok none)
    (h : s.readItems room fs i t cs = .ok (u, x)) : x = cs := by
  cases fs with
  | nil => exact (Prod.mk.inj (Except.ok.inj h)).2.symm
  | cons f fs =>
    rw [readItems, hnext] at h
    rw [ok_bind] at h
    dsimp only at h
    split at h
    · cases h
    · split at h
      · cases h
      · exact (Prod.mk.inj (Except.ok.inj h)).2.symm

lemma readItems_step {v : List Char} (h : s.readItems room (f :: fs) i t cs = .ok (u, x))
    (hnext : nextItem? (i = 0) cs = .ok (some (skipSpace (v ++ r))))
    (hf : ReadsWhole (f.read room t)) (hv : IsJson v) (hr : Ends r) :
    ∃ w d, Blank d ∧ s.readItems room fs (i + 1) w (d ++ r) = .ok (u, x) := by
  rw [readItems, hnext] at h
  change (f.read room t _ >>= _) = _ at h
  rw [hf.ignoresSpace] at h
  obtain ⟨⟨w, y⟩, hy, h⟩ := bind_eq_ok.mp h
  obtain ⟨d, hd, rfl⟩ := hf.spans hv r hr w y hy
  exact ⟨w, d, hd, h⟩

lemma readItems_rest (hf : ReadsFields fs) (hts : ∀ t ∈ ts, IsJson t) (hb : Blank b)
    (h : s.readItems room fs (i + 1) t (b ++ (ts.flatMap (',' :: ·) ++ ']' :: r)) = .ok (u, x)) :
    ∃ (d : List Char) (vs : List (List Char)), Blank d ∧ x = d ++ (vs.flatMap (',' :: ·) ++ ']' :: r) := by
  induction fs generalizing i t b ts with
  | nil => exact ⟨b, ts, hb, (Prod.mk.inj (Except.ok.inj h)).2.symm⟩
  | cons f fs ih =>
    cases ts with
    | nil => exact ⟨b, [], hb, readItems_stop (nextItem?_close hb _ _) h⟩
    | cons v vs =>
      have hv := hts v List.mem_cons_self
      rw [List.flatMap_cons, List.append_assoc, List.cons_append] at h
      obtain ⟨w, d, hd, h⟩ := readItems_step h (nextItem?_next hb hv.begins _)
        (hf f List.mem_cons_self room t) hv (ends_flatMap vs (ends_bracket r))
      exact ih (fun g hg => hf g (List.mem_cons_of_mem _ hg))
        (fun z hz => hts z (List.mem_cons_of_mem _ hz)) hd h

lemma eq_of_readItems {body y : List Char} (hf : ReadsFields fs) (hts : ∀ t ∈ ts, IsJson t)
    (hj : Joined ts body) (h : s.readItems room fs 0 t (body ++ ']' :: r) = .ok (u, x))
    (hend : endArray x = .ok y) : y = r := by
  have hclose := endArray_ok hend
  cases hj with
  | none hb =>
    obtain rfl := readItems_stop (nextItem?_close hb _ _) h
    rw [skipSpace_blank hb, skipSpace_of_not_isSpace rfl] at hclose
    exact (List.cons.inj hclose).2.symm
  | some v vs =>
    have hv := hts v List.mem_cons_self
    rw [List.append_assoc] at h
    cases fs with
    | nil =>
      -- A record without fields leaves the first item, which does not close the array.
      obtain ⟨_, rfl⟩ := Prod.mk.inj (Except.ok.inj h)
      obtain ⟨c, z, hskip, hc, _⟩ := hv.begins.skipSpace
      rw [hskip] at hclose
      exact absurd (List.cons.inj hclose).1 hc
    | cons f fs =>
      obtain ⟨w, d, hd, h⟩ := readItems_step h (nextItem?_first hv.begins _)
        (hf f List.mem_cons_self room t) hv (ends_flatMap vs (ends_bracket r))
      obtain ⟨e, ws, he, rfl⟩ := readItems_rest (fun g hg => hf g (List.mem_cons_of_mem _ hg))
        (fun z hz => hts z (List.mem_cons_of_mem _ hz)) hd h
      cases ws with
      | nil =>
        rw [List.flatMap_nil, List.nil_append, skipSpace_blank he, skipSpace_of_not_isSpace rfl] at hclose
        exact (List.cons.inj hclose).2.symm
      | cons z zs =>
        rw [skipSpace_blank he, List.flatMap_cons, List.append_assoc, List.cons_append,
          skipSpace_of_not_isSpace rfl] at hclose
        cases hclose

lemma read_ok {a : α} (h : s.read room cs = .ok (a, r)) : ∃ x y t room', s.finish t = .ok a ∧
    (skipSpace cs = '[' :: x ∧ s.readItems room' s.fields 0 s.start x = .ok (t, y) ∧
        endArray y = .ok r ∨
      skipSpace cs = '{' :: x ∧
        readMembers (s.readMember room') (x.length + 1) true s.start x = .ok (t, r)) := by
  rw [read.eq_def] at h
  split at h
  · cases h
  · cases h
  next x room' hx =>
    obtain ⟨⟨t, y⟩, hy, h⟩ := bind_eq_ok.mp h
    obtain ⟨z, hz, h⟩ := bind_eq_ok.mp h
    obtain ⟨hfinish, rfl⟩ := close_ok h
    exact ⟨x, y, t, room', hfinish, .inl ⟨hx, hy, hz⟩⟩
  next x room' hx =>
    obtain ⟨⟨t, y⟩, hy, h⟩ := bind_eq_ok.mp h
    obtain ⟨hfinish, rfl⟩ := close_ok h
    exact ⟨x, r, t, room', hfinish, .inr ⟨hx, hy⟩⟩
  · cases h

lemma readsWhole (hf : ReadsFields s.fields) (room : Nat) : ReadsWhole (s.read room) where
  ignoresSpace := s.ignoresSpace room
  spans h r _ a r' hread := by
    obtain ⟨x, y, t, room', -, ⟨hx, hitems, hend⟩ | ⟨hx, hmembers⟩⟩ := read_ok hread
    · obtain ⟨z, d, hrest, hd, rfl⟩ := h.isRest hx
      refine ⟨d, hd, ?_⟩
      cases hrest with
      | array hts hj =>
        rw [List.append_assoc, List.singleton_append] at hitems
        exact eq_of_readItems hf hts hj hitems hend
      | digit hc => cases hc
    · obtain ⟨z, d, hrest, hd, rfl⟩ := h.isRest hx
      refine ⟨d, hd, ?_⟩
      cases hrest with
      | object hms hj =>
        rw [List.append_assoc, List.singleton_append] at hmembers
        exact (readMembers_spans_joined (takesWhole_readMember hf room') hms hj hmembers).1
      | digit hc => cases hc

lemma took_of_read {a : α} {ms : List MemberText} (hf : ReadsFields s.fields) (ho : IsObject ms cs)
    (hv : ∀ m ∈ ms, IsJson m.value) (h : s.read room (cs ++ r) = .ok (a, x)) :
    ∃ room' u, Took (s.readMember room') s.start (ms.map MemberText.name) u ∧ s.finish u = .ok a := by
  obtain ⟨hk, body, hj, hp⟩ := ho
  obtain ⟨d, _, hskip⟩ := hp.skipSpace rfl
  obtain ⟨y, z, u, room', hfinish, ⟨hy, _⟩ | ⟨hy, hmembers⟩⟩ := read_ok h
  · cases (hskip r).symm.trans hy
  · obtain ⟨_, rfl⟩ := List.cons.inj ((hskip r).symm.trans hy)
    have hms : ∀ m ∈ ms.map fun m => (m.key, m.value), IsKey m.1 ∧ IsJson m.2 := by
      simp only [List.forall_mem_map]
      exact fun m hm => ⟨(hk m hm).isKey, hv m hm⟩
    rw [List.append_assoc, List.singleton_append] at hmembers
    obtain ⟨-, ks, hks, htook⟩ :=
      readMembers_spans_joined (takesWhole_readMember hf room') hms (joined_pairs hj) hmembers
    have hnames : ks = ms.map MemberText.name := by
      rw [List.forall₂_map_left_iff] at hks
      have heq : List.Forall₂ (· = ·) ks (ms.map MemberText.name) := by
        rw [List.forall₂_map_right_iff]
        apply ((List.forall₂_and_left ms ks).mpr ⟨hk, hks⟩).flip.imp
        exact fun k m hm => hm.1.hasName hm.2
      rwa [List.forall₂_eq_eq_eq] at heq
    rw [hnames] at htook
    exact ⟨room', u, htook, hfinish⟩

end Shape

end LayoutSync.Json
