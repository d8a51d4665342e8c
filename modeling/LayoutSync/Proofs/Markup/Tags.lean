import LayoutSync.Fallible
import LayoutSync.Markup.Event
import LayoutSync.Markup.Printer
import LayoutSync.Proofs.Markup.Escaping
import Mathlib.Data.List.Induction
import Mathlib.Data.List.TakeWhile

namespace LayoutSync.Markup

open Text

def nameBreakers : List Char := ['<', '>', '/', '=', '!', '?', '"', '\'', '&']

def isNameChar (c : Char) : Bool := !isSpace c && !nameBreakers.contains c

def IsName (s : String) : Prop := s ≠ "" ∧ ∀ c ∈ s.toList, isNameChar c = true

-- Named, since characters are finitely many and might all be gone through.
instance : DecidablePred IsName := fun s =>
  @instDecidableAnd (s ≠ "") _ _ (List.decidableBAll (fun c => isNameChar c = true) s.toList)

lemma isNameChar_iff {c : Char} :
    isNameChar c = true ↔ isSpace c = false ∧ c ∉ nameBreakers := by
  simp [isNameChar]

lemma IsName.isSpace {s : String} (h : IsName s) {c : Char} (hc : c ∈ s.toList) :
    isSpace c = false :=
  (isNameChar_iff.mp (h.2 c hc)).1

lemma IsName.ne {s : String} (h : IsName s) {c d : Char} (hc : c ∈ s.toList)
    (hd : d ∈ nameBreakers) : c ≠ d := by
  rintro rfl
  exact (isNameChar_iff.mp (h.2 c hc)).2 hd

lemma IsName.exists_cons {s : String} (h : IsName s) : ∃ c r, s.toList = c :: r := by
  cases hs : s.toList with
  | nil => exact absurd (String.toList_eq_nil_iff.mp hs) h.1
  | cons c r => exact ⟨c, r, rfl⟩

section Runs

variable {α : Type} {p : α → Bool} {w r : List α} {a : α}

lemma takeWhile_run (hw : ∀ x ∈ w, p x = true) (ha : p a = false) :
    (w ++ a :: r).takeWhile p = w := by
  rw [List.takeWhile_append_of_pos hw, List.takeWhile_cons_of_neg (by simp [ha]), List.append_nil]

lemma dropWhile_run (hw : ∀ x ∈ w, p x = true) (ha : p a = false) :
    (w ++ a :: r).dropWhile p = a :: r := by
  rw [List.dropWhile_append_of_pos hw, List.dropWhile_cons_of_neg (by simp [ha])]

end Runs

lemma skipSpace_of_not_isSpace {c : Char} (h : isSpace c = false) (p : Nat) (r : List Char) :
    skipSpace p (c :: r) = (p, c :: r) := by
  simp [skipSpace, h]

lemma skipSpace_blank {c : Char} (h : isSpace c = false) (p : Nat) (r : List Char) :
    skipSpace p (' ' :: c :: r) = (p + 1, c :: r) := by
  simp [skipSpace, h, show isSpace ' ' = true from rfl]

def KeysAreNames (l : List (String × String)) : Prop := ∀ k ∈ Assoc.keys l, IsName k

instance : DecidablePred KeysAreNames := fun l =>
  inferInstanceAs (Decidable (∀ k ∈ Assoc.keys l, IsName k))

lemma keysAreNames_cons {e : String × String} {l : List (String × String)} :
    KeysAreNames (e :: l) ↔ IsName e.1 ∧ KeysAreNames l := by
  simp [KeysAreNames]

lemma printAttributes_cons (e : String × String) (l : List (String × String)) (r : List Char) :
    Element.printAttributes (e :: l) ++ r =
      ' ' :: (e.1.toList ++ '=' :: '"' :: (escape e.2.toList ++ '"' ::
        (Element.printAttributes l ++ r))) := by
  simp [Element.printAttributes]

lemma readValue_quoted (total start p : Nat) (key : List Char) (v : String) (r : List Char) :
    ∃ stop, readValue total key start p ('"' :: (escape v.toList ++ '"' :: r)) =
      .ok ⟨key, start, escape v.toList, stop, r⟩ := by
  have hq : ∀ c ∈ escape v.toList, decide (c ≠ '"') = true := by
    intro c hc
    simp only [ne_eq, decide_eq_true_eq]
    rintro rfl
    exact not_mem_escape (by decide) (by decide) _ hc
  have ht := takeWhile_run (r := r) (a := '"') hq (by simp)
  have hd := dropWhile_run (r := r) (a := '"') hq (by simp)
  simp only [readValue, skipSpace_of_not_isSpace (show isSpace '"' = false from rfl)]
  simp only [true_or, if_true, ht, hd]
  exact ⟨_, rfl⟩

lemma readAttribute_printed (total start : Nat) {seen : List (List Char × Nat)} {k : String}
    (v : String) {c : Char} {w : List Char} (hk : IsName k) (hw : k.toList = c :: w)
    (hs : ∀ e ∈ seen, e.1 ≠ k.toList) (r : List Char) :
    ∃ stop, readAttribute total start seen c
        (w ++ '=' :: '"' :: (escape v.toList ++ '"' :: r)) =
      .ok ⟨k.toList, start, escape v.toList, stop, r⟩ := by
  have hkey : ∀ d ∈ w, (!endsKey d) = true := by
    intro d hd
    have hm : d ∈ k.toList := by simp [hw, hd]
    simp [endsKey, hk.isSpace hm, hk.ne hm (d := '=') (by decide)]
  have hf : seen.find? (fun e => decide (e.1 = k.toList)) = none := by
    simpa using hs
  unfold readAttribute
  rw [takeWhile_run hkey (by decide), dropWhile_run hkey (by decide), ← hw]
  simp only [skipSpace_of_not_isSpace (show isSpace '=' = false from rfl), if_true, hf]
  exact readValue_quoted total start _ k.toList v r

lemma readAttributes_printed (total p : Nat) (seen : List (List Char × Nat))
    {l : List (String × String)} (hn : KeysAreNames l) (hd : (Assoc.keys l).Nodup)
    (hs : ∀ e ∈ seen, ∀ k ∈ Assoc.keys l, e.1 ≠ k.toList) :
    readAttributes total seen p (Element.printAttributes l) = .ok l := by
  induction l generalizing p seen with
  | nil =>
    rw [readAttributes.eq_def]
    rfl
  | cons e l ih =>
    obtain ⟨k, v⟩ := e
    obtain ⟨hk, hn⟩ := keysAreNames_cons.mp hn
    obtain ⟨hkl, hd⟩ := List.nodup_cons.mp hd
    obtain ⟨c, w, hw⟩ := hk.exists_cons
    have hc : isSpace c = false := hk.isSpace (by simp [hw])
    obtain ⟨stop, ha⟩ := readAttribute_printed total (p + 1) v hk hw
      (fun e he => hs e he k (by simp)) (Element.printAttributes l)
    -- The key joins those that were seen, and no later one is equal to it.
    have hrest := ih stop (seen ++ [(k.toList, p + 1)]) hn hd (by
      intro e he j hj
      rcases List.mem_append.mp he with he | he
      · exact hs e he j (by simp [hj])
      · obtain rfl := List.mem_singleton.mp he
        intro hkj
        exact hkl ((String.toList_inj.mp hkj) ▸ hj))
    have hp := printAttributes_cons (k, v) l []
    rw [List.append_nil, List.append_nil] at hp
    rw [hp, hw, List.cons_append, readAttributes.eq_def]
    split
    next hsk => simp [skipSpace_blank hc] at hsk
    next start d r hsk =>
      rw [skipSpace_blank hc] at hsk
      simp only [Prod.mk.injEq, List.cons.injEq] at hsk
      obtain ⟨rfl, rfl, rfl⟩ := hsk
      split
      next f hf =>
        rw [ha] at hf
        cases hf
      next a hf =>
        rw [ha] at hf
        obtain rfl := Except.ok.inj hf
        simp only [unescape_escape, hrest, ok_bind, pure_eq_ok, String.ofList_toList]

lemma attributes_printed (tag : List Char) {d : Dict String} (h : KeysAreNames d.entries) :
    Tag.attributes ⟨tag, Element.printAttributes d.entries⟩ = .ok d := by
  have hr := readAttributes_printed (utf8Length tag + utf8Length (Element.printAttributes d.entries))
    (utf8Length tag) [] h d.nodup_keys (by simp)
  rw [Tag.attributes, hr]
  exact congrArg Except.ok d.ofList_entries

lemma readTag_plain {w : List Char} (h : ∀ c ∈ w, c ≠ '>' ∧ c ≠ '"' ∧ c ≠ '\'') (r : List Char) :
    readTag none (w ++ r) = (w ++ (readTag none r).1, (readTag none r).2) := by
  induction w with
  | nil => rfl
  | cons c w ih =>
    obtain ⟨h1, h2, h3⟩ := h c (by simp)
    rw [List.cons_append, readTag]
    simp only [h1, h2, h3, or_self, if_false, ih fun d hd => h d (by simp [hd]), List.cons_append]

lemma readTag_quoted {w : List Char} (h : '"' ∉ w) (r : List Char) :
    readTag (some '"') (w ++ '"' :: r) = (w ++ '"' :: (readTag none r).1, (readTag none r).2) := by
  induction w with
  | nil => rfl
  | cons c w ih =>
    obtain ⟨hc, hw⟩ : '"' ≠ c ∧ '"' ∉ w := by simpa using h
    rw [List.cons_append, readTag]
    simp only [hc.symm, if_false, ih hw, List.cons_append]

lemma IsName.plain {s : String} (h : IsName s) :
    ∀ c ∈ s.toList, c ≠ '>' ∧ c ≠ '"' ∧ c ≠ '\'' :=
  fun _ hc => ⟨h.ne hc (by decide), h.ne hc (by decide), h.ne hc (by decide)⟩

lemma readTag_attributes {l : List (String × String)} (h : KeysAreNames l) (r : List Char) :
    readTag none (Element.printAttributes l ++ r) =
      (Element.printAttributes l ++ (readTag none r).1, (readTag none r).2) := by
  induction l with
  | nil => rfl
  | cons e l ih =>
    obtain ⟨hk, hl⟩ := keysAreNames_cons.mp h
    have hv : '"' ∉ escape e.2.toList := not_mem_escape (by decide) (by decide) _
    have hp : ∀ c ∈ ' ' :: (e.1.toList ++ ['=']), c ≠ '>' ∧ c ≠ '"' ∧ c ≠ '\'' := by
      intro c hc
      rcases List.mem_cons.mp hc with rfl | hc
      · decide
      · rcases List.mem_append.mp hc with hc | hc
        · exact hk.plain c hc
        · obtain rfl := List.mem_singleton.mp hc
          decide
    have hs : ∀ t, Element.printAttributes (e :: l) ++ t =
        (' ' :: (e.1.toList ++ ['='])) ++
          '"' :: (escape e.2.toList ++ '"' :: (Element.printAttributes l ++ t)) := by
      intro t
      rw [printAttributes_cons]
      simp
    have hq := readTag_quoted hv (Element.printAttributes l ++ r)
    have ho : ∀ t, readTag none ('"' :: t) =
        ('"' :: (readTag (some '"') t).1, (readTag (some '"') t).2) := fun _ => rfl
    rw [hs, readTag_plain hp, ho, hq, ih hl, hs]

lemma readTag_printed {tag : String} {l : List (String × String)} (ht : IsName tag)
    (hl : KeysAreNames l) (r : List Char) :
    readTag none (tag.toList ++ (Element.printAttributes l ++ r)) =
      (tag.toList ++ (Element.printAttributes l ++ (readTag none r).1), (readTag none r).2) := by
  rw [readTag_plain ht.plain, readTag_attributes hl]

lemma ofContent_printed {tag : String} (l : List (String × String)) (ht : IsName tag) :
    Tag.ofContent (tag.toList ++ Element.printAttributes l) =
      ⟨tag.toList, Element.printAttributes l⟩ := by
  have hn : ∀ c ∈ tag.toList, (!isSpace c) = true := by
    intro c hc
    simp [ht.isSpace hc]
  cases l with
  | nil =>
    have hb : Element.printAttributes [] = [] := rfl
    rw [hb, List.append_nil, Tag.ofContent, List.takeWhile_eq_self_iff.mpr hn,
      List.dropWhile_eq_nil_iff.mpr hn]
  | cons e l =>
    have hp := printAttributes_cons e l []
    rw [List.append_nil, List.append_nil] at hp
    have hb : (!isSpace ' ') = false := rfl
    rw [hp, Tag.ofContent, takeWhile_run hn hb, dropWhile_run hn hb]

lemma getLast?_printed {tag : String} (l : List (String × String)) (ht : IsName tag) :
    (tag.toList ++ Element.printAttributes l).getLast? ≠ some '/' := by
  cases l using List.reverseRecOn with
  | nil =>
    intro h
    have hb : Element.printAttributes [] = [] := rfl
    rw [hb, List.append_nil] at h
    exact ht.ne (List.mem_of_getLast? h) (by decide) rfl
  | append_singleton l e =>
    have hs : Element.printAttributes (l ++ [e]) =
        Element.printAttributes l ++ (' ' :: e.1.toList ++ '=' :: '"' :: escape e.2.toList) ++
          ['"'] := by
      simp [Element.printAttributes]
    rw [hs, ← List.append_assoc, List.getLast?_concat]
    decide

section Events

variable {tag : String} {l : List (String × String)} (opened : List (List Char)) (p : Nat)

lemma readMarkup_name {c : Char} {w : List Char} (ht : IsName tag) (hw : tag.toList = c :: w)
    (r : List Char) : readMarkup opened p c r = .ok (readOpening opened p (c :: r)) := by
  have hc : c ∈ tag.toList := by simp [hw]
  simp only [readMarkup, ht.ne hc (d := '!') (by decide), ht.ne hc (d := '/') (by decide),
    ht.ne hc (d := '?') (by decide), if_false]

lemma readEvents_tag {s : Step} {c : Char} {r : List Char}
    (h : readMarkup opened (p + 1) c r = .ok s) :
    readEvents opened p ('<' :: c :: r) =
      .cons s.event s.position (readEvents s.opened s.position s.rest) := by
  rw [readEvents.eq_def]
  simp only [if_true]
  split
  next hs =>
    rw [h] at hs
    cases hs
  next hs =>
    rw [h] at hs
    obtain rfl := Except.ok.inj hs
    rfl

lemma readEvents_opening (ht : IsName tag) (hl : KeysAreNames l) (r : List Char) :
    ∃ q, readEvents opened p
        ('<' :: (tag.toList ++ (Element.printAttributes l ++ '>' :: r))) =
      .cons (.opening ⟨tag.toList, Element.printAttributes l⟩) q
        (readEvents (tag.toList :: opened) q r) := by
  obtain ⟨c, w, hw⟩ := ht.exists_cons
  have hm := readMarkup_name opened (p + 1) ht hw (w ++ (Element.printAttributes l ++ '>' :: r))
  rw [← List.cons_append, ← hw] at hm
  have ho : readTag none ('>' :: r) = ([], some r) := rfl
  rw [readOpening, readTag_printed ht hl, ho] at hm
  simp only [List.append_nil, getLast?_printed l ht, if_false, ofContent_printed l ht] at hm
  rw [hw, List.cons_append, readEvents_tag opened p hm]
  exact ⟨_, by rw [← hw]; rfl⟩

lemma readEvents_empty (ht : IsName tag) (hl : KeysAreNames l) (r : List Char) :
    ∃ q, readEvents opened p
        ('<' :: (tag.toList ++ (Element.printAttributes l ++ '/' :: '>' :: r))) =
      .cons (.empty ⟨tag.toList, Element.printAttributes l⟩) q (readEvents opened q r) := by
  obtain ⟨c, w, hw⟩ := ht.exists_cons
  have hm := readMarkup_name opened (p + 1) ht hw
    (w ++ (Element.printAttributes l ++ '/' :: '>' :: r))
  rw [← List.cons_append, ← hw] at hm
  have ho : readTag none ('/' :: '>' :: r) = (['/'], some r) := rfl
  have hs : tag.toList ++ (Element.printAttributes l ++ ['/']) =
      tag.toList ++ Element.printAttributes l ++ ['/'] := (List.append_assoc _ _ _).symm
  rw [readOpening, readTag_printed ht hl, ho] at hm
  simp only [hs, List.getLast?_concat, if_true, List.dropLast_concat,
    ofContent_printed l ht] at hm
  rw [hw, List.cons_append, readEvents_tag opened p hm]
  exact ⟨_, by rw [← hw]; rfl⟩

lemma readClosing_printed (ht : IsName tag) (r : List Char) :
    ∃ q, readClosing (tag.toList :: opened) p (tag.toList ++ '>' :: r) =
      .ok ⟨.closing, opened, q, r⟩ := by
  have hn : ∀ c ∈ tag.toList, decide (c ≠ '>') = true := by
    intro c hc
    simpa using ht.ne hc (by decide)
  obtain ⟨c, w, hw⟩ := ht.exists_cons
  have ha : tag.toList.all isSpace = false := by
    rw [hw, List.all_cons, ht.isSpace (by simp [hw]), Bool.false_and]
  have hr : (tag.toList.reverse.dropWhile isSpace).reverse = tag.toList := by
    have he : tag.toList.reverse.dropWhile isSpace = tag.toList.reverse := by
      cases hb : tag.toList.reverse with
      | nil => rfl
      | cons d v =>
        apply List.dropWhile_cons_of_neg
        rw [ht.isSpace (List.mem_reverse.mp (by simp [hb]))]
        decide
    rw [he, List.reverse_reverse]
  have hp : readPlain (tag.toList ++ '>' :: r) = (tag.toList, utf8Length tag.toList + 1, r) := by
    have ht := takeWhile_run (r := r) (a := '>') hn (by decide)
    have hd := dropWhile_run (r := r) (a := '>') hn (by decide)
    simp only [readPlain, ht, hd]
  simp only [readClosing, hp, closingName, ha, hr, Bool.false_eq_true, if_false, if_true]
  exact ⟨_, rfl⟩

lemma readEvents_closing (ht : IsName tag) (r : List Char) :
    ∃ q, readEvents (tag.toList :: opened) p ('<' :: '/' :: (tag.toList ++ '>' :: r)) =
      .cons .closing q (readEvents opened q r) := by
  obtain ⟨q, hq⟩ := readClosing_printed opened (p + 1) ht r
  have hm : readMarkup (tag.toList :: opened) (p + 1) '/' (tag.toList ++ '>' :: r) =
      .ok ⟨.closing, opened, q, r⟩ := by
    rw [← hq]
    rfl
  exact ⟨q, readEvents_tag _ p hm⟩

end Events

end LayoutSync.Markup
