import LayoutSync.Proofs.Markup.Tidy

/-!
Writing a document and reading it back gives the document without the data that is lost, if its
tags and keys are names. The proof follows the printer and keeps track of the open elements.
-/

namespace LayoutSync.Markup

open Text

def Reading.build (r : Reading) (b : Builder) : Except DocumentFault Document := do
  let b ← r.events.foldlM Builder.step b
  match r.fault with
  | some (f, position) => .error (.unreadable position f)
  | none => b.finish

lemma Reading.build_cons (e : Event) (p : Nat) (r : Reading) (b : Builder) :
    (Reading.cons e p r).build b = b.step (e, p) >>= r.build := by
  simp only [Reading.build, Reading.cons, List.foldlM_cons, bind_assoc]
  rfl

namespace Frame

lemma addData_nil (f : Frame) : f.addData [] = f := by
  simp [addData]

lemma settle_addData_blank {f : Frame} {cs : List Char} (hf : f.pending = [])
    (h : allBlank cs = true) : (f.addData cs).settle = f.settle := by
  simp [settle, flush, addData, hf, h]

def fill (f : Frame) : List Element → Frame
  | [] => f
  | c :: cs => fill ((f.settle.addChild c.tidy.alone).addData (c.tail.getD "").toList) cs

end Frame

lemma allBlank_lineBreak (depth : Nat) (wanted : Bool) :
    allBlank (Element.lineBreak depth wanted) = true := by
  cases wanted with
  | false => rfl
  | true => simp [Element.lineBreak, allBlank, isBlank]

lemma escape_lineBreak (depth : Nat) (wanted : Bool) :
    escape (Element.lineBreak depth wanted) = Element.lineBreak depth wanted := by
  apply escape_of_not_marked
  intro c hc
  cases wanted with
  | false => simp [Element.lineBreak] at hc
  | true =>
    rcases List.mem_cons.mp hc with rfl | hc
    · decide
    · obtain rfl := (List.mem_replicate.mp hc).2
      decide

def EndsData (r : List Char) : Prop := r = [] ∨ ∃ s, r = '<' :: s

section Reading

variable (opened : List (List Char)) (p : Nat)

lemma readEvents_data {cs r : List Char} (hc : cs ≠ []) (hr : EndsData r) :
    ∃ q s, readEvents opened p (escape cs ++ r) =
      .cons (.text (escape cs)) q (readEvents opened s r) := by
  have hn : ∀ c ∈ escape cs, decide (c ≠ '<') = true := by
    intro c hc
    simp only [ne_eq, decide_eq_true_eq]
    rintro rfl
    exact not_mem_escape (by decide) (by decide) _ hc
  cases he : escape cs with
  | nil => exact absurd (escape_eq_nil.mp he) hc
  | cons c w =>
    rw [he] at hn
    have hc : c ≠ '<' := by simpa using hn c (by simp)
    have hw : ∀ d ∈ w, decide (d ≠ '<') = true := fun d hd => hn d (by simp [hd])
    have ht : (w ++ r).takeWhile (fun d => decide (d ≠ '<')) = w := by
      rcases hr with rfl | ⟨s, rfl⟩
      · rw [List.append_nil, List.takeWhile_eq_self_iff.mpr hw]
      · exact takeWhile_run hw (by decide)
    have hd : (w ++ r).dropWhile (fun d => decide (d ≠ '<')) = r := by
      rcases hr with rfl | ⟨s, rfl⟩
      · rw [List.append_nil, List.dropWhile_eq_nil_iff.mpr hw]
      · exact dropWhile_run hw (by decide)
    rw [List.cons_append, readEvents.eq_def]
    simp only [hc, if_false, ht, hd]
    exact ⟨_, _, rfl⟩

lemma build_data {w r : List Char} (hr : w ≠ [] → EndsData r) (f : Frame) (fs : List Frame)
    (root : Option Element) :
    ∃ q, (readEvents opened p (escape w ++ r)).build ⟨f :: fs, root⟩ =
      (readEvents opened q r).build ⟨f.addData w :: fs, root⟩ := by
  by_cases hc : w = []
  · subst hc
    exact ⟨p, by rw [f.addData_nil]; rfl⟩
  · obtain ⟨q, s, hq⟩ := readEvents_data opened p hc (hr hc)
    refine ⟨s, ?_⟩
    rw [hq, Reading.build_cons]
    simp only [Builder.step, unescape_escape]
    rfl

end Reading

namespace Frame

lemma settle_addData_lineBreak {f : Frame} (depth : Nat) {wanted : Bool}
    (h : wanted = true → f.pending = []) :
    (f.addData (Element.lineBreak depth wanted)).settle = f.settle := by
  cases wanted with
  | false => exact congrArg settle f.addData_nil
  | true => exact settle_addData_blank (h rfl) (allBlank_lineBreak depth true)

lemma finish_addData_lineBreak {f : Frame} (depth : Nat) {wanted : Bool}
    (h : wanted = true → f.pending = [] ∧ f.element.children ≠ []) :
    (f.addData (Element.lineBreak depth wanted)).finish = f.finish := by
  cases wanted with
  | false => exact congrArg finish f.addData_nil
  | true =>
    obtain ⟨hp, hc⟩ := h rfl
    have hs := congrArg Frame.element
      (settle_addData_blank hp (allBlank_lineBreak depth true))
    have he : f.element.children.isEmpty = false := by simpa using hc
    simpa [finish, addData, he, settle] using hs

end Frame

lemma print_eq (depth : Nat) (wanted : Bool) (e : Element) :
    e.print depth wanted = Element.lineBreak depth wanted ++ e.print depth false := by
  cases e
  simp [Element.print, Element.lineBreak]

lemma print_leaf {e : Element} (h : (e.children.isEmpty && Element.noData e.text) = true)
    (depth : Nat) (r : List Char) :
    e.print depth false ++ r =
      '<' :: (e.tag.toList ++ (Element.printAttributes e.attributes.entries ++ '/' :: '>' :: r)) := by
  cases e
  simp only [Element.print, Element.lineBreak] at h ⊢
  simp [h]

lemma print_node {e : Element} (h : (e.children.isEmpty && Element.noData e.text) = false)
    (depth : Nat) (r : List Char) :
    e.print depth false ++ r =
      '<' :: (e.tag.toList ++ (Element.printAttributes e.attributes.entries ++
        '>' :: (Element.printData e.text ++
          (Element.printChildren depth (Element.noData e.text) e.children ++
            '<' :: '/' :: (e.tag.toList ++ '>' :: r))))) := by
  cases e
  simp only [Element.print, Element.lineBreak] at h ⊢
  simp [h]

lemma endsData_print (depth : Nat) (e : Element) (r : List Char) :
    EndsData (e.print depth false ++ r) := by
  cases h : e.children.isEmpty && Element.noData e.text with
  | true => exact Or.inr ⟨_, print_leaf h depth r⟩
  | false => exact Or.inr ⟨_, print_node h depth r⟩

lemma endsData_printChildren (depth : Nat) (cs : List Element) (r : List Char) :
    EndsData (Element.printChildren depth false cs ++ '<' :: r) := by
  cases cs with
  | nil => exact Or.inr ⟨r, rfl⟩
  | cons c cs =>
    rw [Element.printChildren, List.append_assoc, List.append_assoc]
    exact endsData_print _ c _

lemma data_eq_nil {data : Option String} :
    (data.getD "").toList = [] ↔ Element.noData data = true := by
  simp [Element.noData]

def ReadsBack (e : Element) : Prop :=
  ∀ depth opened p r b, ∃ q, (readEvents opened p (e.print depth false ++ r)).build b =
    b.settle.attach e.tidy.alone >>= (readEvents opened q r).build

lemma build_children {cs : List Element} (h : ∀ c ∈ cs, ReadsBack c) {tag : String}
    (ht : IsName tag) (depth : Nat) (wanted : Bool) (opened : List (List Char)) (p : Nat)
    (r : List Char) (f : Frame) (fs : List Frame) (root : Option Element)
    (hw : wanted = true → f.pending = [])
    (hl : wanted = true → cs = [] → f.element.children ≠ []) :
    ∃ q, (readEvents (tag.toList :: opened) p (Element.printChildren depth wanted cs ++
        '<' :: '/' :: (tag.toList ++ '>' :: r))).build ⟨f :: fs, root⟩ =
      Builder.attach ⟨fs, root⟩ (f.fill cs).finish >>= (readEvents opened q r).build := by
  induction cs generalizing f wanted p with
  | nil =>
    obtain ⟨q, hq⟩ := build_data (tag.toList :: opened) p
      (w := Element.lineBreak depth wanted) (r := '<' :: '/' :: (tag.toList ++ '>' :: r))
      (fun _ => Or.inr ⟨_, rfl⟩) f fs root
    obtain ⟨s, hs⟩ := readEvents_closing opened q ht r
    rw [escape_lineBreak, hs, Reading.build_cons] at hq
    rw [Element.printChildren, hq]
    refine ⟨s, ?_⟩
    have hf := f.finish_addData_lineBreak depth fun h => ⟨hw h, hl h rfl⟩
    simp only [Builder.step, hf, Frame.fill]
  | cons c cs ih =>
    -- First the line break before the child, then the child, then its tail, then the rest.
    obtain ⟨q, hq⟩ := build_data (tag.toList :: opened) p
      (w := Element.lineBreak (depth + 1) wanted)
      (fun _ => endsData_print (depth + 1) c (Element.printData c.tail ++
        (Element.printChildren depth (Element.noData c.tail) cs ++
          '<' :: '/' :: (tag.toList ++ '>' :: r)))) f fs root
    obtain ⟨s, hs⟩ := h c (by simp) (depth + 1) (tag.toList :: opened) q
      (Element.printData c.tail ++ (Element.printChildren depth (Element.noData c.tail) cs ++
        '<' :: '/' :: (tag.toList ++ '>' :: r)))
      ⟨f.addData (Element.lineBreak (depth + 1) wanted) :: fs, root⟩
    have ha : Builder.attach (Builder.settle
          ⟨f.addData (Element.lineBreak (depth + 1) wanted) :: fs, root⟩) c.tidy.alone =
        .ok ⟨f.settle.addChild c.tidy.alone :: fs, root⟩ := by
      simp only [Builder.settle, Builder.attach, f.settle_addData_lineBreak (depth + 1) hw]
    obtain ⟨u, hu⟩ := build_data (tag.toList :: opened) s (w := (c.tail.getD "").toList)
      (r := Element.printChildren depth (Element.noData c.tail) cs ++
        '<' :: '/' :: (tag.toList ++ '>' :: r))
      (by
        intro hd
        have hn : Element.noData c.tail = false := by
          simpa using mt data_eq_nil.mpr hd
        rw [hn]
        exact endsData_printChildren depth cs _)
      (f.settle.addChild c.tidy.alone) fs root
    obtain ⟨v, hv⟩ := ih (fun d hd => h d (by simp [hd])) (Element.noData c.tail) u
      ((f.settle.addChild c.tidy.alone).addData (c.tail.getD "").toList)
      (by
        intro hn
        rw [data_eq_nil.mpr hn, Frame.addData_nil]
        rfl)
      (by simp [Frame.addChild, Frame.addData])
    refine ⟨v, ?_⟩
    rw [escape_lineBreak] at hq
    rw [Element.printChildren, print_eq, List.append_assoc, List.append_assoc, List.append_assoc,
      hq, hs, ha]
    exact hu.trans hv

namespace Frame

lemma allBlank_getD (data : Option String) :
    allBlank (data.getD "").toList = (Element.solid data).isNone := by
  cases data with
  | none => rfl
  | some s => cases h : allBlank s.toList <;> simp [Element.solid, h]

lemma flush_addChild (f : Frame) (c : Element) :
    ((f.settle.addChild c.tidy.alone).addData (c.tail.getD "").toList).flush =
      { f.flush with children := f.flush.children ++ [c.tidy] } := by
  have hb := allBlank_getD c.tail
  have ht : c.tidy.tail = Element.solid c.tail := by rw [Element.tidy_eq]
  simp only [flush, addData, addChild, settle, List.nil_append, hb]
  cases h : Element.solid c.tail with
  | none =>
    have ha : c.tidy.alone = c.tidy := by
      rw [Element.alone, ← h, ← ht]
      cases c.tidy
      rfl
    simp [ha]
  | some s =>
    have hs : appendTo c.tidy.alone.tail (c.tail.getD "").toList = some s := by
      rw [(Element.solid_eq_some h).1]
      simp [appendTo, Element.alone]
    have ha : { c.tidy.alone with tail := some s } = c.tidy := by
      rw [← h, ← ht]
      cases c.tidy
      rfl
    simp [hs, ha]

lemma flush_fill (f : Frame) (cs : List Element) :
    (f.fill cs).flush =
      { f.flush with children := f.flush.children ++ cs.map Element.tidy } := by
  induction cs generalizing f with
  | nil =>
    rw [fill, List.map_nil, List.append_nil]
    cases f.flush
    rfl
  | cons c cs ih => rw [fill, ih, flush_addChild, List.map_cons, List.append_assoc]; rfl

lemma fill_children (f : Frame) (cs : List Element)
    (h : f.element.children ≠ [] ∨ cs ≠ []) : (f.fill cs).element.children ≠ [] := by
  induction cs generalizing f with
  | nil => simpa [fill] using h
  | cons c cs ih => exact ih _ (by simp [addData, addChild])

lemma finish_fill (e : Element) :
    ((⟨{ tag := e.tag, attributes := e.attributes }, (e.text.getD "").toList⟩ : Frame).fill
      e.children).finish = e.tidy.alone := by
  have hb := allBlank_getD e.text
  rw [Element.tidy_eq]
  cases hc : e.children with
  | nil =>
    cases ht : e.text with
    | none => simp [fill, finish, Element.alone]
    | some s =>
      by_cases hs : s = "" <;> simp [fill, finish, Element.alone, hs, Option.filter]
  | cons c cs =>
    have hf := fill_children
      (⟨{ tag := e.tag, attributes := e.attributes }, (e.text.getD "").toList⟩ : Frame)
      (c :: cs) (Or.inr (by simp))
    have he : ((⟨{ tag := e.tag, attributes := e.attributes }, (e.text.getD "").toList⟩ :
        Frame).fill (c :: cs)).element.children.isEmpty = false := by
      simpa using hf
    rw [finish, he]
    simp only [Bool.false_eq_true, if_false, flush_fill]
    simp only [flush, hb]
    cases h : Element.solid e.text with
    | none => simp [Element.alone]
    | some s =>
      have hs : appendTo none (e.text.getD "").toList = some s := by
        rw [(Element.solid_eq_some h).1]
        simp [appendTo]
      simp [Element.alone, hs]

end Frame

lemma element_printed {e : Element} (h : e.HasNames) :
    Builder.element ⟨e.tag.toList, Element.printAttributes e.attributes.entries⟩ =
      .ok { tag := e.tag, attributes := e.attributes } := by
  simp [Builder.element, attributes_printed _ h.2]

lemma readsBack {e : Element} (h : e.Every Element.HasNames) : ReadsBack e := by
  induction h with
  | @intro e hn _ ih =>
    intro depth opened p r b
    cases hl : e.children.isEmpty && Element.noData e.text with
    | true =>
      obtain ⟨q, hq⟩ := readEvents_empty opened p hn.1 hn.2 r
      have ht : e.tidy.alone = { tag := e.tag, attributes := e.attributes } := by
        obtain ⟨hc, hd⟩ : e.children = [] ∧ e.text.getD "" = "" := by
          simpa [Element.noData] using hl
        rw [← Frame.finish_fill, hc, hd]
        rfl
      refine ⟨q, ?_⟩
      rw [print_leaf hl, hq, Reading.build_cons, ht]
      simp only [Builder.step, element_printed hn]
      rfl
    | false =>
      -- The opening tag, the data, the children and the closing tag are read in turn.
      obtain ⟨q, hq⟩ := readEvents_opening opened p hn.1 hn.2 (Element.printData e.text ++
        (Element.printChildren depth (Element.noData e.text) e.children ++
          '<' :: '/' :: (e.tag.toList ++ '>' :: r)))
      obtain ⟨s, hs⟩ := build_data (e.tag.toList :: opened) q (w := (e.text.getD "").toList)
        (r := Element.printChildren depth (Element.noData e.text) e.children ++
          '<' :: '/' :: (e.tag.toList ++ '>' :: r))
        (by
          intro hd
          have hn : Element.noData e.text = false := by
            simpa using mt data_eq_nil.mpr hd
          rw [hn]
          exact endsData_printChildren depth e.children _)
        ⟨{ tag := e.tag, attributes := e.attributes }, []⟩ b.settle.frames b.settle.root
      obtain ⟨u, hu⟩ := build_children ih hn.1 depth (Element.noData e.text) opened s r
        ⟨{ tag := e.tag, attributes := e.attributes }, (e.text.getD "").toList⟩
        b.settle.frames b.settle.root
        (fun hd => data_eq_nil.mpr hd)
        (by
          intro hd hc
          simp [hd, hc] at hl)
      refine ⟨u, ?_⟩
      rw [Frame.finish_fill] at hu
      rw [print_node hl, hq, Reading.build_cons]
      simp only [Builder.step, element_printed hn]
      exact hs.trans hu

lemma build_blank (p : Nat) {w r : List Char} (hc : w ≠ []) (hr : EndsData r)
    (hb : allBlank w = true) (root : Option Element) :
    ∃ q, (readEvents [] p (escape w ++ r)).build ⟨[], root⟩ =
      (readEvents [] q r).build ⟨[], root⟩ := by
  obtain ⟨q, s, hq⟩ := readEvents_data [] p hc hr
  refine ⟨s, ?_⟩
  rw [hq, Reading.build_cons]
  simp only [Builder.step, unescape_escape, hb, if_true]
  rfl

lemma not_blank_of_parse {source : String} {d : Document} (h : Document.parse source = .ok d) :
    allBlank source.toList = false := by
  apply Bool.eq_false_iff.mpr
  intro hb
  have hm : ∀ c ∈ source.toList, c ∉ marked := by
    intro c hc hm
    have hc' := List.all_eq_true.mp hb c hc
    simp only [marked, List.mem_cons, List.not_mem_nil, or_false] at hm
    rcases hm with rfl | rfl | rfl | rfl | rfl <;> exact absurd hc' (by decide)
  have hr : Reading.ofText source = readEvents [] 0 source.toList := by
    refine Reading.ofText_of_head? fun hh => ?_
    exact absurd (List.all_eq_true.mp hb '\ufeff' (List.mem_of_head? hh)) (by decide)
  have hn : ∀ p, (readEvents [] p []).build ⟨[], none⟩ = .error .noRoot := by
    intro p
    rw [readEvents.eq_def]
    rfl
  have he : Document.parse source = .error .noRoot := by
    change (Reading.ofText source).build ⟨[], none⟩ = _
    rw [hr]
    by_cases hs : source.toList = []
    · rw [hs, hn]
    · obtain ⟨q, hq⟩ := build_blank 0 hs (r := []) (.inl rfl) hb none
      rw [escape_of_not_marked hm, List.append_nil] at hq
      rw [hq, hn]
  rw [he] at h
  cases h

lemma readEvents_declaration (r : List Char) :
    ∃ q, readEvents [] 0 (Document.declaration.toList ++ r) =
      .cons .aside q (readEvents [] q r) := by
  have hm : ∃ q, readMarkup [] 1 '?' (Document.declaration.toList.drop 2 ++ r) =
      .ok ⟨.aside, [], q, r⟩ := ⟨_, rfl⟩
  obtain ⟨q, hq⟩ := hm
  exact ⟨q, readEvents_tag [] 0 hq⟩

lemma parse_print {d : Document} (h : d.HasNames) : Document.parse d.print = .ok d.tidy := by
  have hl : d.print.toList = Document.declaration.toList ++
      (escape ['\n'] ++ (d.root.print 0 false ++ (escape ['\n'] ++ []))) := by
    rw [Document.print, String.toList_ofList, print_eq, List.append_assoc, List.append_assoc]
    rfl
  have ht : Reading.ofText d.print = readEvents [] 0 d.print.toList := by
    refine Reading.ofText_of_head? ?_
    rw [hl]
    exact (by decide : some '<' ≠ some '\ufeff')
  obtain ⟨p, hp⟩ := readEvents_declaration
    (escape ['\n'] ++ (d.root.print 0 false ++ (escape ['\n'] ++ [])))
  obtain ⟨q, hq⟩ := build_blank p (w := ['\n']) (by simp)
    (endsData_print 0 d.root (escape ['\n'] ++ [])) (by decide) none
  obtain ⟨s, hs⟩ := readsBack h 0 [] q (escape ['\n'] ++ []) ⟨[], none⟩
  obtain ⟨u, hu⟩ := build_blank s (w := ['\n']) (r := []) (by simp) (Or.inl rfl) (by decide)
    (some d.root.tidy.alone)
  have he : (readEvents [] u []).build ⟨[], some d.root.tidy.alone⟩ = .ok d.tidy := by
    rw [readEvents.eq_def]
    rfl
  calc Document.parse d.print
      = (readEvents [] 0 d.print.toList).build ⟨[], none⟩ := by rw [← ht]; rfl
    _ = (readEvents [] p (escape ['\n'] ++ (d.root.print 0 false ++
          (escape ['\n'] ++ [])))).build ⟨[], none⟩ := by
        rw [hl, hp, Reading.build_cons]
        rfl
    _ = (readEvents [] s (escape ['\n'] ++ [])).build ⟨[], some d.root.tidy.alone⟩ := by
        rw [hq, hs]
        rfl
    _ = .ok d.tidy := by rw [hu, he]

end LayoutSync.Markup
