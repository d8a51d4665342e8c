import LayoutSync.Proofs.Markup.RoundTrip

/-!
Documents that were read lose nothing when they are written. The invariant is on the open elements:
each holds tidy children, and character data only where some of it is not blank.
-/

namespace LayoutSync.Markup

open Text

structure Frame.IsTidy (f : Frame) : Prop where
  text_solid : ∀ s ∈ f.element.text, allBlank s.toList = false
  tail_none : f.element.tail = none
  children : ∀ c ∈ f.element.children, c.Every Element.IsTidy

lemma ne_empty_of_solid {data : Option String}
    (h : ∀ s ∈ data, allBlank s.toList = false) : data ≠ some "" := by
  intro hd
  have := h "" hd
  simp at this

namespace Frame

variable {f : Frame}

lemma allBlank_appendTo {old : Option String} {cs : List Char} (h : allBlank cs = false) :
    ∀ s ∈ appendTo old cs, allBlank s.toList = false := by
  intro s hs
  obtain rfl := Option.some.inj hs
  simp [h]

lemma IsTidy.settle (h : f.IsTidy) : f.settle.IsTidy := by
  unfold Frame.settle flush
  cases hb : allBlank f.pending with
  | true => exact ⟨h.text_solid, h.tail_none, h.children⟩
  | false =>
    simp only [Bool.false_eq_true, if_false]
    cases hl : f.element.children.getLast? with
    | none => exact ⟨allBlank_appendTo hb, h.tail_none, h.children⟩
    | some c =>
      refine ⟨h.text_solid, h.tail_none, ?_⟩
      intro d hd
      rcases List.mem_append.mp hd with hd | hd
      · exact h.children d ((List.dropLast_sublist _).subset hd)
      · obtain rfl := List.mem_singleton.mp hd
        have hc := h.children c (List.mem_of_getLast? hl)
        have ht := hc.here
        exact .intro ⟨ht.distinct, ht.text_ne, ne_empty_of_solid (allBlank_appendTo hb),
          ht.text_solid, allBlank_appendTo hb⟩ hc.inside

lemma IsTidy.addChild (h : f.IsTidy) {c : Element} (hc : c.Every Element.IsTidy) :
    (f.addChild c).IsTidy := by
  refine ⟨h.text_solid, h.tail_none, ?_⟩
  intro d hd
  rcases List.mem_append.mp hd with hd | hd
  · exact h.children d hd
  · obtain rfl := List.mem_singleton.mp hd
    exact hc

lemma IsTidy.finish (h : f.IsTidy) :
    f.finish.Every Element.IsTidy ∧ f.finish.tail = none := by
  unfold Frame.finish
  cases hc : f.element.children.isEmpty with
  | true =>
    have hn : f.element.children = [] := by simpa using hc
    refine ⟨.intro ⟨f.element.attributes.nodup_keys, ?_, by simp [h.tail_none], ?_,
      by simp [h.tail_none]⟩ (by simp [hn]), by simp [h.tail_none]⟩
    · cases f.pending <;> simp
    · simp [hn]
  | false =>
    have hs := h.settle
    have ht : f.flush.tail = none := hs.tail_none
    exact ⟨.intro ⟨f.flush.attributes.nodup_keys, ne_empty_of_solid hs.text_solid, by simp [ht],
      fun _ => hs.text_solid, by simp [ht]⟩ hs.children, ht⟩

end Frame

structure Builder.IsTidy (b : Builder) : Prop where
  frames : ∀ f ∈ b.frames, f.IsTidy
  root : ∀ e, b.root = some e → e.Every Element.IsTidy ∧ e.tail = none

namespace Builder

variable {b c : Builder}

lemma IsTidy.settle (h : b.IsTidy) : b.settle.IsTidy := by
  obtain ⟨frames, root⟩ := b
  cases frames with
  | nil => exact h
  | cons f fs =>
    refine ⟨?_, h.root⟩
    intro g hg
    rcases List.mem_cons.mp hg with rfl | hg
    · exact (h.frames f (by simp)).settle
    · exact h.frames g (by simp [hg])

lemma IsTidy.attach (h : b.IsTidy) {e : Element} (he : e.Every Element.IsTidy ∧ e.tail = none)
    (hc : b.attach e = .ok c) : c.IsTidy := by
  obtain ⟨frames, root⟩ := b
  cases frames with
  | nil =>
    simp only [Builder.attach] at hc
    split at hc
    · cases hc
    · obtain rfl := Except.ok.inj hc
      exact ⟨by simp, fun d hd => Option.some.inj hd ▸ he⟩
  | cons f fs =>
    obtain rfl := Except.ok.inj hc
    refine ⟨?_, h.root⟩
    intro g hg
    rcases List.mem_cons.mp hg with rfl | hg
    · exact (h.frames f (by simp)).addChild he.1
    · exact h.frames g (by simp [hg])

lemma IsTidy.addData (h : b.IsTidy) {f : Frame} {fs : List Frame} (hb : b.frames = f :: fs)
    (cs : List Char) : Builder.IsTidy { b with frames := f.addData cs :: fs } := by
  obtain ⟨⟨h1, h2, h3⟩, hfs⟩ := List.forall_mem_cons.mp (hb ▸ h.frames)
  exact ⟨List.forall_mem_cons.mpr ⟨⟨h1, h2, h3⟩, hfs⟩, h.root⟩

lemma element_bare {t : Tag} {e : Element} (h : element t = .ok e) :
    e.text = none ∧ e.tail = none ∧ e.children = [] := by
  unfold element at h
  split at h
  · obtain rfl := Except.ok.inj h
    exact ⟨rfl, rfl, rfl⟩
  · cases h

lemma isTidy_of_element {t : Tag} {e : Element} (h : element t = .ok e) :
    e.Every Element.IsTidy ∧ e.tail = none := by
  obtain ⟨h1, h2, h3⟩ := element_bare h
  exact ⟨.intro ⟨e.attributes.nodup_keys, by simp [h1], by simp [h2], by simp [h1], by simp [h2]⟩
    (by simp [h3]), h2⟩

lemma IsTidy.push (h : b.IsTidy) {t : Tag} {e : Element} (he : element t = .ok e) :
    Builder.IsTidy { b with frames := ⟨e, []⟩ :: b.frames } := by
  obtain ⟨h1, h2, h3⟩ := element_bare he
  exact ⟨List.forall_mem_cons.mpr ⟨⟨by simp [h1], h2, by simp [h3]⟩, h.frames⟩, h.root⟩

lemma IsTidy.step (h : b.IsTidy) {x : Event × Nat} (hc : b.step x = .ok c) : c.IsTidy := by
  obtain ⟨x, p⟩ := x
  cases x with
  | opening t =>
    obtain ⟨e, he, hc⟩ := bind_eq_ok.mp hc
    obtain rfl := Except.ok.inj hc
    exact h.settle.push he
  | empty t =>
    obtain ⟨e, he, hc⟩ := bind_eq_ok.mp hc
    exact h.settle.attach (isTidy_of_element he) hc
  | closing =>
    cases hb : b.frames with
    | nil => simp [Builder.step, hb] at hc
    | cons f fs =>
      simp only [Builder.step, hb] at hc
      have ht : Builder.IsTidy { b with frames := fs } :=
        ⟨fun g hg => h.frames g (by simp [hb, hg]), h.root⟩
      exact ht.attach (h.frames f (by simp [hb])).finish hc
  | text raw =>
    cases hu : unescape raw with
    | error f => simp [Builder.step, hu] at hc
    | ok cs =>
      cases hb : b.frames with
      | nil =>
        simp only [Builder.step, hu, hb] at hc
        split at hc
        · exact Except.ok.inj hc ▸ h
        · cases hc
      | cons f fs =>
        simp only [Builder.step, hu, hb] at hc
        exact Except.ok.inj hc ▸ h.addData hb cs
  | cdata cs =>
    cases hb : b.frames with
    | nil =>
      simp only [Builder.step, hb] at hc
      exact Except.ok.inj hc ▸ h
    | cons f fs =>
      simp only [Builder.step, hb] at hc
      exact Except.ok.inj hc ▸ h.addData hb cs
  | aside => exact Except.ok.inj hc ▸ h

lemma IsTidy.run (h : b.IsTidy) {xs : List (Event × Nat)}
    (hc : xs.foldlM Builder.step b = .ok c) : c.IsTidy := by
  induction xs generalizing b with
  | nil => exact Except.ok.inj hc ▸ h
  | cons x xs ih =>
    rw [List.foldlM_cons] at hc
    obtain ⟨d, hx, hc⟩ := bind_eq_ok.mp hc
    exact ih (h.step hx) hc

end Builder

lemma isTidy_of_parse {source : String} {d : Document} (h : Document.parse source = .ok d) :
    d.IsTidy := by
  obtain ⟨b, hr, h⟩ := bind_eq_ok.mp h
  have hb : b.IsTidy := Builder.IsTidy.run ⟨by simp [Builder.empty], by simp [Builder.empty]⟩ hr
  split at h
  · cases h
  · unfold Builder.finish at h
    split at h
    · cases h
    next e _ he =>
      obtain rfl := Except.ok.inj h
      exact hb.root e he
    · cases h

/--
Writing and reading are inverse on tidy documents whose tags and keys are names, and every document
that was read is tidy. Nothing is asked of the values of attributes or of the data of leaves.
-/
theorem parse_print_of_tidy :
    (∀ d : Document, d.HasNames → d.IsTidy → Document.parse d.print = .ok d) ∧
      ∀ source d, Document.parse source = .ok d →
        d.IsTidy ∧ (d.HasNames → Document.parse d.print = .ok d) := by
  have hp : ∀ d : Document, d.HasNames → d.IsTidy → Document.parse d.print = .ok d := by
    intro d hn ht
    rw [parse_print hn, Document.tidy_eq_self ht]
  exact ⟨hp, fun _ d hd => ⟨isTidy_of_parse hd, fun hn => hp d hn (isTidy_of_parse hd)⟩⟩

def mixedSample : Document where
  root := {
    tag := "set"
    attributes := Dict.ofList [("name", "a<\"b\""), ("id", "")]
    text := some "head "
    children := [
      { tag := "id", text := some "  ", tail := some " & tail\n" },
      { tag := "tag", children := [{ tag := "p:x" }] }] }

theorem parse_print_mixedSample :
    mixedSample.HasNames ∧ mixedSample.IsTidy ∧
      Document.parse mixedSample.print = .ok mixedSample := by
  have hn : mixedSample.HasNames := by decide
  have ht : mixedSample.IsTidy := by decide
  have hp := parse_print_of_tidy.1 mixedSample hn ht
  exact ⟨hn, ht, (parse_print_of_tidy.2 mixedSample.print mixedSample hp).2 hn⟩

end LayoutSync.Markup
