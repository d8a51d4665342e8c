import LayoutSync.Proofs.Markup.AttributeLists
import LayoutSync.Proofs.Markup.Grammar

/-!
Which events are those of a document. Beside what can be read in each event for itself, only a count
matters: how many elements are open before an event, and how many elements start where none is open.
-/

namespace LayoutSync.Markup

open Text

namespace Event

def delta : Event → Int
  | opening _ => 1
  | closing => -1
  | _ => 0

def isStart : Event → Bool
  | opening _ => true
  | empty _ => true
  | _ => false

def Readable (depth : Int) : Event → Prop
  | opening t => ∃ raws, t.Lists raws ∧ ∀ a ∈ raws, ∃ cs, unescape a.value = .ok cs
  | empty t => ∃ raws, t.Lists raws ∧ ∀ a ∈ raws, ∃ cs, unescape a.value = .ok cs
  | text raw => ∃ cs, unescape raw = .ok cs ∧ (depth = 0 → allBlank cs = true)
  | _ => True

end Event

def depth : List Event → Int
  | [] => 0
  | x :: es => x.delta + depth es

def outermost (es : List Event) : List Nat :=
  (List.range es.length).filter fun k => depth (es.take k) = 0 ∧ es[k]?.any Event.isStart

def AtEach (P : List Event → Event → Prop) (es : List Event) : Prop :=
  ∀ before x after, es = before ++ x :: after → P before x

def ClosesOpen : List Event → Prop := AtEach fun before x => x = .closing → 0 < depth before

/-- The events are those of one element that is closed, and all of them can be read. -/
structure Acceptable (es : List Event) : Prop where
  readable : AtEach (fun before x => x.Readable (depth before)) es
  closed : depth es = 0
  single : ∃ k, outermost es = [k]

def Reading.shape (r : Reading) : List Event := r.events.map Prod.fst

lemma Reading.shape_cons (x : Event) (p : Nat) (r : Reading) : (r.cons x p).shape = x :: r.shape :=
  rfl

section Lists

variable {P : List Event → Event → Prop} {es : List Event} {x : Event}

lemma atEach_nil : AtEach P [] := by
  intro before x after h
  simp at h

lemma atEach_cons : AtEach P (x :: es) ↔ P [] x ∧ AtEach (fun before => P (x :: before)) es := by
  constructor
  · intro h
    refine ⟨h [] x es rfl, ?_⟩
    rintro before y after rfl
    exact h (x :: before) y after rfl
  · rintro ⟨hx, h⟩ before y after he
    cases before with
    | nil =>
      obtain ⟨rfl, rfl⟩ := List.cons.inj he
      exact hx
    | cons z before =>
      obtain ⟨rfl, rfl⟩ := List.cons.inj he
      exact h before y after rfl

lemma atEach_concat : AtEach P (es ++ [x]) ↔ AtEach P es ∧ P es x := by
  constructor
  · intro h
    refine ⟨?_, h es x [] rfl⟩
    rintro before y after rfl
    exact h before y (after ++ [x]) (by simp)
  · rintro ⟨h, hx⟩ before y after he
    cases after using List.reverseRecOn with
    | nil =>
      obtain ⟨rfl, hy⟩ := List.append_inj' he rfl
      exact (List.cons.inj hy).1 ▸ hx
    | append_singleton after z =>
      rw [← List.cons_append, ← List.append_assoc] at he
      exact h before y after (List.append_inj' he rfl).1

lemma depth_cons (x : Event) (es : List Event) : depth (x :: es) = x.delta + depth es := rfl

lemma depth_concat (es : List Event) (x : Event) : depth (es ++ [x]) = depth es + x.delta := by
  induction es with
  | nil => exact Int.add_comm x.delta 0
  | cons y es ih => rw [List.cons_append, depth_cons, depth_cons, ih, Int.add_assoc]

lemma outermost_concat (es : List Event) (x : Event) : outermost (es ++ [x]) =
    outermost es ++ if depth es = 0 ∧ x.isStart then [es.length] else [] := by
  have hs : ∀ k ∈ List.range es.length,
      decide (depth ((es ++ [x]).take k) = 0 ∧ (es ++ [x])[k]?.any Event.isStart) =
        decide (depth (es.take k) = 0 ∧ es[k]?.any Event.isStart) := by
    intro k hk
    have hk := List.mem_range.mp hk
    rw [List.take_append_of_le_length hk.le, List.getElem?_append_left hk]
  rw [outermost, List.length_append, List.length_singleton, List.range_succ, List.filter_append,
    List.filter_congr hs, outermost]
  simp [List.filter_cons]

end Lists

namespace Builder

variable {b c : Builder} {es : List Event} {x : Event} {e : Element}

def roots (b : Builder) : Nat := (if b.frames = [] then 0 else 1) + b.root.toList.length

lemma roots_nil (root : Option Element) : roots ⟨[], root⟩ = root.toList.length := Nat.zero_add _

lemma roots_cons (f : Frame) (fs : List Frame) (root : Option Element) :
    roots ⟨f :: fs, root⟩ = 1 + root.toList.length :=
  rfl

structure Counts (b : Builder) (es : List Event) : Prop where
  frames : (b.frames.length : Int) = depth es
  roots : b.roots = (outermost es).length

namespace Counts

lemma depth_eq_zero (h : b.Counts es) : depth es = 0 ↔ b.frames = [] := by
  rw [← h.frames]
  simp

lemma depth_pos (h : b.Counts es) : 0 < depth es ↔ b.frames ≠ [] := by
  rw [← h.frames]
  cases b.frames <;> simp

lemma next (h : b.Counts es) (hf : (c.frames.length : Int) = b.frames.length + x.delta)
    (hr : c.roots = b.roots + if b.frames = [] ∧ x.isStart then 1 else 0) :
    c.Counts (es ++ [x]) where
  frames := by rw [hf, h.frames, depth_concat]
  roots := by
    rw [hr, h.roots, outermost_concat, List.length_append]
    simp only [h.depth_eq_zero]
    split <;> rfl

lemma take (h : b.Counts es) (hc : b.take x = some c) : c.Counts (es ++ [x]) := by
  obtain ⟨frames, root⟩ := b
  -- An event moves the depth by what it opens or closes, and a root starts where nothing is open.
  cases x with
  | opening t =>
    rw [take_opening] at hc
    obtain ⟨e, -, rfl⟩ := Option.map_eq_some_iff.mp hc
    cases frames with
    | nil => exact h.next rfl (by simp [roots_nil, roots_cons, settle, Event.isStart, Nat.add_comm])
    | cons f fs => exact h.next rfl (by simp [roots_cons, settle])
  | empty t =>
    rw [take_empty] at hc
    obtain ⟨e, -, hc⟩ := Option.bind_eq_some_iff.mp hc
    cases frames with
    | nil =>
      obtain ⟨-, rfl, rfl⟩ | ⟨f, fs, hf, -⟩ := attach_eq_some_iff.mp hc
      · exact h.next rfl rfl
      · cases hf
    | cons f fs =>
      obtain rfl := Option.some.inj hc
      exact h.next (by simp [Event.delta]) (by simp [roots_cons, settle_root])
  | closing =>
    cases frames with
    | nil => cases hc
    | cons f fs =>
      rw [take_closing] at hc
      obtain ⟨rfl, rfl, rfl⟩ | ⟨g, gs, rfl, rfl⟩ := attach_eq_some_iff.mp hc
      · exact h.next rfl rfl
      · exact h.next (by simp only [Event.delta, List.length_cons]; omega)
          (by simp [roots_cons])
  | text raw =>
    rw [take_text] at hc
    obtain ⟨cs, -, hc⟩ := Option.bind_eq_some_iff.mp hc
    obtain ⟨-, -, rfl⟩ | ⟨f, fs, rfl, rfl⟩ := addData?_eq_some_iff.mp hc
    · exact h.next (by simp [Event.delta]) (by simp [Event.isStart])
    · exact h.next (by simp [Event.delta]) (by simp [roots_cons])
  | cdata cs =>
    cases frames <;> obtain rfl := Option.some.inj hc
    · exact h.next rfl rfl
    · exact h.next (by simp [Event.delta]) (by simp [roots_cons])
  | aside =>
    obtain rfl := Option.some.inj hc
    exact h.next (by simp [Event.delta]) (by simp [Event.isStart])

end Counts

lemma exists_element_iff {t : Tag} : (∃ e, (element t).toOption = some e) ↔
    ∃ raws, t.Lists raws ∧ ∀ a ∈ raws, ∃ cs, unescape a.value = .ok cs := by
  simp only [← Tag.exists_attributes_iff, toOption_element_iff, exists_comm (α := Element),
    exists_and_left, exists_eq, and_true]

lemma Counts.readable (h : b.Counts es) (hc : b.take x = some c) : x.Readable (depth es) := by
  cases x with
  | opening t =>
    rw [take_opening] at hc
    obtain ⟨e, he, -⟩ := Option.map_eq_some_iff.mp hc
    exact exists_element_iff.mp ⟨e, he⟩
  | empty t =>
    rw [take_empty] at hc
    obtain ⟨e, he, -⟩ := Option.bind_eq_some_iff.mp hc
    exact exists_element_iff.mp ⟨e, he⟩
  | text raw =>
    rw [take_text] at hc
    obtain ⟨cs, hcs, hc⟩ := Option.bind_eq_some_iff.mp hc
    refine ⟨cs, toOption_eq_some.mp hcs, fun hd => ?_⟩
    obtain ⟨-, hb, -⟩ | ⟨f, fs, hf, -⟩ := addData?_eq_some_iff.mp hc
    · exact hb
    · cases (h.depth_eq_zero.mp hd).symm.trans hf
  | closing => trivial
  | cdata cs => trivial
  | aside => trivial

lemma Counts.root_eq_none (h : b.Counts es) (hx : b.frames = [] → x.isStart = true)
    (ho : (outermost (es ++ [x])).length ≤ 1) : b.root = none := by
  rw [outermost_concat, List.length_append, ← h.roots] at ho
  simp only [h.depth_eq_zero] at ho
  obtain ⟨frames, root⟩ := b
  cases root with
  | none => rfl
  | some r => cases frames <;> simp [roots_nil, roots_cons, hx] at ho

lemma exists_attach (h : b.root = none) (e : Element) : ∃ c, (b.attach e).toOption = some c := by
  obtain ⟨frames, root⟩ := b
  obtain rfl : root = none := h
  cases frames <;> exact ⟨_, rfl⟩

lemma Counts.exists_take (h : b.Counts es) (hr : x.Readable (depth es))
    (hc : x = .closing → 0 < depth es) (ho : (outermost (es ++ [x])).length ≤ 1) :
    ∃ c, b.take x = some c := by
  cases x with
  | opening t =>
    obtain ⟨e, he⟩ := exists_element_iff.mpr hr
    exact ⟨_, by rw [take_opening, he, Option.map_some]⟩
  | empty t =>
    obtain ⟨e, he⟩ := exists_element_iff.mpr hr
    have hn : b.settle.root = none := b.settle_root.trans (h.root_eq_none (fun _ => rfl) ho)
    obtain ⟨c, hc⟩ := exists_attach hn e
    exact ⟨c, by rw [take_empty, he, Option.bind_some, hc]⟩
  | closing =>
    have hf := h.depth_pos.mp (hc rfl)
    have hn := h.root_eq_none (fun h => absurd h hf) ho
    obtain ⟨frames, root⟩ := b
    cases frames with
    | nil => exact absurd rfl hf
    | cons f fs => exact exists_attach (b := ⟨fs, root⟩) hn f.finish
  | text raw =>
    obtain ⟨cs, hu, hb⟩ := hr
    rw [take_text, decode, hu]
    by_cases hf : b.frames = []
    · exact ⟨b, addData?_eq_some_iff.mpr (.inl ⟨hf, hb (h.depth_eq_zero.mpr hf), rfl⟩)⟩
    · obtain ⟨f, fs, hf⟩ := List.exists_cons_of_ne_nil hf
      exact ⟨_, addData?_eq_some_iff.mpr (.inr ⟨f, fs, hf, rfl⟩)⟩
  | cdata cs =>
    obtain ⟨frames, root⟩ := b
    cases frames <;> exact ⟨_, rfl⟩
  | aside => exact ⟨b, rfl⟩

lemma counts_run (h : empty.run es = some b) :
    b.Counts es ∧ AtEach (fun before x => x.Readable (depth before)) es := by
  induction es using List.reverseRecOn generalizing b with
  | nil =>
    obtain rfl := Option.some.inj h
    exact ⟨⟨rfl, rfl⟩, atEach_nil⟩
  | append_singleton es x ih =>
    rw [run_concat] at h
    obtain ⟨c, hc, hb⟩ := Option.bind_eq_some_iff.mp h
    obtain ⟨hn, hr⟩ := ih hc
    exact ⟨hn.take hb, atEach_concat.mpr ⟨hr, hn.readable hb⟩⟩

lemma exists_run (hr : AtEach (fun before x => x.Readable (depth before)) es)
    (hc : ClosesOpen es) (ho : (outermost es).length ≤ 1) : ∃ b, empty.run es = some b := by
  induction es using List.reverseRecOn with
  | nil => exact ⟨empty, rfl⟩
  | append_singleton es x ih =>
    obtain ⟨hr, hx⟩ := atEach_concat.mp hr
    obtain ⟨hc, hxc⟩ := atEach_concat.mp hc
    have ho' : (outermost es).length ≤ 1 := by
      rw [outermost_concat, List.length_append] at ho
      omega
    obtain ⟨b, hb⟩ := ih hr hc ho'
    obtain ⟨c, hc⟩ := (counts_run hb).1.exists_take hx hxc ho
    exact ⟨c, by rw [run_concat, hb, Option.bind_some, hc]⟩

lemma exists_document_iff (hc : ClosesOpen es) :
    (∃ d : Document, ∃ b, empty.run es = some b ∧ b.frames = [] ∧ b.root = some d.root) ↔
      Acceptable es := by
  constructor
  · rintro ⟨d, b, hb, hf, hr⟩
    obtain ⟨hn, hread⟩ := counts_run hb
    refine ⟨hread, hn.depth_eq_zero.mpr hf, List.length_eq_one_iff.mp ?_⟩
    rw [← hn.roots, roots, hf, hr]
    rfl
  · rintro ⟨hread, hd, hs⟩
    have ho : (outermost es).length = 1 := List.length_eq_one_iff.mpr hs
    obtain ⟨b, hb⟩ := exists_run hread hc ho.le
    have hn := (counts_run hb).1
    have hf := hn.depth_eq_zero.mp hd
    obtain ⟨frames, root⟩ := b
    obtain rfl : frames = [] := hf
    have hr := hn.roots
    rw [ho, roots_nil] at hr
    cases root with
    | none => cases hr
    | some r => exact ⟨⟨r⟩, _, hb, rfl, rfl⟩

end Builder

section Reader

variable {opened : List (List Char)} {p : Nat} {r : List Char} {s : Step}

lemma delta_of_bangEvent {k : Construct} {content : List Char} {x : Event}
    (h : bangEvent k content = .ok x) : x.delta = 0 := by
  unfold bangEvent at h
  split at h <;> split at h
  · obtain rfl := Except.ok.inj h
    rfl
  · cases h
  · obtain rfl := Except.ok.inj h
    rfl
  · cases h
  · split at h
    · obtain rfl := Except.ok.inj h
      rfl
    · cases h
  · cases h

lemma opened_of_readConstruct {k : Construct} {complete : List Char → Bool}
    (h : readConstruct opened p k complete r = .ok s) :
    s.opened = opened ∧ s.event.delta = 0 := by
  unfold readConstruct at h
  split at h
  · cases h
  next content rest hb =>
    simp only at h
    split at h
    next he =>
      obtain rfl := Except.ok.inj h
      exact ⟨rfl, delta_of_bangEvent he⟩
    · cases h

lemma opened_of_readBang (h : readBang opened p r = .ok s) :
    s.opened = opened ∧ s.event.delta = 0 := by
  unfold readBang at h
  split at h
  · cases h
  · split at h
    · exact opened_of_readConstruct h
    · split at h
      · exact opened_of_readConstruct h
      · split at h
        · exact opened_of_readConstruct h
        · cases h

lemma length_opened_of_readMarkup {c : Char} (h : readMarkup opened p c r = .ok s) :
    (s.opened.length : Int) = opened.length + s.event.delta := by
  unfold readMarkup at h
  split at h
  · obtain ⟨ho, hd⟩ := opened_of_readBang h
    rw [ho, hd, Int.add_zero]
  · split at h
    · unfold readClosing at h
      simp only at h
      split at h
      · cases h
      · split at h
        · obtain rfl := Except.ok.inj h
          simp only [Event.delta, List.length_cons]
          omega
        · cases h
    · split at h
      · unfold readInstruction at h
        simp only at h
        split at h
        · obtain rfl := Except.ok.inj h
          simp [Event.delta]
        · cases h
      · obtain rfl := Except.ok.inj h
        unfold readOpening
        simp only
        split <;> simp [Event.delta]

lemma closesOpen_readEvents (opened : List (List Char)) (p : Nat) (cs : List Char) :
    AtEach (fun before x => x = .closing → 0 < opened.length + depth before)
      (readEvents opened p cs).shape := by
  induction opened, p, cs using readEvents.induct with
  | case1 opened p =>
    rw [readEvents.eq_def]
    exact atEach_nil
  | case2 opened p =>
    rw [readEvents.eq_def]
    exact atEach_nil
  | case3 opened p c r stop h =>
    rw [readEvents_fault h]
    exact atEach_nil
  | case4 opened p c r s h ih =>
    -- The names that are kept count the open elements, so the depth starts from them.
    have hl := length_opened_of_readMarkup h
    rw [readEvents_tag opened p h, Reading.shape_cons]
    refine atEach_cons.mpr ⟨fun hx => ?_, fun before x after he hx => ?_⟩
    · rw [hx, Event.delta] at hl
      simp only [depth]
      omega
    · have := ih before x after he hx
      rw [depth_cons]
      omega
  | case5 opened p c r hc raw rest stop ih =>
    rw [readEvents.eq_def]
    simp only [hc, if_false]
    rw [Reading.shape_cons]
    refine atEach_cons.mpr ⟨nofun, fun before x after he hx => ?_⟩
    have := ih before x after he hx
    simpa [depth_cons, Event.delta] using this

lemma closesOpen_ofText (source : String) : ClosesOpen (Reading.ofText source).shape := by
  have h : ∀ cs, ClosesOpen (readEvents [] 0 cs).shape := by
    intro cs before x after he hx
    have := closesOpen_readEvents [] 0 cs before x after he hx
    rwa [List.length_nil, Int.natCast_zero, Int.zero_add] at this
  unfold Reading.ofText
  split <;> exact h _

end Reader

namespace Document

/--
Events are accepted exactly if they are those of one element, and what is read from them is what the
grammar says. A reader yields only events whose closing tags have an element to close.
-/
theorem ofReading_iff_acceptable :
    (∀ source, ClosesOpen (Reading.ofText source).shape) ∧
      (∀ r : Reading, r.fault = none →
        (ClosesOpen r.shape → ((∃ d, ofReading r = .ok d) ↔ Acceptable r.shape)) ∧
          ∀ d, ofReading r = .ok d ↔ ReadsDocument r.shape d) ∧
      ∀ (t : Tag) (as : Dict String), t.attributes = .ok as ↔
        ∃ raws, t.Lists raws ∧ (raws.map RawAttribute.key).Nodup ∧
          List.Forall₂ RawAttribute.Means raws as.entries := by
  refine ⟨closesOpen_ofText, fun r hr => ⟨fun hc => ?_, fun d => ?_⟩, fun t as => ?_⟩
  · rw [← Builder.exists_document_iff hc]
    simp only [ofReading_eq_ok_iff, hr, true_and]
    rfl
  · rw [ofReading_eq_ok_iff, ← run_eq_iff_readsDocument]
    simp only [hr, true_and]
    rfl
  · rw [Tag.attributes_eq_ok_iff]
    constructor
    · rintro ⟨raws, hl, hf⟩
      exact ⟨raws, hl, (Markup.Lists.nodup_keys hl).1, hf⟩
    · rintro ⟨raws, hl, -, hf⟩
      exact ⟨raws, hl, hf⟩

theorem ofReading_iff_acceptable_mixed :
    let source := "<a k='1'>x<!-- -->y<b>z<![CDATA[<]]></b><c/> <?p ?>w</a>"
    let b : Element := { tag := "b", text := some "z<" }
    let c : Element := { tag := "c", tail := some " w" }
    let a : Element :=
      { tag := "a", attributes := Dict.ofList [("k", "1")], text := some "xy", children := [b, c] }
    (Reading.ofText source).fault = none ∧ Acceptable (Reading.ofText source).shape ∧
      ReadsDocument (Reading.ofText source).shape ⟨a⟩ := by
  intro source b c a
  have hf : (Reading.ofText source).fault = none := by decide +kernel
  have hd : ofReading (Reading.ofText source) = .ok ⟨a⟩ := toOption_eq_some.mp (by decide +kernel)
  obtain ⟨hc, hr, -⟩ := ofReading_iff_acceptable
  exact ⟨hf, ((hr _ hf).1 (hc source)).mp ⟨_, hd⟩, ((hr _ hf).2 _).mp hd⟩

end Document

end LayoutSync.Markup
