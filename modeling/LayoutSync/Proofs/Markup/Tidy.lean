import LayoutSync.Markup.Document
import LayoutSync.Proofs.Markup.Tags

/-!
What a document keeps when it is written and read. Character data between elements is lost where it
is blank, and empty data is none; an element without children keeps all the data it has.
-/

namespace LayoutSync.Markup

open Text

namespace Element

mutual

theorem induction {motive : Element → Prop}
    (step : ∀ e, (∀ c ∈ e.children, motive c) → motive e) : ∀ e, motive e
  | ⟨tag, attributes, text, tail, children⟩ =>
    step ⟨tag, attributes, text, tail, children⟩ (inductionAll step children)

theorem inductionAll {motive : Element → Prop}
    (step : ∀ e, (∀ c ∈ e.children, motive c) → motive e) : ∀ cs : List Element, ∀ c ∈ cs, motive c
  | [] => by simp
  | c :: cs => by
    intro d hd
    rcases List.mem_cons.mp hd with hd | hd
    · exact hd ▸ induction step c
    · exact inductionAll step cs d hd

end

/-- A property of an element and of all that it holds. -/
inductive Every (P : Element → Prop) : Element → Prop
  | intro {e : Element} : P e → (∀ c ∈ e.children, Every P c) → Every P e

lemma Every.here {P : Element → Prop} {e : Element} (h : e.Every P) : P e := by
  cases h
  assumption

lemma Every.inside {P : Element → Prop} {e : Element} (h : e.Every P) :
    ∀ c ∈ e.children, c.Every P := by
  cases h
  assumption

lemma Every.mono {P Q : Element → Prop} {e : Element} (h : e.Every P) (hpq : ∀ e, P e → Q e) :
    e.Every Q := by
  induction h with
  | intro hp _ ih => exact .intro (hpq _ hp) ih

lemma Every.and {P Q : Element → Prop} {e : Element} (h : e.Every P) (h' : e.Every Q) :
    e.Every fun c => P c ∧ Q c := by
  induction h with
  | intro hp _ ih => exact .intro ⟨hp, h'.here⟩ fun c hc => ih c hc (h'.inside c hc)

mutual

def Every.decide {P : Element → Prop} [DecidablePred P] : (e : Element) → Decidable (e.Every P)
  | ⟨tag, attributes, text, tail, children⟩ =>
    if h : P ⟨tag, attributes, text, tail, children⟩ then
      match Every.decideAll children with
      | isTrue hc => isTrue (.intro h hc)
      | isFalse hc => isFalse fun he => hc he.inside
    else isFalse fun he => h he.here

def Every.decideAll {P : Element → Prop} [DecidablePred P] :
    (cs : List Element) → Decidable (∀ c ∈ cs, c.Every P)
  | [] => isTrue (by simp)
  | c :: cs =>
    match Every.decide c, Every.decideAll cs with
    | isTrue h, isTrue hs => isTrue (by simpa using ⟨h, hs⟩)
    | isFalse h, _ => isFalse fun ha => h (ha c (by simp))
    | _, isFalse hs => isFalse fun ha => hs fun d hd => ha d (by simp [hd])

end

instance {P : Element → Prop} [DecidablePred P] : DecidablePred (Every P) := Every.decide

def HasNames (e : Element) : Prop := IsName e.tag ∧ KeysAreNames e.attributes.entries

instance : DecidablePred HasNames := fun e =>
  inferInstanceAs (Decidable (IsName e.tag ∧ KeysAreNames e.attributes.entries))

def solid (data : Option String) : Option String := data.filter fun s => !allBlank s.toList

mutual

/-- An element without the data that is lost. -/
def tidy : Element → Element
  | ⟨tag, attributes, text, tail, children⟩ =>
    ⟨tag, attributes, if children.isEmpty then text.filter (· ≠ "") else solid text, solid tail,
      tidyAll children⟩

def tidyAll : List Element → List Element
  | [] => []
  | c :: cs => c.tidy :: tidyAll cs

end

lemma tidyAll_eq_map (cs : List Element) : tidyAll cs = cs.map tidy := by
  induction cs with
  | nil => rfl
  | cons c cs ih => rw [tidyAll, ih, List.map_cons]

lemma tidy_eq (e : Element) :
    e.tidy = ⟨e.tag, e.attributes, if e.children.isEmpty then e.text.filter (· ≠ "") else solid e.text,
      solid e.tail, e.children.map tidy⟩ := by
  cases e
  rw [tidy, tidyAll_eq_map]

def alone (e : Element) : Element := { e with tail := none }

structure IsTidy (e : Element) : Prop where
  distinct : (Assoc.keys e.attributes.entries).Nodup
  text_ne : e.text ≠ some ""
  tail_ne : e.tail ≠ some ""
  text_solid : e.children ≠ [] → ∀ s ∈ e.text, allBlank s.toList = false
  tail_solid : ∀ s ∈ e.tail, allBlank s.toList = false

instance : DecidablePred IsTidy := fun e =>
  decidable_of_iff ((Assoc.keys e.attributes.entries).Nodup ∧ e.text ≠ some "" ∧
      e.tail ≠ some "" ∧ (e.children ≠ [] → ∀ s ∈ e.text, allBlank s.toList = false) ∧
      ∀ s ∈ e.tail, allBlank s.toList = false)
    ⟨fun ⟨h1, h2, h3, h4, h5⟩ => ⟨h1, h2, h3, h4, h5⟩,
      fun ⟨h1, h2, h3, h4, h5⟩ => ⟨h1, h2, h3, h4, h5⟩⟩

lemma solid_eq_self {data : Option String} (h : ∀ s ∈ data, allBlank s.toList = false) :
    solid data = data := by
  cases data with
  | none => rfl
  | some s => simp [solid, h s rfl]

lemma solid_eq_some {data : Option String} {s : String} (h : solid data = some s) :
    data = some s ∧ allBlank s.toList = false := by
  simpa [solid] using Option.filter_eq_some_iff.mp h

lemma solid_ne (data : Option String) : solid data ≠ some "" := by
  intro h
  have := (solid_eq_some h).2
  simp at this

lemma filter_ne_eq_self {data : Option String} (h : data ≠ some "") :
    data.filter (· ≠ "") = data := by
  cases data with
  | none => rfl
  | some s => simpa using h

lemma tidy_eq_self {e : Element} (h : e.Every IsTidy) : e.tidy = e := by
  induction h with
  | @intro e hp _ ih =>
    have hc : e.children.map tidy = e.children :=
      (List.map_congr_left ih).trans (List.map_id' _)
    have ht : (if e.children.isEmpty then e.text.filter (· ≠ "") else solid e.text) = e.text := by
      split
      · exact filter_ne_eq_self hp.text_ne
      next he => exact solid_eq_self (hp.text_solid (by simpa using he))
    rw [tidy_eq, hc, ht, solid_eq_self hp.tail_solid]
    cases e
    rfl

lemma isTidy_tidy (e : Element) : IsTidy e.tidy := by
  rw [tidy_eq]
  refine ⟨e.attributes.nodup_keys, ?_, solid_ne _, ?_, fun _ => And.right ∘ solid_eq_some⟩
  · dsimp only
    split
    · simp [Option.filter_eq_some_iff]
    · exact solid_ne _
  · intro hc s hs
    have he : e.children.isEmpty = false := by simpa using hc
    simp only [he, Bool.false_eq_true, if_false] at hs
    exact (solid_eq_some hs).2

lemma every_isTidy_tidy (e : Element) : e.tidy.Every IsTidy := by
  induction e using induction with
  | step e ih =>
    refine .intro (isTidy_tidy e) ?_
    intro c hc
    rw [tidy_eq] at hc
    obtain ⟨d, hd, rfl⟩ := List.mem_map.mp hc
    exact ih d hd

lemma every_hasNames_tidy {e : Element} (h : e.Every HasNames) : e.tidy.Every HasNames := by
  induction h with
  | @intro e hp _ ih =>
    rw [tidy_eq]
    refine .intro hp ?_
    intro c hc
    obtain ⟨d, hd, rfl⟩ := List.mem_map.mp hc
    exact ih d hd

end Element

namespace Document

def HasNames (d : Document) : Prop := d.root.Every Element.HasNames

instance : DecidablePred HasNames := fun d =>
  inferInstanceAs (Decidable (d.root.Every Element.HasNames))

/-- Nothing of a document is lost when it is written and read. -/
def IsTidy (d : Document) : Prop := d.root.Every Element.IsTidy ∧ d.root.tail = none

instance : DecidablePred IsTidy := fun d =>
  inferInstanceAs (Decidable (d.root.Every Element.IsTidy ∧ d.root.tail = none))

def tidy (d : Document) : Document := ⟨d.root.tidy.alone⟩

lemma tidy_eq_self {d : Document} (h : d.IsTidy) : d.tidy = d := by
  have ha : d.root.alone = d.root := by
    cases hd : d.root
    simp_all [Element.alone, IsTidy]
  rw [tidy, Element.tidy_eq_self h.1, ha]

lemma HasNames.tidy {d : Document} (h : d.HasNames) : d.tidy.HasNames := by
  have hr := Element.every_hasNames_tidy h
  exact .intro hr.here hr.inside

lemma isTidy_tidy (d : Document) : d.tidy.IsTidy := by
  have h := Element.every_isTidy_tidy d.root
  have hh := h.here
  exact ⟨.intro ⟨hh.distinct, hh.text_ne, by simp [tidy, Element.alone], hh.text_solid,
    by simp [tidy, Element.alone]⟩ h.inside, rfl⟩

end Document

end LayoutSync.Markup
