import LayoutSync.Proofs.Json.RoundTrip
import LayoutSync.Proofs.Layout.Completion

namespace LayoutSync.Layout

open Json

namespace Parameters

lemma print_head (p : Parameters) : ∃ s, p.print.toList = '{' :: s := by
  rw [print, Value.printFile, String.toList_ofList]
  cases p with
  | nil =>
    rw [Value.print]
    exact ⟨_, rfl⟩
  | cons m ms =>
    rw [Value.print]
    exact ⟨_, rfl⟩

lemma parse_print {p : Parameters} (h : (Value.object p).Fits Number.ReadsBack maxDepth) :
    parse (some p.print) = .ok p := by
  obtain ⟨s, hs⟩ := p.print_head
  have hb : Text.allBlank p.print.toList = false := by
    rw [hs]
    rfl
  have hp : Value.parse p.print = .ok (.object p) := parse_printFile h
  simp [parse, hb, hp]

lemma parse_cases {existing : Option String} {p : Parameters} (h : parse existing = .ok p) :
    p = [] ∨ ∃ source, existing = some source ∧ Value.parse source = .ok (.object p) := by
  unfold parse at h
  split at h
  · exact .inl (Except.ok.inj h).symm
  next source =>
    split at h
    · exact .inl (Except.ok.inj h).symm
    · split at h
      next ms hv =>
        obtain rfl := Except.ok.inj h
        exact .inr ⟨source, rfl, hv⟩
      · cases h
      · cases h

lemma fits_of_parse {existing : Option String} {p : Parameters} (h : parse existing = .ok p) :
    (Value.object p).Fits Number.InRange maxDepth := by
  rcases parse_cases h with rfl | ⟨source, _, hv⟩
  · exact .object List.nodup_nil (by simp)
  · exact Json.fits_of_parse hv

section Fits

variable {P : Number → Prop} {room : Nat}

lemma fits_ensure {ms : Parameters} (h : (Value.object ms).Fits P (room + 1)) (k : String)
    {v : Value} (hv : v.Fits P room) : (Value.object (ensure k v ms)).Fits P (room + 1) := by
  cases h with
  | object hk hm =>
    refine .object (nodup_keys_ensure k v hk) ?_
    unfold ensure
    split
    · exact hm
    · intro m h
      rcases List.mem_append.mp h with h | h
      · exact hm m h
      · obtain rfl := List.mem_singleton.mp h
        exact hv

lemma fits_empty : (Value.object []).Fits P (room + 1) := .object List.nodup_nil (by simp)

lemma fits_withAll {ps : Parameters} (h : (Value.object ps).Fits P (room + 2))
    (children : List String) : (Value.object (withAll children ps)).Fits P (room + 2) := by
  induction children generalizing ps with
  | nil => exact h
  | cons c cs ih => exact ih (fits_ensure h c fits_empty)

lemma fits_get? {ms : Parameters} (h : (Value.object ms).Fits P (room + 1)) {k : String} {v : Value}
    (hv : Assoc.get? k ms = some v) : v.Fits P room := by
  cases h with
  | object hn hm => exact hm (k, v) ((Assoc.get?_eq_some_iff hn).mp hv)

lemma fits_completeEntry {entry : Parameters} (h : (Value.object entry).Fits P (room + 3))
    (defaultType : String) (children : List String) :
    (Value.object (completeEntry defaultType children entry)).Fits P (room + 3) := by
  have hw : (Value.object (withKeys defaultType entry)).Fits P (room + 3) :=
    fits_ensure (fits_ensure h _ (.string _ _)) _ fits_empty
  unfold completeEntry
  dsimp only
  split
  next ps hp => exact hw.put _ (fits_withAll (fits_get? hw hp) children)
  · exact hw

lemma fits_ofParameters {p : Parameters} (h : (Value.object p).Fits P (room + 4)) (x : ViewIndex)
    (defaultType : String) :
    (Value.object (ParametersUpdate.ofParameters x defaultType p).parameters).Fits P (room + 4) := by
  refine List.foldlRecOn
    (motive := fun u : ParametersUpdate => (Value.object u.parameters).Fits P (room + 4))
    x.containers (ParametersUpdate.addContainer x defaultType) h fun u hu r _ => ?_
  rcases ParametersUpdate.parameters_addContainer x defaultType u r with ⟨he, _⟩ |
      ⟨entry, he, hentry⟩
  · rw [he]
    exact hu
  · rw [he]
    refine hu.put _ (fits_completeEntry ?_ _ _)
    rcases hentry with ⟨_, rfl⟩ | hg
    · exact fits_empty
    · exact fits_get? hu hg

end Fits

end Parameters

/-- All numbers in an existing parameter file read back from what they are written as. -/
def NumbersReadBack (existing : Option String) : Prop :=
  ∀ p, Parameters.parse existing = .ok p → (Value.object p).AllNumbers Number.ReadsBack

def ReadsIntegers (source : String) : Prop :=
  ∀ v, Value.parse source = .ok v → v.AllNumbers Number.IsInteger

lemma numbersReadBack_of_readsIntegers {existing : Option String}
    (h : ∀ source ∈ existing, ReadsIntegers source) : NumbersReadBack existing := by
  intro p hp
  rcases Parameters.parse_cases hp with rfl | ⟨source, hs, hv⟩
  · exact .object (by simp)
  · exact ((Json.fits_of_parse hv).strengthen (h source hs _ hv)
      fun _ => readsBack_of_isInteger).allNumbers

lemma readsIntegers_print {p : Parameters} (h : (Value.object p).Fits Number.InRange maxDepth)
    (hi : (Value.object p).AllNumbers Number.IsInteger) : ReadsIntegers p.print := by
  have hp : Value.parse p.print = .ok (.object p) :=
    parse_printFile (h.strengthen hi fun _ => readsBack_of_isInteger)
  intro v hv
  rw [hp] at hv
  obtain rfl := Except.ok.inj hv
  exact hi

section Sync

variable {x : ViewIndex} {existing : Option String} {defaultType : String} {u : ParametersUpdate}

lemma syncParameters_ok (h : syncParameters x existing defaultType = .ok u) :
    ∃ p, Parameters.parse existing = .ok p ∧ u = ParametersUpdate.ofParameters x defaultType p := by
  obtain ⟨p, hp, hu⟩ := bind_eq_ok.mp h
  exact ⟨p, hp, (Except.ok.inj hu).symm⟩

lemma parse_of_syncParameters (hn : NumbersReadBack existing)
    (h : syncParameters x existing defaultType = .ok u) :
    Parameters.parse (some u.parameters.print) = .ok u.parameters := by
  obtain ⟨p, hp, rfl⟩ := syncParameters_ok h
  have hf := (Parameters.fits_of_parse hp).strengthen (hn p hp) fun _ _ hq => hq
  exact Parameters.parse_print (Parameters.fits_ofParameters hf x defaultType)

lemma syncParameters_again (hn : NumbersReadBack existing)
    (h : syncParameters x existing defaultType = .ok u) :
    syncParameters x (some u.parameters.print) defaultType =
      .ok { parameters := u.parameters } := by
  rw [syncParameters, parse_of_syncParameters hn h]
  obtain ⟨p, _, rfl⟩ := syncParameters_ok h
  rw [ok_bind, pure_eq_ok, ParametersUpdate.ofParameters_again]

/-- A file that was written after an update has nothing more to gain. -/
theorem syncParameters_settles (hi : ∀ source ∈ existing, ReadsIntegers source)
    (h : syncParameters x existing defaultType = .ok u) :
    ∃ v, syncParameters x (some u.parameters.print) defaultType = .ok v ∧ v.changed = false ∧
      v.addedEntries = [] ∧ v.addedParameters = [] ∧ v.parameters = u.parameters ∧
      v.parameters.print = u.parameters.print :=
  ⟨_, syncParameters_again (numbersReadBack_of_readsIntegers hi) h, rfl, rfl, rfl, rfl, rfl⟩

def untypedSample : Parameters :=
  [("login", .object [("\"größe\"\n", .array [.number (.integer (-3)), .null])])]

def untypedLayout : Markup.Element where
  tag := "View"
  attributes := Dict.ofList [("id", "login")]
  children := [{ tag := "Text", attributes := Dict.ofList [("id", "title")] }]

theorem syncParameters_settles_untyped :
    let x := ViewIndex.ofLayout untypedLayout .structural
    let u := ParametersUpdate.ofParameters x "View" untypedSample
    ReadsIntegers untypedSample.print ∧
      syncParameters x (some untypedSample.print) "View" = .ok u ∧
      ∃ v, syncParameters x (some u.parameters.print) "View" = .ok v ∧ v.changed = false ∧
        v.addedEntries = [] ∧ v.addedParameters = [] ∧ v.parameters = u.parameters ∧
        v.parameters.print = u.parameters.print := by
  intro x u
  have hf : (Value.object untypedSample).Fits Number.InRange maxDepth := by
    refine .object (by decide) (List.forall_mem_singleton.mpr ?_)
    refine .object (by decide) (List.forall_mem_singleton.mpr (.array ?_))
    exact List.forall_mem_cons.mpr
      ⟨.number _ ⟨by decide, by decide⟩, List.forall_mem_singleton.mpr (.null _)⟩
  have hi : (Value.object untypedSample).AllNumbers Number.IsInteger := by
    refine .object (List.forall_mem_singleton.mpr (.object (List.forall_mem_singleton.mpr ?_)))
    exact .array (List.forall_mem_cons.mpr
      ⟨.number trivial, List.forall_mem_singleton.mpr .null⟩)
  have hr : ReadsIntegers untypedSample.print := readsIntegers_print hf hi
  have hu : syncParameters x (some untypedSample.print) "View" = .ok u := by
    rw [syncParameters, Parameters.parse_print (hf.strengthen hi fun _ => readsBack_of_isInteger)]
    rfl
  refine ⟨hr, hu, syncParameters_settles (fun source hs => ?_) hu⟩
  obtain rfl := Option.some.inj hs
  exact hr

end Sync

end LayoutSync.Layout
