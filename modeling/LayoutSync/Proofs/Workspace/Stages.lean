import LayoutSync.Proofs.FileTree.Housed
import LayoutSync.Proofs.Workspace.Writing

/-!
Stages, each for one file, run one after the other. When no stage's file is on the trail of
another's, a stage that would do nothing right after it ran still does nothing after all have run.
-/

namespace LayoutSync

open FileTree Workspace

abbrev Stage := FileTree → Step Status

def runStages : List (String × Stage) → FileTree → Step (List FileStatus)
  | [], t => (t, [])
  | (path, stage) :: stages, t =>
    let (t, status) := stage t
    let (t, rest) := runStages stages t
    (t, ⟨path, status⟩ :: rest)

/-- Neither path leads to where the other passes. -/
def FileTree.Apart (t : FileTree) (p q : String) : Prop :=
  t.location p ∉ t.trailOf q ∧ t.location q ∉ t.trailOf p

instance (t : FileTree) : DecidableRel t.Apart := fun p q =>
  inferInstanceAs (Decidable (t.location p ∉ t.trailOf q ∧ t.location q ∉ t.trailOf p))

section Run

variable {t u v : FileTree} {stages : List (String × Stage)}

lemma runStages_append (ss rs : List (String × Stage)) (t : FileTree) :
    runStages (ss ++ rs) t =
      ((runStages rs (runStages ss t).1).1,
        (runStages ss t).2 ++ (runStages rs (runStages ss t).1).2) := by
  induction ss generalizing t with
  | nil => rfl
  | cons s ss ih =>
    obtain ⟨p, stage⟩ := s
    simp only [List.cons_append, runStages, ih]

lemma runStages_of_same {r : Status} (h : ∀ s ∈ stages, s.2 v = (v, r)) :
    runStages stages v = (v, stages.map fun s => ⟨s.1, r⟩) := by
  induction stages with
  | nil => rfl
  | cons s stages ih =>
    obtain ⟨hs, hrest⟩ := List.forall_mem_cons.mp h
    simp only [runStages, hs, ih hrest, List.map_cons]

end Run

section Files

variable {t s u v : FileTree} {p : String}

lemma readText?_eq (t : FileTree) (p : String) :
    t.readText? p =
      match t.read p with
      | .ok c => (String.fromUTF8? c).elim (.error .notText) (.ok ∘ some)
      | .error .missing => .ok none
      | .error f => .error f := by
  unfold readText? FileTree.readText
  cases t.read p with
  | error f => cases f <;> rfl
  | ok c =>
    simp only [ok_bind]
    cases String.fromUTF8? c <;> rfl

lemma fromUTF8?_toUTF8 (text : String) : String.fromUTF8? text.toUTF8 = some text := by
  have hv : text.toUTF8.IsValidUTF8 := text.isValidUTF8
  exact dif_pos hv

lemma toUTF8_of_fromUTF8? {c : ByteArray} {text : String} (h : String.fromUTF8? c = some text) :
    text.toUTF8 = c := by
  unfold String.fromUTF8? at h
  split at h
  next hv =>
    obtain rfl := Option.some.inj h
    rfl
  · cases h

lemma readText_ok_iff {text : String} :
    t.readText p = .ok text ↔ t.read p = .ok text.toUTF8 := by
  unfold FileTree.readText
  cases t.read p with
  | error f => simp
  | ok c =>
    simp only [ok_bind, pure_eq_ok]
    refine ⟨fun h => ?_, fun h => ?_⟩
    · split at h
      next s hs =>
        obtain rfl := Except.ok.inj h
        rw [toUTF8_of_fromUTF8? hs]
      · cases h
    · obtain rfl := Except.ok.inj h
      rw [fromUTF8?_toUTF8]

lemma readText?_of_read {text : String} (h : t.read p = .ok text.toUTF8) :
    t.readText? p = .ok (some text) := by
  rw [readText?_eq, h]
  simp only [fromUTF8?_toUTF8]
  rfl

lemma read_of_readText? {text : String} (h : t.readText? p = .ok (some text)) :
    t.read p = .ok text.toUTF8 := by
  rw [readText?_eq] at h
  cases hr : t.read p with
  | error f =>
    rw [hr] at h
    cases f <;> cases h
  | ok c =>
    rw [hr] at h
    cases hs : String.fromUTF8? c with
    | none => simp [hs] at h
    | some s =>
      obtain rfl : s = text := by simpa [hs] using h
      rw [toUTF8_of_fromUTF8? hs]

lemma read_missing_of_readText? (h : t.readText? p = .ok none) : t.read p = .error .missing := by
  rw [readText?_eq] at h
  cases hr : t.read p with
  | error f =>
    rw [hr] at h
    cases f with
    | missing => rfl
    | _ => cases h
  | ok c =>
    rw [hr] at h
    cases hs : String.fromUTF8? c with
    | none => simp [hs] at h
    | some s => simp [hs] at h

lemma readText?_keeps (hk : Keeps (t.trailOf p) t v) (h : t.readText? p ≠ .ok none) :
    v.readText? p = t.readText? p := by
  rw [readText?_eq, readText?_eq, hk.read]
  intro hm
  rw [readText?_eq, hm] at h
  exact h rfl

def writeStage (p text : String) : Stage := fun t =>
  ((writeIfChanged t p text).1, .ofResult (writeIfChanged t p text).2)

section Update

variable {update : Option String → Except Fault (Option String)}

lemma updateFile_cases (t : FileTree) (p : String)
    (update : Option String → Except Fault (Option String)) :
    (∃ existing text, t.readText? p = .ok existing ∧ update existing = .ok (some text) ∧
        updateFile t p update = writeStage p text t) ∨
      ((∀ existing text, t.readText? p = .ok existing → update existing ≠ .ok (some text)) ∧
        (updateFile t p update).1 = t ∧ (updateFile t p update).2 ≠ .written) := by
  unfold updateFile
  cases hr : t.readText? p with
  | error f => exact .inr ⟨by simp, rfl, by simp [Status.ofResult]⟩
  | ok existing =>
    dsimp only
    cases hu : update existing with
    | error f =>
      refine .inr ⟨fun e text he => ?_, rfl, by simp [Status.ofResult]⟩
      obtain rfl := Except.ok.inj he
      simp [hu]
    | ok new =>
      cases new with
      | none =>
        refine .inr ⟨fun e text he => ?_, rfl, by simp [Status.ofResult]⟩
        obtain rfl := Except.ok.inj he
        simp [hu]
      | some text => exact .inl ⟨existing, text, rfl, hu, rfl⟩

lemma touched_updateFile (t : FileTree) (p : String)
    (update : Option String → Except Fault (Option String)) :
    Touched p t (updateFile t p update).1 := by
  rcases updateFile_cases t p update with ⟨_, text, _, _, he⟩ | ⟨_, he, _⟩
  · rw [he]
    exact touched_writeIfChanged t p text
  · rw [he]
    exact Touched.refl p t

end Update

end Files

end LayoutSync
