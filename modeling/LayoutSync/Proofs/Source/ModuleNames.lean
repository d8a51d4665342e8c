import LayoutSync.Proofs.Text.Upper
import LayoutSync.Source.Naming

namespace LayoutSync

namespace Source

open Text

lemma mem_of_mem_joinParts_parts {cs p : List Char} {c : Char} (hp : p ∈ joinParts.parts cs)
    (hc : c ∈ p) : c ∈ cs := by
  induction cs generalizing p with
  | nil =>
    obtain rfl := List.mem_singleton.mp hp
    exact hc
  | cons d cs ih =>
    rw [joinParts.parts] at hp
    split at hp
    · rcases List.mem_cons.mp hp with rfl | hp
      · cases hc
      · exact List.mem_cons_of_mem _ (ih hp hc)
    · cases hq : joinParts.parts cs with
      | nil =>
        rw [hq] at hp
        obtain rfl := List.mem_singleton.mp hp
        exact List.mem_cons.mpr (.inl (List.mem_singleton.mp hc))
      | cons q qs =>
        rw [hq] at hp ih
        rcases List.mem_cons.mp hp with rfl | hp
        · rcases List.mem_cons.mp hc with rfl | hc
          · exact List.mem_cons_self
          · exact List.mem_cons_of_mem _ (ih List.mem_cons_self hc)
        · exact List.mem_cons_of_mem _ (ih (List.mem_cons_of_mem _ hp) hc)

lemma slash_not_mem_joinParts {cs : List Char} (h : '/' ∉ cs) : '/' ∉ joinParts cs := by
  intro hm
  obtain ⟨q, hq, hc⟩ := List.mem_flatten.mp hm
  obtain ⟨p, hp, rfl⟩ := List.mem_map.mp hq
  exact slash_not_mem_capitalize (fun hs => h (mem_of_mem_joinParts_parts hp hs)) hc

inductive ModuleKind where
  | binding | event | factory | presenterBase
deriving DecidableEq

namespace ModuleKind

def stem (baseName : String) : ModuleKind → String
  | presenterBase => String.ofList (joinParts baseName.toList)
  | _ => filePrefix baseName

def opening : ModuleKind → String
  | factory => "create"
  | _ => ""

def ending : ModuleKind → String
  | binding => "ViewBinding.ts"
  | event => "ViewEvent.ts"
  | factory => "ViewBindingAndEvent.ts"
  | presenterBase => "BasePresenterWithViewAndEvent.ts"

def fileName (baseName : String) (k : ModuleKind) : String :=
  k.opening ++ k.stem baseName ++ k.ending

variable {k l : ModuleKind} {a b : String}

lemma eq_of_ending (h : k.ending.toList <:+ l.ending.toList) : k = l := by
  revert h
  cases k <;> cases l <;> decide

lemma toList_fileName (a : String) (k : ModuleKind) :
    (k.fileName a).toList = k.opening.toList ++ (k.stem a).toList ++ k.ending.toList := by
  rw [fileName, String.toList_append, String.toList_append]

lemma fileName_inj : k.fileName a = l.fileName b ↔ k = l ∧ k.stem a = k.stem b := by
  refine ⟨fun h => ?_, ?_⟩
  · have ha : k.ending.toList <:+ (l.fileName b).toList := by
      rw [← h, toList_fileName]
      exact List.suffix_append _ _
    have hb : l.ending.toList <:+ (l.fileName b).toList := by
      rw [toList_fileName]
      exact List.suffix_append _ _
    obtain rfl : k = l := by
      -- One of the endings is an ending of the other one, which no two kinds allow.
      rcases List.suffix_or_suffix_of_suffix ha hb with hs | hs
      · exact eq_of_ending hs
      · exact (eq_of_ending hs).symm
    refine ⟨rfl, String.toList_inj.mp ?_⟩
    have hl := congrArg String.toList h
    rw [toList_fileName, toList_fileName] at hl
    exact List.append_cancel_left (List.append_cancel_right hl)
  · rintro ⟨rfl, h⟩
    rw [fileName, fileName, h]

lemma slash_not_mem_fileName (h : '/' ∉ a.toList) (k : ModuleKind) :
    '/' ∉ (k.fileName a).toList := by
  have hs : '/' ∉ (k.stem a).toList := by
    cases k with
    | presenterBase => simpa [stem] using slash_not_mem_joinParts h
    | _ => simpa [stem, filePrefix] using slash_not_mem_capitalize h
  have ho : '/' ∉ k.opening.toList := by cases k <;> decide
  have he : '/' ∉ k.ending.toList := by cases k <;> decide
  rw [toList_fileName]
  simp [hs, ho, he]

lemma length_fileName (a : String) (k : ModuleKind) : 3 ≤ (k.fileName a).toList.length := by
  have he : 3 ≤ k.ending.toList.length := by cases k <;> decide
  rw [toList_fileName, List.length_append]
  omega

end ModuleKind

end Source

end LayoutSync
