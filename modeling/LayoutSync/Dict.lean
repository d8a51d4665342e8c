namespace LayoutSync

namespace Assoc

variable {κ α : Type} [DecidableEq κ]

def get? (k : κ) : List (κ × α) → Option α
  | [] => none
  | (j, v) :: r => if j = k then some v else get? k r

def keys {κ α : Type} (l : List (κ × α)) : List κ := l.map Prod.fst

/-- A known key keeps its place and takes the new value; a new key goes to the end. -/
def put (k : κ) (v : α) : List (κ × α) → List (κ × α)
  | [] => [(k, v)]
  | (j, w) :: r => if j = k then (k, v) :: r else (j, w) :: put k v r

def erase (k : κ) (l : List (κ × α)) : List (κ × α) :=
  l.filter fun e => e.1 ≠ k

@[simp] theorem keys_nil {κ α : Type} : keys ([] : List (κ × α)) = [] := rfl

@[simp] theorem keys_cons {κ α : Type} (e : κ × α) (l : List (κ × α)) :
    keys (e :: l) = e.1 :: keys l :=
  rfl

theorem get?_eq_none_iff {k : κ} {l : List (κ × α)} : get? k l = none ↔ k ∉ keys l := by
  induction l with
  | nil => simp [get?]
  | cons e r ih =>
    by_cases h : e.1 = k
    · simp [get?, h]
    · simp [get?, h, ih, Ne.symm h]

theorem get?_put_self (k : κ) (v : α) (l : List (κ × α)) : get? k (put k v l) = some v := by
  induction l with
  | nil => simp [put, get?]
  | cons e r ih =>
    by_cases h : e.1 = k
    · simp [put, get?, h]
    · simpa [put, get?, h] using ih

theorem get?_put_of_ne {j k : κ} (v : α) (l : List (κ × α)) (h : j ≠ k) :
    get? j (put k v l) = get? j l := by
  induction l with
  | nil => simp [put, get?, h.symm]
  | cons e r ih =>
    by_cases he : e.1 = k
    · simp [put, get?, he, h.symm]
    · by_cases hj : e.1 = j
      · simp [put, get?, hj, h]
      · simpa [put, get?, he, hj] using ih

theorem keys_put_of_mem {k : κ} {v : α} {l : List (κ × α)} (h : k ∈ keys l) :
    keys (put k v l) = keys l := by
  induction l with
  | nil => simp at h
  | cons e r ih =>
    by_cases he : e.1 = k
    · simp [put, he]
    · simp [put, he, ih (by simpa [Ne.symm he] using h)]

theorem put_of_not_mem {k : κ} {v : α} {l : List (κ × α)} (h : k ∉ keys l) :
    put k v l = l ++ [(k, v)] := by
  induction l with
  | nil => rfl
  | cons e r ih =>
    have he : ¬ e.1 = k := fun he => h (by simp [he])
    simp [put, he, ih (fun hr => h (by simp [hr]))]

theorem put_of_get? {k : κ} {v : α} {l : List (κ × α)} (h : get? k l = some v) :
    put k v l = l := by
  induction l with
  | nil => cases h
  | cons e r ih =>
    by_cases he : e.1 = k
    · obtain rfl : e.2 = v := by simpa [get?, he] using h
      simp [put, ← he]
    · simp [put, he, ih (by simpa [get?, he] using h)]

theorem get?_append {k : κ} (l m : List (κ × α)) :
    get? k (l ++ m) = (get? k l).or (get? k m) := by
  induction l with
  | nil => rfl
  | cons e r ih =>
    by_cases he : e.1 = k
    · simp [get?, he]
    · simpa [get?, he] using ih

theorem get?_eq_some_iff {k : κ} {v : α} {l : List (κ × α)} (h : (keys l).Nodup) :
    get? k l = some v ↔ (k, v) ∈ l := by
  induction l with
  | nil => simp [get?]
  | cons e r ih =>
    obtain ⟨hn, hr⟩ := List.nodup_cons.mp h
    by_cases he : e.1 = k
    · have hm : (k, v) ∉ r := fun hm => hn (he ▸ List.mem_map_of_mem hm)
      simp [get?, he, hm, Prod.ext_iff, eq_comm]
    · simp [get?, he, ih hr, Prod.ext_iff, Ne.symm he]

theorem nodup_keys_put (k : κ) (v : α) {l : List (κ × α)} (h : (keys l).Nodup) :
    (keys (put k v l)).Nodup := by
  by_cases hk : k ∈ keys l
  · rwa [keys_put_of_mem hk]
  · rw [put_of_not_mem hk]
    simp only [keys, List.map_append, List.map_cons, List.map_nil]
    rw [List.nodup_append]
    refine ⟨h, by simp, ?_⟩
    intro a ha b hb
    simp only [List.mem_singleton] at hb
    subst hb
    exact fun hab => hk (hab ▸ ha)

theorem get?_erase_self (k : κ) (l : List (κ × α)) : get? k (erase k l) = none := by
  simp [get?_eq_none_iff, erase, keys]

theorem get?_erase_of_ne {j k : κ} (l : List (κ × α)) (h : j ≠ k) :
    get? j (erase k l) = get? j l := by
  induction l with
  | nil => rfl
  | cons e r ih =>
    unfold erase at ih ⊢
    by_cases he : e.1 = k
    · simpa [he, get?, h.symm] using ih
    · by_cases hj : e.1 = j
      · simp [hj, h, get?]
      · simpa [he, hj, get?] using ih

theorem nodup_keys_erase (k : κ) {l : List (κ × α)} (h : (keys l).Nodup) :
    (keys (erase k l)).Nodup :=
  h.sublist ((List.filter_sublist).map _)

end Assoc

structure Dict (α : Type) where
  entries : List (String × α)
  nodup_keys : (Assoc.keys entries).Nodup
deriving DecidableEq

namespace Dict

variable {α : Type}

def empty : Dict α := ⟨[], List.nodup_nil⟩

instance : EmptyCollection (Dict α) := ⟨empty⟩

instance : Inhabited (Dict α) := ⟨empty⟩

@[ext] theorem ext {d e : Dict α} (h : d.entries = e.entries) : d = e := by
  cases d; cases e; simp_all

def keys (d : Dict α) : List String := Assoc.keys d.entries

def values (d : Dict α) : List α := d.entries.map Prod.snd

def size (d : Dict α) : Nat := d.entries.length

def isEmpty (d : Dict α) : Bool := d.entries.isEmpty

def get? (d : Dict α) (k : String) : Option α := Assoc.get? k d.entries

def contains (d : Dict α) (k : String) : Bool := (d.get? k).isSome

def put (d : Dict α) (k : String) (v : α) : Dict α :=
  ⟨Assoc.put k v d.entries, Assoc.nodup_keys_put k v d.nodup_keys⟩

def erase (d : Dict α) (k : String) : Dict α :=
  ⟨Assoc.erase k d.entries, Assoc.nodup_keys_erase k d.nodup_keys⟩

/-- Puts pairs in one after the other: a repeated key keeps its first place and its last value. -/
def ofList (l : List (String × α)) : Dict α := l.foldl (fun d e => d.put e.1 e.2) ∅

theorem entries_foldl_put (d : Dict α) {l : List (String × α)}
    (h : (Assoc.keys (d.entries ++ l)).Nodup) :
    (l.foldl (fun d e => d.put e.1 e.2) d).entries = d.entries ++ l := by
  induction l generalizing d with
  | nil => simp
  | cons e l ih =>
    have hk : e.1 ∉ Assoc.keys d.entries := by
      simp only [Assoc.keys, List.map_append, List.map_cons, List.nodup_append] at h
      exact fun hk => h.2.2 _ hk _ List.mem_cons_self rfl
    have hp : (d.put e.1 e.2).entries = d.entries ++ [e] := Assoc.put_of_not_mem hk
    rw [List.foldl_cons, ih _ (by simpa [hp] using h), hp, List.append_assoc]
    rfl

theorem ofList_entries (d : Dict α) : ofList d.entries = d :=
  ext (entries_foldl_put ∅ d.nodup_keys)

end Dict

end LayoutSync
