import LayoutSync.Proofs.Json.RecordExtent
import LayoutSync.Proofs.Settings.Decoding

namespace LayoutSync

open Json

section Wholes

variable {σ β : Type} {fs : List (RecordField σ)} {read : Nat → List Char → Except Fault (β × List Char)}

lemma readsWhole_storing (h : ∀ room, ReadsWhole (read room)) (store : σ → β → σ) (room : Nat) (t : σ) :
    ReadsWhole (storing read store room t) where
  ignoresSpace cs := by rw [storing, storing, (h room).ignoresSpace]
  spans hs r hr u r' hread := by
    obtain ⟨⟨b, x⟩, hx, hread⟩ := bind_eq_ok.mp hread
    obtain ⟨_, rfl⟩ := Prod.mk.inj (Except.ok.inj hread)
    exact (h room).spans hs r hr b x hx

lemma readsFields_nil : Shape.ReadsFields ([] : List (RecordField σ)) := List.forall_mem_nil _

lemma readsFields_cons {name : String} {required : Bool} {isSet : σ → Bool} {store : σ → β → σ}
    (h : ∀ room, ReadsWhole (read room)) (hs : Shape.ReadsFields fs) :
    Shape.ReadsFields (⟨name, required, isSet, storing read store⟩ :: fs) :=
  List.forall_mem_cons.mpr ⟨readsWhole_storing h store, hs⟩

lemma readsWhole_text (room : Nat) : ReadsWhole (readText room) := readsWhole_string _

lemma readsWhole_path (room : Nat) : ReadsWhole (readPath room) := readsWhole_string _

lemma readsWhole_flag (room : Nat) : ReadsWhole (readFlag room) := readsWhole_bool

lemma readsWhole_typeReference (room : Nat) : ReadsWhole (TypeReference.shape.read room) :=
  Shape.readsWhole (readsFields_cons readsWhole_text (readsFields_cons readsWhole_text readsFields_nil))
    room

lemma readsWhole_eventParameter (room : Nat) : ReadsWhole (EventParameter.shape.read room) :=
  Shape.readsWhole (readsFields_cons readsWhole_text (readsFields_cons readsWhole_text readsFields_nil))
    room

lemma readsWhole_viewEvent (room : Nat) : ReadsWhole (ViewEvent.shape.read room) :=
  Shape.readsWhole (readsFields_cons readsWhole_text (readsFields_cons readsWhole_text
    (readsFields_cons (readsWhole_array readsWhole_eventParameter) readsFields_nil))) room

lemma readsWhole_eventRule (room : Nat) : ReadsWhole (EventRule.shape.read room) :=
  Shape.readsWhole (readsFields_cons readsWhole_text
    (readsFields_cons (readsWhole_array readsWhole_viewEvent) readsFields_nil)) room

lemma readsWhole_parentPolicy (room : Nat) : ReadsWhole (Settings.readParentPolicy room) where
  ignoresSpace cs := by
    rw [Settings.readParentPolicy, Settings.readParentPolicy, (readsWhole_name _ room).ignoresSpace]
  spans hs r hr p r' hread := by
    obtain ⟨⟨n, x⟩, hx, hread⟩ := bind_eq_ok.mp hread
    obtain ⟨_, rfl⟩ := Prod.mk.inj (Except.ok.inj hread)
    exact (readsWhole_name _ room).spans hs r hr n x hx

end Wholes

namespace Settings

variable {t u : Draft} {k : String} {ks : List String} {cs r : List Char} {room : Nat}
  {f : RecordField Draft} {ms : List MemberText}

lemma readsFields_shape : Shape.ReadsFields shape.fields :=
  readsFields_cons readsWhole_path <| readsFields_cons readsWhole_path <|
  readsFields_cons readsWhole_path <| readsFields_cons (readsWhole_array readsWhole_text) <|
  readsFields_cons readsWhole_text <| readsFields_cons readsWhole_text <|
  readsFields_cons readsWhole_typeReference <| readsFields_cons readsWhole_typeReference <|
  readsFields_cons (readsWhole_array readsWhole_eventRule) <| readsFields_cons readsWhole_parentPolicy <|
  readsFields_cons readsWhole_flag <| readsFields_cons readsWhole_flag readsFields_nil

lemma exists_field (hf : f ∈ shape.fields) :
    ∃ (α : Type) (read : Nat → List Char → Except Fault (α × List Char))
      (store : Settings → α → Settings), f = field f.name read store := by
  simp only [shape, List.mem_cons, List.not_mem_nil, or_false] at hf
  rcases hf with rfl | rfl | rfl | rfl | rfl | rfl | rfl | rfl | rfl | rfl | rfl | rfl <;>
    exact ⟨_, _, _, rfl⟩

lemma readMember_ok (h : shape.readMember room t k cs = .ok (u, r)) :
    k ∈ fieldNames ∧ k ∉ t.seen ∧ u.seen = k :: t.seen ∨ k ∉ fieldNames ∧ u = t := by
  rw [Shape.readMember] at h
  split at h
  next f hf =>
    have hmem := List.mem_of_find?_eq_some hf
    have hname := List.find?_some hf
    obtain rfl : f.name = k := of_decide_eq_true hname
    obtain ⟨α, read, store, hfield⟩ := exists_field hmem
    split at h
    · cases h
    next hset =>
      have hnew : f.name ∉ t.seen := by
        intro hseen
        rw [hfield] at hset
        exact hset (List.contains_iff_mem.mpr hseen)
      obtain ⟨x, _, h⟩ := bind_eq_ok.mp h
      rw [hfield] at h
      obtain ⟨⟨a, y⟩, _, h⟩ := bind_eq_ok.mp h
      obtain ⟨rfl, _⟩ := Prod.mk.inj (Except.ok.inj h)
      exact .inl ⟨List.mem_map_of_mem hmem, hnew, rfl⟩
  next hf =>
    have hk : k ∉ fieldNames := by
      intro hk
      obtain ⟨f, hmem, hname⟩ := List.mem_map.mp hk
      exact absurd (decide_eq_true hname) (List.find?_eq_none.mp hf f hmem)
    obtain ⟨x, _, h⟩ := bind_eq_ok.mp h
    obtain ⟨y, _, h⟩ := bind_eq_ok.mp h
    obtain ⟨rfl, _⟩ := Prod.mk.inj (Except.ok.inj h)
    exact .inr ⟨hk, rfl⟩

lemma seen_of_took (h : Took (shape.readMember room) t ks u) :
    u.seen = (ks.filter (fieldNames.contains ·)).reverse ++ t.seen ∧
      (t.seen.Nodup → u.seen.Nodup) := by
  induction h with
  | nil t => exact ⟨rfl, id⟩
  | @cons s t u k ks cs r h _ ih =>
    rcases readMember_ok h with ⟨hk, hnew, hseen⟩ | ⟨hk, rfl⟩
    · rw [hseen, List.nodup_cons] at ih
      refine ⟨?_, fun hs => ih.2 ⟨hnew, hs⟩⟩
      rw [ih.1, List.filter_cons_of_pos (List.contains_iff_mem.mpr hk), List.reverse_cons,
        List.append_assoc]
      rfl
    · rw [List.filter_cons_of_neg (by simpa using hk)]
      exact ih

lemma nodup_of_parse {source : String} {c : Settings} (ho : IsObject ms source.toList)
    (hv : ∀ m ∈ ms, IsJson m.value) (h : parse source = .ok c) : (known ms).Nodup := by
  obtain ⟨⟨a, r⟩, hread, _⟩ := bind_eq_ok.mp h
  rw [← List.append_nil source.toList] at hread
  obtain ⟨room, u, htook, _⟩ := Shape.took_of_read readsFields_shape ho hv hread
  obtain ⟨hseen, hnodup⟩ := seen_of_took htook
  have hu := hnodup List.nodup_nil
  rw [hseen] at hu
  have hnil : shape.start.seen = [] := rfl
  rwa [hnil, List.append_nil, List.nodup_reverse] at hu

end Settings

end LayoutSync
