/-
Laws of ordered maps: what each operation does to the look-up and to the order of the keys, and that
a map without repeated keys is determined by the two. Every map of an index, a graph or a tree of
files is such a map (`Unique`), and every operation keeps it one.
-/
import Mathlib.Data.List.Induction
import Mathlib.Data.List.Nodup
import RtlAtlas.OrderedMap

namespace RtlAtlas.OrderedMap

variable {α β : Type} [DecidableEq α]

theorem nodup_eraseDups : ∀ l : List α, l.eraseDups.Nodup
  | [] => List.nodup_nil
  | a :: l => by
    rw [List.eraseDups_cons, List.nodup_cons]
    refine ⟨?_, nodup_eraseDups (l.filter fun b => !b == a)⟩
    simp [List.mem_eraseDups]
termination_by l => l.length
decreasing_by simpa using Nat.lt_succ_of_le (List.length_filter_le _ l)

/-- No key has two entries. -/
def Unique (m : OrderedMap α β) : Prop := m.keys.Nodup

/-! ## Look-up -/

theorem get?_cons (e : α × β) (es : List (α × β)) (k : α) :
    (⟨e :: es⟩ : OrderedMap α β).get? k =
      if e.1 = k then some e.2 else (⟨es⟩ : OrderedMap α β).get? k := by
  unfold get?
  by_cases h : e.1 = k
  · simp [h]
  · rw [List.find?_cons, beq_eq_false_iff_ne.2 h, if_neg h]

theorem mem_of_get? {m : OrderedMap α β} {k : α} {v : β} (h : m.get? k = some v) :
    (k, v) ∈ m.entries := by
  obtain ⟨e, he, rfl⟩ := Option.map_eq_some_iff.1 h
  have hk : e.1 = k := by simpa using List.find?_some he
  exact hk ▸ List.mem_of_find?_eq_some he

theorem mem_keys_of_get? {m : OrderedMap α β} {k : α} {v : β} (h : m.get? k = some v) : k ∈ m.keys :=
  List.mem_map.2 ⟨_, mem_of_get? h, rfl⟩

theorem get?_eq_none_iff {m : OrderedMap α β} {k : α} : m.get? k = none ↔ k ∉ m.keys := by
  rw [mem_keys, contains_eq_isSome]
  cases m.get? k <;> simp

theorem exists_get?_iff {m : OrderedMap α β} {k : α} : (∃ v, m.get? k = some v) ↔ k ∈ m.keys := by
  rw [mem_keys, contains_eq_isSome, Option.isSome_iff_exists]

/-- Without repeated keys the look-up finds every entry. -/
theorem get?_eq_some_iff {m : OrderedMap α β} (hu : m.Unique) {k : α} {v : β} :
    m.get? k = some v ↔ (k, v) ∈ m.entries := by
  refine ⟨mem_of_get?, fun h => ?_⟩
  obtain ⟨w, hw⟩ := exists_get?_iff.2 (List.mem_map.2 ⟨_, h, rfl⟩ : k ∈ m.keys)
  have := List.inj_on_of_nodup_map hu (mem_of_get? hw) h rfl
  rw [hw]
  exact congrArg some (Prod.ext_iff.1 this).2

theorem entries_eq_of_get? : ∀ {es fs : List (α × β)}, (es.map (·.1)).Nodup →
    es.map (·.1) = fs.map (·.1) →
    (∀ k ∈ es.map (·.1), (⟨es⟩ : OrderedMap α β).get? k = (⟨fs⟩ : OrderedMap α β).get? k) → es = fs
  | [], [], _, _, _ => rfl
  | e :: es, f :: fs, hu, hk, hg => by
    rw [List.map_cons, List.map_cons, List.cons.injEq] at hk
    rw [List.map_cons, List.nodup_cons] at hu
    have he := hg e.1 (by simp)
    rw [get?_cons, get?_cons, if_pos rfl, if_pos hk.1.symm, Option.some.injEq] at he
    rw [Prod.ext hk.1 he, entries_eq_of_get? hu.2 hk.2 fun k hm => ?_]
    have hne : e.1 ≠ k := fun h => hu.1 (h ▸ hm)
    have := hg k (List.mem_cons_of_mem _ hm)
    rwa [get?_cons, get?_cons, if_neg hne, if_neg (hk.1 ▸ hne)] at this

/-- A map without repeated keys is determined by its keys and its look-up. -/
theorem ext_get? {m n : OrderedMap α β} (hu : m.Unique) (hk : m.keys = n.keys)
    (hg : ∀ k, m.get? k = n.get? k) : m = n :=
  congrArg OrderedMap.mk (entries_eq_of_get? hu hk fun k _ => hg k)

/-! ## Storing -/

theorem keys_put (key : α) (value : β) : ∀ es : List (α × β),
    (put key value es).map (·.1) =
      if key ∈ es.map (·.1) then es.map (·.1) else es.map (·.1) ++ [key]
  | [] => rfl
  | e :: es => by
    unfold put
    by_cases h : e.1 = key
    · simp [h]
    · have h' : ¬key = e.1 := fun e' => h e'.symm
      simp only [beq_iff_eq, h, if_false, List.map_cons, keys_put key value es, List.mem_cons, h',
        false_or]
      split <;> simp

theorem keys_insert (m : OrderedMap α β) (key : α) (value : β) :
    (m.insert key value).keys = if key ∈ m.keys then m.keys else m.keys ++ [key] :=
  keys_put key value m.entries

theorem mem_keys_insert {m : OrderedMap α β} {key k : α} {value : β} :
    k ∈ (m.insert key value).keys ↔ k = key ∨ k ∈ m.keys := by
  rw [keys_insert]
  split
  · exact ⟨Or.inr, fun h => h.elim (fun e => e ▸ ‹_›) id⟩
  · simp [or_comm]

omit [DecidableEq α] in
theorem unique_empty : (empty : OrderedMap α β).Unique := List.nodup_nil

theorem Unique.insert {m : OrderedMap α β} (hu : m.Unique) (key : α) (value : β) :
    (m.insert key value).Unique := by
  unfold Unique
  rw [keys_insert]
  split
  · exact hu
  · rename_i h
    exact List.nodup_append.2 ⟨hu, List.nodup_singleton _, fun a ha b hb => by
      rw [List.mem_singleton.1 hb]; exact fun e => h (e ▸ ha)⟩

theorem put_of_notMem {key : α} (value : β) : ∀ {es : List (α × β)}, key ∉ es.map (·.1) →
    put key value es = es ++ [(key, value)]
  | [], _ => rfl
  | e :: es, h => by
    rw [List.map_cons, List.mem_cons, not_or] at h
    have hne : (e.1 == key) = false := beq_eq_false_iff_ne.2 fun e' => h.1 e'.symm
    simp [put, hne, put_of_notMem value h.2]

theorem entries_insert_of_notMem {m : OrderedMap α β} {key : α} (value : β) (h : key ∉ m.keys) :
    (m.insert key value).entries = m.entries ++ [(key, value)] := put_of_notMem value h

theorem get?_insertNew (m : OrderedMap α β) (key k : α) (value : β) :
    (m.insertNew key value).get? k = if k = key then some ((m.get? key).getD value) else m.get? k := by
  unfold insertNew
  rw [contains_eq_isSome]
  cases h : m.get? key with
  | none => simp [get?_insert]
  | some v =>
    by_cases hk : k = key
    · subst hk; simp [h]
    · simp [hk]

theorem keys_insertNew (m : OrderedMap α β) (key : α) (value : β) :
    (m.insertNew key value).keys = if key ∈ m.keys then m.keys else m.keys ++ [key] := by
  unfold insertNew
  by_cases h : key ∈ m.keys
  · rw [if_pos (mem_keys.1 h), if_pos h]
  · rw [if_neg fun hc => h (mem_keys.2 hc), keys_insert]

theorem Unique.insertNew {m : OrderedMap α β} (hu : m.Unique) (key : α) (value : β) :
    (m.insertNew key value).Unique := by
  unfold OrderedMap.insertNew
  split
  · exact hu
  · exact hu.insert key value

/-! ## Taking away -/

theorem keys_erase (m : OrderedMap α β) (key : α) :
    (m.erase key).keys = m.keys.filter fun k => k != key := by
  unfold keys erase
  rw [List.filter_map]
  rfl

theorem Unique.erase {m : OrderedMap α β} (hu : m.Unique) (key : α) : (m.erase key).Unique := by
  unfold Unique
  rw [keys_erase]
  exact hu.filter _

theorem get?_erase (m : OrderedMap α β) (key k : α) :
    (m.erase key).get? k = if k = key then none else m.get? k := by
  by_cases h : k = key
  · rw [if_pos h, get?_eq_none_iff, keys_erase]
    simp [h]
  · rw [if_neg h]
    unfold get? erase
    rw [List.find?_filter]
    congr 2
    funext e
    by_cases he : e.1 = k
    · simp [he, h]
    · simp [he]

/-! ## Changing a value where it stands -/

theorem keys_modify (m : OrderedMap α β) (key : α) (f : β → β) : (m.modify key f).keys = m.keys := by
  unfold keys modify
  rw [List.map_map]
  refine List.map_congr_left fun e _ => ?_
  simp only [Function.comp_apply]
  split <;> rfl

theorem Unique.modify {m : OrderedMap α β} (hu : m.Unique) (key : α) (f : β → β) :
    (m.modify key f).Unique := by
  unfold Unique; rw [keys_modify]; exact hu

theorem get?_modify (m : OrderedMap α β) (key k : α) (f : β → β) :
    (m.modify key f).get? k = if k = key then (m.get? k).map f else m.get? k := by
  unfold get? modify
  induction m.entries with
  | nil => simp
  | cons e es ih =>
    rw [List.map_cons]
    by_cases hek : e.1 = k
    · by_cases hk : k = key
      · simp [hek, hk]
      · simp [hek, hk]
    · have h1 : ((if e.1 == key then (e.1, f e.2) else e).1 == k) = false := by
        split <;> simpa using hek
      rw [List.find?_cons, h1, List.find?_cons, beq_eq_false_iff_ne.2 hek]
      exact ih

/-! ## Maps of lists -/

theorem unique_foldl_insert (es : List (α × β)) : ∀ {m : OrderedMap α β}, m.Unique →
    (es.foldl (fun m e => m.insert e.1 e.2) m).Unique := by
  induction es with
  | nil => exact fun hu => hu
  | cons e es ih => exact fun hu => ih (hu.insert e.1 e.2)

theorem unique_ofList (es : List (α × β)) : (ofList es).Unique := unique_foldl_insert es unique_empty

theorem entries_foldl_insert : ∀ (es : List (α × β)) (m : OrderedMap α β),
    (m.keys ++ es.map (·.1)).Nodup →
    (es.foldl (fun m e => m.insert e.1 e.2) m).entries = m.entries ++ es
  | [], m, _ => by simp
  | e :: es, m, h => by
    have hn : e.1 ∉ m.keys := fun hm =>
      (List.nodup_append.1 h).2.2 _ hm e.1 (by simp) rfl
    have hk : (m.insert e.1 e.2).keys = m.keys ++ [e.1] := by rw [keys_insert, if_neg hn]
    rw [List.foldl_cons, entries_foldl_insert es _ (by rw [hk]; simpa using h),
      entries_insert_of_notMem _ hn]
    simp

/-- The map of a list without repeated keys holds just the list. -/
theorem entries_ofList {es : List (α × β)} (h : (es.map (·.1)).Nodup) : (ofList es).entries = es :=
  entries_foldl_insert es empty h

theorem ofList_concat (es : List (α × β)) (e : α × β) :
    ofList (es ++ [e]) = (ofList es).insert e.1 e.2 := by
  simp [ofList]

/-- The first entry of a key fixes its place. -/
theorem keys_ofList (es : List (α × β)) : (ofList es).keys = (es.map (·.1)).eraseDups := by
  induction es using List.reverseRecOn with
  | nil => rfl
  | append_singleton es e ih =>
    rw [ofList_concat, keys_insert, ih, List.map_append, List.eraseDups_append]
    by_cases h : e.1 ∈ es.map (·.1)
    · rw [if_pos (List.mem_eraseDups.2 h)]
      simp [List.removeAll, List.mem_map.1 h]
    · rw [if_neg fun hm => h (List.mem_eraseDups.1 hm)]
      simp_all [List.removeAll, List.eraseDups_cons]

/-- The last entry of a key gives its value. -/
theorem get?_ofList (es : List (α × β)) (k : α) :
    (ofList es).get? k = ((es.filter fun e => e.1 == k).getLast?).map (·.2) := by
  induction es using List.reverseRecOn with
  | nil => rfl
  | append_singleton es e ih =>
    rw [ofList_concat, get?_insert, ih, List.filter_append]
    by_cases h : k = e.1
    · simp [h]
    · have h' : ¬e.1 = k := fun he => h he.symm
      simp [h, h']

/-! ## Values -/

theorem mem_values {m : OrderedMap α β} (hu : m.Unique) {v : β} :
    v ∈ m.values ↔ ∃ k, m.get? k = some v := by
  unfold values
  rw [List.mem_map]
  constructor
  · rintro ⟨e, he, rfl⟩; exact ⟨e.1, (get?_eq_some_iff hu).2 he⟩
  · rintro ⟨k, hk⟩; exact ⟨_, mem_of_get? hk, rfl⟩

end RtlAtlas.OrderedMap
