/-
The symbol table as a plain map from identifiers to symbols. Every operation keeps the two further
maps in step with it (`Table.WF`): under a name or a file stand exactly the identifiers of the symbols
with that name or file, and no key is left without one. So an operation is described by what it does
to `get?`, and what a table lists depends on `get?` alone once its symbols stand apart.
-/
import RtlAtlas.Proofs.OrderedMap
import RtlAtlas.Proofs.Order
import RtlAtlas.Symbol.Table

namespace RtlAtlas

open OrderedMap

/-! ## The last symbol of each identifier -/

/-- The symbols of a list that no later one with the same identifier replaces. -/
def Symbol.lastPerId : List Symbol → List Symbol
  | [] => []
  | s :: ss => if ss.any (·.id == s.id) then lastPerId ss else s :: lastPerId ss

namespace Symbol

theorem mem_of_mem_lastPerId : ∀ {ss : List Symbol} {s : Symbol}, s ∈ lastPerId ss → s ∈ ss
  | [], _, h => by cases h
  | t :: ss, s, h => by
    unfold lastPerId at h
    split at h
    · exact List.mem_cons_of_mem _ (mem_of_mem_lastPerId h)
    · rcases List.mem_cons.1 h with rfl | h
      · exact List.mem_cons_self
      · exact List.mem_cons_of_mem _ (mem_of_mem_lastPerId h)

theorem exists_id_lastPerId : ∀ {ss : List Symbol} {id : String}, (∃ s ∈ ss, s.id = id) →
    ∃ s ∈ lastPerId ss, s.id = id
  | [], _, ⟨_, h, _⟩ => by cases h
  | t :: ss, id, ⟨s, hs, hid⟩ => by
    unfold lastPerId
    split
    · rename_i ht
      obtain ⟨u, hu, hue⟩ := List.any_eq_true.1 ht
      rcases List.mem_cons.1 hs with rfl | hs
      · exact exists_id_lastPerId ⟨u, hu, by rw [← hid]; simpa using hue⟩
      · exact exists_id_lastPerId ⟨s, hs, hid⟩
    · rcases List.mem_cons.1 hs with rfl | hs
      · exact ⟨s, List.mem_cons_self, hid⟩
      · obtain ⟨u, hu, hue⟩ := exists_id_lastPerId ⟨s, hs, hid⟩
        exact ⟨u, List.mem_cons_of_mem _ hu, hue⟩

theorem nodup_lastPerId : ∀ ss : List Symbol, ((lastPerId ss).map (·.id)).Nodup
  | [] => List.nodup_nil
  | s :: ss => by
    unfold lastPerId
    split
    · exact nodup_lastPerId ss
    · rename_i hs
      rw [List.map_cons, List.nodup_cons]
      refine ⟨fun h => hs ?_, nodup_lastPerId ss⟩
      obtain ⟨u, hu, hue⟩ := List.mem_map.1 h
      exact List.any_eq_true.2 ⟨u, mem_of_mem_lastPerId hu, by simpa using hue⟩

theorem find?_lastPerId_eq_some {ss : List Symbol} {id : String} {s : Symbol} :
    (lastPerId ss).find? (·.id == id) = some s ↔ s ∈ lastPerId ss ∧ s.id = id := by
  constructor
  · intro h
    exact ⟨List.mem_of_find?_eq_some h, by simpa using List.find?_some h⟩
  · rintro ⟨hs, rfl⟩
    cases hf : (lastPerId ss).find? (·.id == s.id) with
    | none => rw [List.find?_eq_none] at hf; simpa using hf s hs
    | some u =>
      have hu : u.id = s.id := by simpa using List.find?_some hf
      exact congrArg some
        (List.inj_on_of_nodup_map (nodup_lastPerId ss) (List.mem_of_find?_eq_some hf) hs hu)

/-- A list without repeated identifiers keeps all its symbols. -/
theorem lastPerId_eq_self : ∀ {ss : List Symbol}, (ss.map (·.id)).Nodup → lastPerId ss = ss
  | [], _ => rfl
  | s :: ss, h => by
    rw [List.map_cons, List.nodup_cons] at h
    unfold lastPerId
    rw [if_neg, lastPerId_eq_self h.2]
    intro ha
    obtain ⟨u, hu, hue⟩ := List.any_eq_true.1 ha
    exact h.1 (List.mem_map.2 ⟨u, hu, by simpa using hue⟩)

end Symbol

namespace Table

/-! ## Maps from a key to identifiers -/

section Index

variable {α : Type} [DecidableEq α] {index : OrderedMap α (List String)}
  {symbols : OrderedMap String Symbol} {key : Symbol → α}

/-- The identifiers under a key. -/
def idsAt (index : OrderedMap α (List String)) (k : α) : List String := (index.get? k).getD []

/-- A map that leads from a key of symbols to the identifiers of those that have it. -/
structure Indexes (index : OrderedMap α (List String)) (symbols : OrderedMap String Symbol)
    (key : Symbol → α) : Prop where
  unique : index.Unique
  mem : ∀ k id, id ∈ idsAt index k ↔ ∃ s, symbols.get? id = some s ∧ key s = k
  nodup : ∀ k, (idsAt index k).Nodup
  nonempty : ∀ k ids, index.get? k = some ids → ids ≠ []

theorem idsAt_forget (index : OrderedMap α (List String)) (k k' : α) (id : String) :
    idsAt (forget index k id) k' =
      if k' = k then (idsAt index k').filter (· != id) else idsAt index k' := by
  unfold forget idsAt
  cases hk : index.get? k with
  | none =>
    by_cases h : k' = k
    · subst h; simp [hk]
    · simp [h]
  | some ids =>
    by_cases h : k' = k
    · subst h
      simp only
      -- a key left without identifiers is dropped
      split
      · rename_i he
        simp [get?_erase, hk, List.isEmpty_iff.1 he]
      · simp [get?_insert, hk]
    · simp only
      split
      · simp [get?_erase, h]
      · simp [get?_insert, h]

theorem unique_forget {index : OrderedMap α (List String)} (h : index.Unique) (k : α) (id : String) :
    (forget index k id).Unique := by
  unfold forget
  split
  · exact h
  · simp only
    split
    · exact h.erase _
    · exact h.insert _ _

theorem nodup_idsAt_forget {index : OrderedMap α (List String)} (h : ∀ k, (idsAt index k).Nodup)
    (k k' : α) (id : String) : (idsAt (forget index k id) k').Nodup := by
  rw [idsAt_forget]
  split
  · exact (h k').filter _
  · exact h k'

theorem get?_forget_ne_nil {index : OrderedMap α (List String)} {k k' : α} {id : String}
    {ids : List String} (h : ∀ ids, index.get? k' = some ids → ids ≠ [])
    (hk : (forget index k id).get? k' = some ids) : ids ≠ [] := by
  unfold forget at hk
  split at hk
  · exact h ids hk
  · simp only at hk
    split at hk
    · rw [get?_erase] at hk
      split at hk
      · cases hk
      · exact h ids hk
    · rename_i he
      rw [get?_insert] at hk
      split at hk
      · cases hk; simpa using he
      · exact h ids hk

theorem idsAt_note (index : OrderedMap α (List String)) (k k' : α) (id : String) :
    idsAt (note index k id) k' =
      if k' = k then (if (idsAt index k).contains id then idsAt index k else idsAt index k ++ [id])
      else idsAt index k' := by
  unfold note idsAt
  rw [get?_insert]
  split <;> rfl

theorem mem_idsAt_note {index : OrderedMap α (List String)} {k k' : α} {id id' : String} :
    id' ∈ idsAt (note index k id) k' ↔ id' ∈ idsAt index k' ∨ k' = k ∧ id' = id := by
  rw [idsAt_note]
  by_cases hk : k' = k
  · subst hk
    rw [if_pos rfl]
    split
    · rename_i hc
      exact ⟨Or.inl, fun h => h.elim (fun h => h) fun h => h.2 ▸ List.contains_iff_mem.1 hc⟩
    · simp
  · simp [hk]

theorem nodup_idsAt_note {index : OrderedMap α (List String)} (h : ∀ k, (idsAt index k).Nodup)
    (k k' : α) (id : String) : (idsAt (note index k id) k').Nodup := by
  rw [idsAt_note]
  split
  · split
    · exact h k
    · rename_i hc
      exact List.nodup_append.2 ⟨h k, List.nodup_singleton _, fun a ha b hb => by
        rw [List.mem_singleton.1 hb]; exact fun e => hc (List.contains_iff_mem.2 (e ▸ ha))⟩
  · exact h k'

theorem keys_note (index : OrderedMap α (List String)) (k : α) (id : String) :
    (note index k id).keys = if k ∈ index.keys then index.keys else index.keys ++ [k] :=
  keys_insert _ _ _

theorem unique_note {index : OrderedMap α (List String)} (h : index.Unique) (k : α) (id : String) :
    (note index k id).Unique := h.insert _ _

theorem get?_note_ne_nil {index : OrderedMap α (List String)} {k k' : α} {id : String}
    {ids : List String} (h : ∀ ids, index.get? k' = some ids → ids ≠ [])
    (hk : (note index k id).get? k' = some ids) : ids ≠ [] := by
  unfold note at hk
  rw [get?_insert] at hk
  split at hk
  · cases hk
    split
    · rename_i hc; exact List.ne_nil_of_mem (List.contains_iff_mem.1 hc)
    · simp
  · exact h ids hk

/-- Maps with the same keys and the same identifiers under each are equal. -/
theorem ext_idsAt {m n : OrderedMap α (List String)} (hu : m.Unique) (hk : m.keys = n.keys)
    (h : ∀ k, idsAt m k = idsAt n k) : m = n := by
  refine ext_get? hu hk fun k => ?_
  have hids := h k
  unfold idsAt at hids
  cases hm : m.get? k with
  | none => rw [get?_eq_none_iff, hk, ← get?_eq_none_iff] at hm; exact hm.symm
  | some ids =>
    obtain ⟨ids', hn⟩ := exists_get?_iff.2 (hk ▸ mem_keys_of_get? hm : k ∈ n.keys)
    rw [hm, hn] at hids
    rw [hn]
    exact congrArg some hids

theorem indexes_empty : Indexes (.empty : OrderedMap α (List String)) .empty key :=
  ⟨unique_empty, fun k id => by simp [idsAt], fun k => by simp [idsAt], fun k ids h => by simp at h⟩

theorem Indexes.forget (h : Indexes index symbols key) {id : String} {s : Symbol}
    (hs : symbols.get? id = some s) : Indexes (forget index (key s) id) (symbols.erase id) key := by
  refine ⟨unique_forget h.unique _ _, fun k i => ?_, fun k => nodup_idsAt_forget h.nodup _ _ _,
    fun k ids hk => get?_forget_ne_nil (h.nonempty k) hk⟩
  rw [idsAt_forget, get?_erase]
  by_cases hi : i = id
  · subst hi
    simp only [if_true, reduceCtorEq, false_and, exists_false, iff_false]
    split
    · simp
    · -- the symbol has one key only, and under that one it was forgotten
      rename_i hk
      rw [h.mem]
      rintro ⟨s', hs', rfl⟩
      rw [hs] at hs'
      cases hs'
      exact hk rfl
  · rw [if_neg hi, ← h.mem]
    split
    · simp [hi]
    · rfl

theorem Indexes.note (h : Indexes index symbols key) {s : Symbol} (hs : symbols.get? s.id = none) :
    Indexes (note index (key s) s.id) (symbols.insert s.id s) key := by
  refine ⟨unique_note h.unique _ _, fun k i => ?_, fun k => nodup_idsAt_note h.nodup _ _ _,
    fun k ids hk => get?_note_ne_nil (h.nonempty k) hk⟩
  rw [mem_idsAt_note, h.mem, get?_insert]
  by_cases hi : i = s.id
  · subst hi
    simp [hs, eq_comm]
  · simp [hi]

end Index

/-! ## The tables that operations make -/

/-- The three maps of a table are in step. -/
structure WF (t : Table) : Prop where
  unique : t.symbols.Unique
  ids : ∀ id s, t.symbols.get? id = some s → s.id = id
  byName : Indexes t.byName t.symbols (·.name)
  byFile : Indexes t.byFile t.symbols (·.file)

theorem wf_empty : empty.WF :=
  ⟨unique_empty, fun id s h => by simp [empty] at h, indexes_empty, indexes_empty⟩

theorem get?_remove (t : Table) (id k : String) :
    (t.remove id).get? k = if k = id then none else t.get? k := by
  unfold remove get?
  cases h : t.symbols.get? id with
  | none =>
    by_cases hk : k = id
    · subst hk; simp [h]
    · simp [hk]
  | some s => exact get?_erase _ _ _

theorem WF.remove {t : Table} (h : t.WF) (id : String) : (t.remove id).WF := by
  unfold Table.remove
  cases hs : t.symbols.get? id with
  | none => exact h
  | some s =>
    refine ⟨h.unique.erase id, fun k s' hk => ?_, h.byName.forget hs, h.byFile.forget hs⟩
    rw [get?_erase] at hk
    split at hk
    · cases hk
    · exact h.ids k s' hk

theorem get?_add (t : Table) (s : Symbol) (k : String) :
    (t.add s).get? k = if k = s.id then some s else t.get? k := by
  show ((t.remove s.id).symbols.insert s.id s).get? k = _
  rw [get?_insert]
  split
  · rfl
  · rename_i hk
    exact (get?_remove t s.id k).trans (if_neg hk)

theorem WF.add {t : Table} (h : t.WF) (s : Symbol) : (t.add s).WF := by
  have hr := h.remove s.id
  have hn : (t.remove s.id).symbols.get? s.id = none := (get?_remove t s.id s.id).trans (if_pos rfl)
  refine ⟨hr.unique.insert _ _, fun k s' hk => ?_, hr.byName.note hn, hr.byFile.note hn⟩
  rw [show (t.add s).symbols.get? k = _ from get?_add t s k] at hk
  split at hk
  · rename_i he; cases hk; exact he.symm
  · exact h.ids k s' hk

theorem WF.foldl_remove (ids : List String) : ∀ {t : Table}, t.WF → (ids.foldl Table.remove t).WF := by
  induction ids with
  | nil => exact fun h => h
  | cons id ids ih => exact fun h => ih (h.remove id)

theorem get?_foldl_remove (ids : List String) : ∀ (t : Table) (k : String),
    (ids.foldl remove t).get? k = if k ∈ ids then none else t.get? k := by
  induction ids with
  | nil => exact fun t k => by simp
  | cons id ids ih =>
    intro t k
    rw [List.foldl_cons, ih, get?_remove]
    by_cases h : k = id
    · simp [h]
    · simp [h]

theorem WF.removeFile {t : Table} (h : t.WF) (file : Path) : (t.removeFile file).WF := h.foldl_remove _

/-- Taking a file away leaves just the symbols of the others. -/
theorem get?_removeFile {t : Table} (h : t.WF) (file : Path) (k : String) :
    (t.removeFile file).get? k = (t.get? k).filter (·.file != file) := by
  unfold removeFile
  rw [get?_foldl_remove, show t.idsInFile file = idsAt t.byFile file from rfl]
  cases hk : t.get? k with
  | none => simp
  | some s =>
    by_cases hf : s.file = file
    · rw [if_pos ((h.byFile.mem file k).2 ⟨s, hk, hf⟩), Option.filter_some, if_neg (by simp [hf])]
    · rw [if_neg fun hm => ?_, Option.filter_some, if_pos (by simp [hf])]
      obtain ⟨s', hs', hf'⟩ := (h.byFile.mem file k).1 hm
      rw [show t.symbols.get? k = some s from hk] at hs'
      cases hs'
      exact hf hf'

theorem WF.foldl_add (ss : List Symbol) : ∀ {t : Table}, t.WF → (ss.foldl Table.add t).WF := by
  induction ss with
  | nil => exact fun h => h
  | cons s ss ih => exact fun h => ih (h.add s)

/-- Of several symbols with one identifier the last one stays. -/
theorem get?_foldl_add (ss : List Symbol) : ∀ (t : Table) (k : String),
    (ss.foldl add t).get? k = ((Symbol.lastPerId ss).find? (·.id == k)).or (t.get? k) := by
  induction ss with
  | nil => exact fun t k => by simp [Symbol.lastPerId]
  | cons s ss ih =>
    intro t k
    rw [List.foldl_cons, ih, get?_add, Symbol.lastPerId.eq_2]
    by_cases ha : ss.any (·.id == s.id)
    · rw [if_pos ha]
      by_cases hk : k = s.id
      · -- a later symbol takes the place of `s`
        obtain ⟨u, hu, hue⟩ := List.any_eq_true.1 ha
        obtain ⟨v, hv, hve⟩ := Symbol.exists_id_lastPerId ⟨u, hu, by simpa using hue⟩
        rw [hk, Symbol.find?_lastPerId_eq_some.2 ⟨hv, hve⟩]
        rfl
      · rw [if_neg hk]
    · rw [if_neg ha]
      by_cases hk : k = s.id
      · have hnone : (Symbol.lastPerId ss).find? (·.id == k) = none := by
          rw [List.find?_eq_none]
          intro u hu hue
          exact ha (List.any_eq_true.2 ⟨u, Symbol.mem_of_mem_lastPerId hu, by simpa [hk] using hue⟩)
        rw [hnone, if_pos hk, List.find?_cons_of_pos (by simp [hk])]
        rfl
      · rw [if_neg hk, List.find?_cons_of_neg (by simpa using fun e => hk e.symm)]

theorem addAll_eq {file : Path} : ∀ {ss : List Symbol} (n : Nat) (t : Table), (∀ s ∈ ss, s.file = file) →
    addAll file n t ss = (.ok (n + ss.length), ss.foldl add t)
  | [], _, _, _ => rfl
  | s :: ss, n, t, h => by
    rw [addAll, if_pos (h s (by simp)), addAll_eq _ _ fun u hu => h u (List.mem_cons_of_mem _ hu)]
    simp [Nat.add_assoc, Nat.add_comm 1]

/-- Replacing a file by symbols of its own takes the old ones away and adds the new ones. -/
theorem replaceFile_eq (t : Table) {file : Path} {ss : List Symbol} (h : ∀ s ∈ ss, s.file = file) :
    t.replaceFile file ss = (.ok ss.length, ss.foldl add (t.removeFile file)) := by
  unfold replaceFile
  rw [addAll_eq _ _ h, Nat.zero_add]

/-! ## What a table lists -/

theorem WF.mem_values {t : Table} (h : t.WF) {s : Symbol} :
    s ∈ t.symbols.values ↔ t.get? s.id = some s := by
  rw [OrderedMap.mem_values h.unique]
  constructor
  · rintro ⟨k, hk⟩
    rw [h.ids k s hk]
    exact hk
  · exact fun hs => ⟨_, hs⟩

theorem WF.nodup_values {t : Table} (h : t.WF) : t.symbols.values.Nodup := by
  refine List.Nodup.of_map (·.id) ?_
  have : t.symbols.values.map (·.id) = t.symbols.keys := by
    unfold OrderedMap.values OrderedMap.keys
    rw [List.map_map]
    exact List.map_congr_left fun e he => h.ids e.1 e.2 ((get?_eq_some_iff h.unique).2 he)
  rw [this]
  exact h.unique

theorem WF.perm_idsAt {t : Table} (h : t.WF) {α : Type} [DecidableEq α]
    {index : OrderedMap α (List String)} {key : Symbol → α} (hi : Indexes index t.symbols key) (k : α) :
    ((idsAt index k).filterMap t.get?).Perm (t.symbols.values.filter fun s => key s = k) := by
  refine (List.perm_ext_iff_of_nodup (List.Nodup.filterMap ?_ (hi.nodup k)) (h.nodup_values.filter _)).2
    fun s => ?_
  · intro i j s hs hs'
    rw [← h.ids i s hs, h.ids j s hs']
  · rw [List.mem_filterMap, List.mem_filter, h.mem_values, decide_eq_true_eq]
    constructor
    · rintro ⟨i, hi', hs⟩
      obtain ⟨s', hs', hk⟩ := (hi.mem k i).1 hi'
      rw [show t.symbols.get? i = some s from hs] at hs'
      cases hs'
      rw [h.ids i s hs]
      exact ⟨hs, hk⟩
    · rintro ⟨hs, hk⟩
      exact ⟨s.id, (hi.mem k s.id).2 ⟨s, hs, hk⟩, hs⟩

theorem WF.perm_inFile {t : Table} (h : t.WF) (file : Path) :
    (t.inFile file).Perm (t.symbols.values.filter fun s => s.file = file) :=
  (Symbol.perm_sort _).trans (h.perm_idsAt h.byFile file)

theorem WF.perm_values {t u : Table} (ht : t.WF) (hu : u.WF) (h : ∀ k, t.get? k = u.get? k) :
    t.symbols.values.Perm u.symbols.values :=
  (List.perm_ext_iff_of_nodup ht.nodup_values hu.nodup_values).2 fun s => by
    rw [ht.mem_values, hu.mem_values, h]

/-- A table of added symbols with distinct identifiers holds all of them. -/
theorem perm_values_foldl_add {ss : List Symbol} (h : (ss.map (·.id)).Nodup) :
    (ss.foldl add empty).symbols.values.Perm ss := by
  have hwf := wf_empty.foldl_add ss
  refine (List.perm_ext_iff_of_nodup hwf.nodup_values (List.Nodup.of_map _ h)).2 fun s => ?_
  have hnone : empty.get? s.id = none := rfl
  rw [hwf.mem_values, get?_foldl_add, hnone, Option.or_none, Symbol.find?_lastPerId_eq_some,
    Symbol.lastPerId_eq_self h, and_iff_left rfl]

/-- Tables with the same symbols list them alike. -/
theorem WF.list_eq {t u : Table} (ht : t.WF) (hu : u.WF) (h : ∀ k, t.get? k = u.get? k)
    (hapart : Symbol.Apart t.symbols.values) : t.list = u.list :=
  Symbol.sort_eq_of_perm (ht.perm_values hu h) hapart

end Table

end RtlAtlas
