/-
The symbol table against the plain map it stands for: from identifiers to symbols, without the two
further maps. Every change of the table does to the plain map what its name says and replies what the
plain map lets expect (`Refines.change`), also a replacement that stops at a symbol of another file.
So after any changes of a new table the further maps hold just the identifiers they are for, and
every look-up filters the plain map and sorts (`Pictures`).
-/
import Mathlib.Data.Set.Card
import RtlAtlas.Proofs.Symbol.Table

namespace RtlAtlas

open OrderedMap

/-- Symbols by identifier, as a function. -/
abbrev SymbolMap := String → Option Symbol

namespace SymbolMap

def empty : SymbolMap := fun _ => none

def add (m : SymbolMap) (s : Symbol) : SymbolMap := Function.update m s.id (some s)

def remove (m : SymbolMap) (id : String) : SymbolMap := Function.update m id none

/-- The identifiers of the symbols of a file. -/
def ofFile (m : SymbolMap) (file : Path) : Set String := {id | ∃ s, m id = some s ∧ s.file = file}

def removeFile (m : SymbolMap) (file : Path) : SymbolMap := fun id => (m id).filter (·.file != file)

/-- The symbols of a file make way for those given, up to the first that belongs to another file. -/
def replaceFile (m : SymbolMap) (file : Path) (ss : List Symbol) : SymbolMap :=
  (ss.takeWhile (·.file = file)).foldl add (m.removeFile file)

end SymbolMap

namespace Table

/-! ## Changes of a table -/

/-- What can be done to a table. -/
inductive Change where
  | add (s : Symbol)
  | remove (id : String)
  | removeFile (file : Path)
  | replaceFile (file : Path) (ss : List Symbol)
  | clear

/-- What a change replies. -/
inductive Reply where
  | nothing
  | symbol (removed : Option Symbol)
  | count (removed : Nat)
  | added (outcome : Except Error Nat)

namespace Change

/-- The table after a change. -/
def table (t : Table) : Change → Table
  | .add s => t.add s
  | .remove id => t.remove id
  | .removeFile file => t.removeFile file
  | .replaceFile file ss => (t.replaceFile file ss).2
  | .clear => .empty

/-- The reply of a table. -/
def reply (t : Table) : Change → Reply
  | .add _ => .nothing
  | .remove id => .symbol (t.get? id)
  | .removeFile file => .count (t.idsInFile file).length
  | .replaceFile file ss => .added (t.replaceFile file ss).1
  | .clear => .nothing

/-- The plain map after a change. -/
def map (m : SymbolMap) : Change → SymbolMap
  | .add s => m.add s
  | .remove id => m.remove id
  | .removeFile file => m.removeFile file
  | .replaceFile file ss => m.replaceFile file ss
  | .clear => .empty

/-- The reply that the plain map lets expect: of a replacement, how many symbols came in, or the
first of them that belongs to another file. -/
noncomputable def expected (m : SymbolMap) : Change → Reply
  | .add _ => .nothing
  | .remove id => .symbol (m id)
  | .removeFile file => .count (m.ofFile file).ncard
  | .replaceFile file ss => .added <|
      match ss.find? (·.file ≠ file) with
      | none => .ok ss.length
      | some s => .error (.foreignSymbol s.id s.file file)
  | .clear => .nothing

end Change

/-! ## One change -/

/-- A key under which an identifier stands is one of the keys. -/
theorem mem_keys_of_mem_idsAt {α : Type} [DecidableEq α] {index : OrderedMap α (List String)} {k : α}
    {id : String} (h : id ∈ idsAt index k) : k ∈ index.keys := by
  unfold idsAt at h
  cases hk : index.get? k with
  | none => rw [hk] at h; cases h
  | some ids => exact mem_keys_of_get? hk

/-- A table whose maps are in step and whose symbols are those of a plain map. -/
structure Refines (t : Table) (m : SymbolMap) : Prop where
  wf : t.WF
  get? : ∀ id, t.get? id = m id

theorem refines_empty : Refines .empty .empty := ⟨wf_empty, fun _ => rfl⟩

section Steps

variable {t : Table} {m : SymbolMap}

theorem Refines.add (h : Refines t m) (s : Symbol) : Refines (t.add s) (m.add s) := by
  refine ⟨h.wf.add s, fun id => ?_⟩
  rw [get?_add, h.get?]
  by_cases hid : id = s.id
  · simp [SymbolMap.add, hid]
  · simp [SymbolMap.add, hid]

theorem Refines.remove (h : Refines t m) (id : String) : Refines (t.remove id) (m.remove id) := by
  refine ⟨h.wf.remove id, fun k => ?_⟩
  rw [get?_remove, h.get?]
  by_cases hk : k = id
  · simp [SymbolMap.remove, hk]
  · simp [SymbolMap.remove, hk]

theorem Refines.removeFile (h : Refines t m) (file : Path) :
    Refines (t.removeFile file) (m.removeFile file) := by
  refine ⟨h.wf.removeFile file, fun id => ?_⟩
  rw [get?_removeFile h.wf, h.get?]
  rfl

theorem Refines.foldl_add (ss : List Symbol) : ∀ {t : Table} {m : SymbolMap}, Refines t m →
    Refines (ss.foldl Table.add t) (ss.foldl SymbolMap.add m) := by
  induction ss with
  | nil => exact fun h => h
  | cons s ss ih => exact fun h => ih (h.add s)

/-- Adding symbols of a file stops at the first of another one, with those before it added. -/
theorem addAll_eq_takeWhile (file : Path) : ∀ (ss : List Symbol) (n : Nat) (t : Table),
    addAll file n t ss =
      (match ss.find? (·.file ≠ file) with
        | none => .ok (n + ss.length)
        | some s => .error (.foreignSymbol s.id s.file file),
      (ss.takeWhile (·.file = file)).foldl Table.add t)
  | [], _, _ => rfl
  | s :: ss, n, t => by
    rw [addAll]
    by_cases hs : s.file = file
    · rw [if_pos hs, addAll_eq_takeWhile file ss, List.find?_cons_of_neg (by simpa using hs),
        List.takeWhile_cons_of_pos (by simpa using hs), List.foldl_cons, List.length_cons,
        Nat.add_right_comm, Nat.add_assoc]
    · rw [if_neg hs, List.find?_cons_of_pos (by simpa using hs),
        List.takeWhile_cons_of_neg (by simpa using hs)]
      rfl

theorem Refines.replaceFile (h : Refines t m) (file : Path) (ss : List Symbol) :
    Refines (t.replaceFile file ss).2 (m.replaceFile file ss) := by
  unfold Table.replaceFile
  rw [addAll_eq_takeWhile]
  exact (h.removeFile file).foldl_add _

/-- Under a key stand the identifiers of the symbols of the plain map that have it. -/
theorem Refines.mem_idsAt {α : Type} [DecidableEq α] {index : OrderedMap α (List String)}
    {key : Symbol → α} (h : Refines t m) (hi : Indexes index t.symbols key) (k : α) (id : String) :
    id ∈ idsAt index k ↔ ∃ s, m id = some s ∧ key s = k := by
  rw [hi.mem, ← h.get?]
  rfl

/-- The identifiers noted for a file are as many as the symbols of the file. -/
theorem Refines.length_idsInFile (h : Refines t m) (file : Path) :
    (t.idsInFile file).length = (m.ofFile file).ncard := by
  have hset : m.ofFile file = ((t.idsInFile file).toFinset : Set String) := by
    ext id
    rw [List.coe_toFinset]
    exact (h.mem_idsAt h.wf.byFile file id).symm
  have hnodup : (t.idsInFile file).Nodup := h.wf.byFile.nodup file
  rw [hset, Set.ncard_coe_finset, List.toFinset_card_of_nodup hnodup]

/-- Whatever is done to a table is done to its plain map. -/
theorem Refines.change (h : Refines t m) (c : Change) : Refines (c.table t) (c.map m) := by
  cases c with
  | add s => exact h.add s
  | remove id => exact h.remove id
  | removeFile file => exact h.removeFile file
  | replaceFile file ss => exact h.replaceFile file ss
  | clear => exact refines_empty

/-- A table replies to every change what its plain map lets expect. -/
theorem Refines.reply (h : Refines t m) (c : Change) : c.reply t = c.expected m := by
  cases c with
  | add s => rfl
  | remove id => exact congrArg Reply.symbol (h.get? id)
  | removeFile file => exact congrArg Reply.count (h.length_idsInFile file)
  | replaceFile file ss =>
    simp only [Change.reply, Change.expected, Table.replaceFile, addAll_eq_takeWhile, Nat.zero_add]
  | clear => rfl

end Steps

/-! ## Look-ups -/

/-- A list of the symbols of a plain map that satisfy a condition, each once, in the order of symbols;
symbols at one place with one name may stand in any order. -/
structure Lists (l : List Symbol) (m : SymbolMap) (p : Symbol → Prop) : Prop where
  sorted : l.Pairwise fun a b => (Symbol.ord a b).isLE = true
  nodup : l.Nodup
  mem : ∀ s, s ∈ l ↔ (∃ id, m id = some s) ∧ p s

/-- A list of the files of such symbols, each once, in the order of paths. -/
structure ListsFiles (l : List Path) (m : SymbolMap) (p : Symbol → Prop) : Prop where
  sorted : l.Pairwise fun a b => (Path.ordByParts a b).isLE = true
  nodup : l.Nodup
  mem : ∀ file, file ∈ l ↔ ∃ id s, m id = some s ∧ p s ∧ s.file = file

section Lookups

variable {t : Table} {m : SymbolMap}

theorem Refines.mem_values (h : Refines t m) (s : Symbol) :
    s ∈ t.symbols.values ↔ ∃ id, m id = some s := by
  rw [OrderedMap.mem_values h.wf.unique]
  exact exists_congr fun id => by rw [← h.get?]; rfl

/-- Sorting what the symbols of a table are filtered to. -/
theorem Refines.lists_sort (h : Refines t m) {l : List Symbol} {p : Symbol → Prop} [DecidablePred p]
    (hl : l.Perm (t.symbols.values.filter fun s => p s)) : Lists (Symbol.sort l) m p := by
  refine ⟨pairwise_mergeSort_isLE Symbol.ord l, ?_, fun s => ?_⟩
  · exact ((Symbol.perm_sort l).trans hl).nodup_iff.2 (h.wf.nodup_values.filter _)
  · rw [Symbol.mem_sort, hl.mem_iff, List.mem_filter, h.mem_values, decide_eq_true_eq]

theorem Refines.findByName (h : Refines t m) (name : String) :
    Lists (t.findByName name) m (·.name = name) :=
  h.lists_sort (h.wf.perm_idsAt h.wf.byName name)

theorem Refines.inFile (h : Refines t m) (file : Path) : Lists (t.inFile file) m (·.file = file) :=
  h.lists_sort (h.wf.perm_idsAt h.wf.byFile file)

theorem Refines.findByKind (h : Refines t m) (kind : SymbolKind) :
    Lists (t.findByKind kind) m (·.kind = kind) :=
  h.lists_sort (.refl _)

theorem Refines.list (h : Refines t m) : Lists t.list m fun _ => True :=
  h.lists_sort (by simp)

theorem Refines.filesOfName (h : Refines t m) (name : String) :
    ListsFiles (t.filesOfName name) m (·.name = name) := by
  refine ⟨Path.pairwise_sortByParts _, ?_, fun file => ?_⟩
  · exact (Path.perm_sortByParts _).nodup_iff.2 (nodup_eraseDups _)
  · unfold Table.filesOfName
    rw [Path.mem_sortByParts, List.mem_eraseDups, List.mem_map]
    constructor
    · rintro ⟨s, hs, hf⟩
      obtain ⟨⟨id, hid⟩, hn⟩ := ((h.findByName name).mem s).1 hs
      exact ⟨id, s, hid, hn, hf⟩
    · rintro ⟨id, s, hid, hn, hf⟩
      exact ⟨s, ((h.findByName name).mem s).2 ⟨⟨id, hid⟩, hn⟩, hf⟩

theorem Refines.files (h : Refines t m) : ListsFiles t.files m fun _ => True := by
  refine ⟨Path.pairwise_sortByParts _, ?_, fun file => ?_⟩
  · exact (Path.perm_sortByParts _).nodup_iff.2 h.wf.byFile.unique
  · unfold Table.files
    rw [Path.mem_sortByParts]
    constructor
    · intro hfile
      -- a file stands in the map of files only with an identifier under it
      obtain ⟨ids, hids⟩ := exists_get?_iff.2 hfile
      obtain ⟨id, hid⟩ := List.exists_mem_of_ne_nil ids (h.wf.byFile.nonempty file ids hids)
      obtain ⟨s, hs, hf⟩ := (h.mem_idsAt h.wf.byFile file id).1 (by unfold idsAt; rwa [hids])
      exact ⟨id, s, hs, trivial, hf⟩
    · rintro ⟨id, s, hs, -, hf⟩
      exact mem_keys_of_mem_idsAt ((h.mem_idsAt h.wf.byFile file id).2 ⟨s, hs, hf⟩)

end Lookups

/-! ## Any changes of a new table -/

/-- A map from a key of symbols to identifiers that pictures a plain map: each key stands once, with
the identifiers of the symbols that have it, and only if there are some. -/
structure Keyed {α : Type} (index : OrderedMap α (List String)) (m : SymbolMap) (key : Symbol → α) :
    Prop where
  unique : index.keys.Nodup
  nodup : ∀ e ∈ index.entries, e.2.Nodup
  mem : ∀ e ∈ index.entries, ∀ id, id ∈ e.2 ↔ ∃ s, m id = some s ∧ key s = e.1
  complete : ∀ id s, m id = some s → key s ∈ index.keys
  nonempty : ∀ e ∈ index.entries, e.2 ≠ []

theorem Refines.keyed {α : Type} [DecidableEq α] {t : Table} {m : SymbolMap} (h : Refines t m)
    {index : OrderedMap α (List String)} {key : Symbol → α} (hi : Indexes index t.symbols key) :
    Keyed index m key := by
  have hget : ∀ e ∈ index.entries, index.get? e.1 = some e.2 :=
    fun e he => (get?_eq_some_iff hi.unique).2 he
  have hids : ∀ e ∈ index.entries, idsAt index e.1 = e.2 :=
    fun e he => by unfold idsAt; rw [hget e he]; rfl
  refine ⟨hi.unique, fun e he => hids e he ▸ hi.nodup e.1, fun e he id => ?_, fun id s hs => ?_,
    fun e he => hi.nonempty e.1 e.2 (hget e he)⟩
  · rw [← hids e he, h.mem_idsAt hi]
  · exact mem_keys_of_mem_idsAt ((h.mem_idsAt hi (key s) id).2 ⟨s, hs, rfl⟩)

/-- A table that pictures a plain map: it holds its symbols, both further maps are kept for them
alone, every identifier they lead to is stored, every look-up filters and sorts, and every change
replies what the plain map lets expect. -/
structure Pictures (t : Table) (m : SymbolMap) : Prop where
  get? : ∀ id, t.get? id = m id
  byName : Keyed t.byName m (·.name)
  byFile : Keyed t.byFile m (·.file)
  storedName : ∀ name, ∀ id ∈ t.idsOfName name, ∃ s, t.symbols.get? id = some s
  storedFile : ∀ file, ∀ id ∈ t.idsInFile file, ∃ s, t.symbols.get? id = some s
  findByName : ∀ name, Lists (t.findByName name) m (·.name = name)
  findByKind : ∀ kind, Lists (t.findByKind kind) m (·.kind = kind)
  inFile : ∀ file, Lists (t.inFile file) m (·.file = file)
  list : Lists t.list m fun _ => True
  filesOfName : ∀ name, ListsFiles (t.filesOfName name) m (·.name = name)
  files : ListsFiles t.files m fun _ => True
  reply : ∀ c : Change, c.reply t = c.expected m

theorem Refines.pictures {t : Table} {m : SymbolMap} (h : Refines t m) : Pictures t m where
  get? := h.get?
  byName := h.keyed h.wf.byName
  byFile := h.keyed h.wf.byFile
  storedName name id hid := by
    obtain ⟨s, hs, -⟩ := (h.wf.byName.mem name id).1 hid
    exact ⟨s, hs⟩
  storedFile file id hid := by
    obtain ⟨s, hs, -⟩ := (h.wf.byFile.mem file id).1 hid
    exact ⟨s, hs⟩
  findByName := h.findByName
  findByKind := h.findByKind
  inFile := h.inFile
  list := h.list
  filesOfName := h.filesOfName
  files := h.files
  reply := h.reply

/-- The table that changes make of a new one. -/
def changed (cs : List Change) : Table := cs.foldl (fun t c => c.table t) .empty

/-- The plain map that changes make of the empty one. -/
def mapped (cs : List Change) : SymbolMap := cs.foldl (fun m c => c.map m) .empty

theorem Refines.foldl_change (cs : List Change) : ∀ {t : Table} {m : SymbolMap}, Refines t m →
    Refines (cs.foldl (fun t c => c.table t) t) (cs.foldl (fun m c => c.map m) m) := by
  induction cs with
  | nil => exact fun h => h
  | cons c cs ih => exact fun h => ih (h.change c)

/-- After any changes a table pictures the map that the same changes make. -/
theorem changed_pictures (cs : List Change) : Pictures (changed cs) (mapped cs) :=
  (refines_empty.foldl_change cs).pictures

end Table

end RtlAtlas
