/-
An index as the copies of files it has taken in. `Represents` says that an index knows of every file
just what the text of its copy declares, and nothing of a file without a copy. Taking a file in
changes the copy of that file and no other, dropping one takes its copy away; that files never
disturb each other rests on their symbols having different identifiers.
-/
import Mathlib.Logic.Function.Basic
import RtlAtlas.Index.Update
import RtlAtlas.Proofs.Source.Names
import RtlAtlas.Proofs.Symbol.Identity
import RtlAtlas.Proofs.Symbol.Table

namespace RtlAtlas

open OrderedMap

/-! ## Copies of files -/

/-- A text that was taken in for a file. -/
structure Copy where
  text : List Char
  /-- Whether it was handed over in memory rather than read from disk. -/
  inMemory : Bool
  deriving DecidableEq, Repr

/-- The text held in memory of a copy. -/
def Copy.kept (c : Copy) : Option String := if c.inMemory then some (String.ofList c.text) else none

/-- What the copy of a file declares; without a copy it declares nothing. -/
def declarations (file : Path) (copy : Option Copy) : Source.Extraction :=
  (copy.bind fun c => (Source.extract file c.text).toOption).getD ⟨file, [], [], []⟩

/-- The symbols that a copy of a file puts into a table. -/
def symbolsHeld (root file : Path) (copy : Option Copy) : List Symbol :=
  Symbol.lastPerId (Index.symbolsOf root file (declarations file copy))

theorem declarations_some {file : Path} {c : Copy} {e : Source.Extraction}
    (h : Source.extract file c.text = .ok e) : declarations file (some c) = e := by
  unfold declarations
  rw [Option.bind_some, h]
  rfl

theorem declarations_cases (file : Path) (copy : Option Copy) :
    declarations file copy = ⟨file, [], [], []⟩ ∨
      ∃ c, copy = some c ∧ Source.extract file c.text = .ok (declarations file copy) := by
  cases copy with
  | none => exact Or.inl rfl
  | some c =>
    unfold declarations
    rw [Option.bind_some]
    cases h : Source.extract file c.text with
    | error _ => exact Or.inl rfl
    | ok e => exact Or.inr ⟨c, rfl, h⟩

theorem file_of_mem_modules {file : Path} {copy : Option Copy} :
    ∀ m ∈ (declarations file copy).modules, m.file = file := by
  rcases declarations_cases file copy with h | ⟨c, -, h⟩
  · rw [h]; simp
  · exact (Source.file_of_extract h).2.1

theorem file_of_mem_instances {file : Path} {copy : Option Copy} :
    ∀ i ∈ (declarations file copy).instances, i.file = file := by
  rcases declarations_cases file copy with h | ⟨c, -, h⟩
  · rw [h]; simp
  · exact (Source.file_of_extract h).2.2

theorem colon_notMem_of_mem_symbols {file : Path} {copy : Option Copy} :
    ∀ x ∈ (declarations file copy).symbols, ':' ∉ x.name.toList := by
  rcases declarations_cases file copy with h | ⟨c, -, h⟩
  · rw [h]; simp
  · exact Source.colon_notMem_of_extract h

theorem mem_symbolsOf {root file : Path} {e : Source.Extraction} {s : Symbol} :
    s ∈ Index.symbolsOf root file e ↔ ∃ x ∈ e.symbols,
      Symbol.create root file x.name x.kind x.line x.endLine x.nodeType = s := by
  unfold Index.symbolsOf
  rw [List.mem_map]

theorem file_of_mem_symbolsOf {root file : Path} {e : Source.Extraction} :
    ∀ s ∈ Index.symbolsOf root file e, s.file = file := by
  intro s hs
  obtain ⟨x, -, rfl⟩ := mem_symbolsOf.1 hs
  rfl

/-- A symbol held for a file belongs to it, carries the identifier of its place, and has a name
without a colon. -/
theorem of_mem_symbolsHeld {root file : Path} {copy : Option Copy} {s : Symbol}
    (h : s ∈ symbolsHeld root file copy) :
    s.file = file ∧ s.id = Symbol.idOf root file s.name s.line ∧ ':' ∉ s.name.toList := by
  obtain ⟨x, hx, rfl⟩ := mem_symbolsOf.1 (Symbol.mem_of_mem_lastPerId h)
  exact ⟨rfl, rfl, colon_notMem_of_mem_symbols x hx⟩

theorem symbolsHeld_none (root file : Path) : symbolsHeld root file none = [] := rfl

/-- Symbols held for different files have different identifiers. -/
theorem file_eq_of_id_eq {root file file' : Path} {copy copy' : Option Copy} {s s' : Symbol}
    (hf : file.Resolved) (hf' : file'.Resolved) (hs : s ∈ symbolsHeld root file copy)
    (hs' : s' ∈ symbolsHeld root file' copy') (hid : s.id = s'.id) : file = file' := by
  obtain ⟨-, hi, hc⟩ := of_mem_symbolsHeld hs
  obtain ⟨-, hi', hc'⟩ := of_mem_symbolsHeld hs'
  rw [hi, hi', Symbol.idOf_inj hf.proper hf'.proper hf.isAbsolute hf'.isAbsolute hc hc'] at hid
  exact hid.1

namespace Index

/-! ## What an index knows -/

/-- An index that came of another one has its root and its settings. -/
structure Stays (i j : Index) : Prop where
  root : j.root = i.root
  config : j.config = i.config

theorem Stays.refl (i : Index) : i.Stays i := ⟨rfl, rfl⟩

theorem Stays.trans {i j k : Index} (h : i.Stays j) (h' : j.Stays k) : i.Stays k :=
  ⟨h'.root.trans h.root, h'.config.trans h.config⟩

/-- An index knows of every file just what its copy declares. -/
structure Represents (i : Index) (copies : Path → Option Copy) : Prop where
  /-- Copies are of resolved paths, and their texts are not refused. -/
  accepted : ∀ f c, copies f = some c → f.Resolved ∧ ∃ e, Source.extract f c.text = .ok e
  table : i.table.WF
  symbols : ∀ s, i.table.get? s.id = some s ↔ s ∈ symbolsHeld i.root s.file (copies s.file)
  uniqueModules : i.modules.Unique
  modules : ∀ f, (i.modules.get? f).getD [] = (declarations f (copies f)).modules
  uniqueInstances : i.instances.Unique
  instances : ∀ f, (i.instances.get? f).getD [] = (declarations f (copies f)).instances
  uniqueHashes : i.hashes.Unique
  hashes : ∀ f, i.hashes.get? f = (copies f).map fun c => textHash c.text
  uniqueContents : i.contents.Unique
  contents : ∀ f, i.contents.get? f = (copies f).bind Copy.kept

variable {i j : Index} {copies copies' : Path → Option Copy}

/-- An index without files, whatever its graph. -/
theorem Represents.clear (i : Index) (root : Path) :
    ({ i.clear with root := root } : Index).Represents fun _ => none where
  accepted := fun f c hc => by cases hc
  table := Table.wf_empty
  symbols := fun s => iff_of_false (fun hs => by cases hs) (fun hs => by cases hs)
  uniqueModules := unique_empty
  modules := fun f => rfl
  uniqueInstances := unique_empty
  instances := fun f => rfl
  uniqueHashes := unique_empty
  hashes := fun f => rfl
  uniqueContents := unique_empty
  contents := fun f => rfl

/-- The graph, the settings and what text search looks at are no part of what is known of files. -/
theorem Represents.congr (h : i.Represents copies) (hr : j.root = i.root) (ht : j.table = i.table)
    (hm : j.modules = i.modules) (hi : j.instances = i.instances) (hh : j.hashes = i.hashes)
    (hc : j.contents = i.contents) : j.Represents copies where
  accepted := h.accepted
  table := ht ▸ h.table
  symbols := fun s => by rw [ht, hr]; exact h.symbols s
  uniqueModules := hm ▸ h.uniqueModules
  modules := fun f => by rw [hm]; exact h.modules f
  uniqueInstances := hi ▸ h.uniqueInstances
  instances := fun f => by rw [hi]; exact h.instances f
  uniqueHashes := hh ▸ h.uniqueHashes
  hashes := fun f => by rw [hh]; exact h.hashes f
  uniqueContents := hc ▸ h.uniqueContents
  contents := fun f => by rw [hc]; exact h.contents f

theorem Represents.changed (h : i.Represents copies) : i.changed.Represents copies :=
  h.congr rfl rfl rfl rfl rfl rfl

/-- A new index is empty, with the root of its settings. -/
theorem eq_of_new {config : Config} (h : Index.new config = .ok i) :
    i = { config := config, root := config.root } := by
  unfold Index.new at h
  split at h
  · exact (Except.ok.inj h).symm
  · cases h

theorem withGraph_of_none (h : i.graph = none) : i.withGraph.1 = i.freshGraph := by
  unfold withGraph
  rw [h]

theorem stays_withGraph (i : Index) : i.Stays i.withGraph.2 := by
  unfold Index.withGraph
  split
  · exact Stays.refl i
  · exact ⟨rfl, rfl⟩

theorem Represents.withGraph (h : i.Represents copies) : i.withGraph.2.Represents copies := by
  unfold Index.withGraph
  split
  · exact h
  · exact h.congr rfl rfl rfl rfl rfl rfl

/-- The symbols of an index are those held for its files. -/
theorem Represents.mem_values (h : i.Represents copies) {s : Symbol} :
    s ∈ i.table.symbols.values ↔ s ∈ symbolsHeld i.root s.file (copies s.file) := by
  rw [h.table.mem_values, h.symbols]

theorem Represents.resolved (h : i.Represents copies) {f : Path} (hc : copies f ≠ none) :
    f.Resolved := by
  obtain ⟨c, hc⟩ := Option.ne_none_iff_exists'.1 hc
  exact (h.accepted f c hc).1

theorem Represents.resolved_of_mem (h : i.Represents copies) {s : Symbol} {f : Path}
    (hs : s ∈ symbolsHeld i.root f (copies f)) : f.Resolved :=
  h.resolved fun hn => by rw [hn, symbolsHeld_none] at hs; cases hs

/-! ## Taking a file in -/

/-- The index after a file was taken in as a copy. -/
def take (i : Index) (file : Path) (e : Source.Extraction) (c : Copy) : Index :=
  { i.apply file e (textHash c.text) with
    contents :=
      if c.inMemory then i.contents.insert file (String.ofList c.text) else i.contents.erase file }

theorem get?_table_apply (h : i.table.WF) (file : Path) (e : Source.Extraction) (hash k : String) :
    (i.apply file e hash).table.get? k =
      ((Symbol.lastPerId (symbolsOf i.root file e)).find? (·.id == k)).or
        ((i.table.get? k).filter (·.file != file)) := by
  show (i.table.replaceFile file (symbolsOf i.root file e)).2.get? k = _
  rw [Table.replaceFile_eq _ file_of_mem_symbolsOf, Table.get?_foldl_add, Table.get?_removeFile h]

/-- What is read from a map into which a file was put is read from the copies with the file's new
one. -/
theorem read_insert {β γ : Type} (read : Option β → γ) (held : Path → Option Copy → γ)
    {m : OrderedMap Path β} (h : ∀ f, read (m.get? f) = held f (copies f)) {file : Path}
    {copy : Option Copy} {value : β} (hv : read (some value) = held file copy) (f : Path) :
    read ((m.insert file value).get? f) = held f (Function.update copies file copy f) := by
  rw [get?_insert]
  by_cases hff : f = file
  · subst hff; rw [if_pos rfl, Function.update_self, hv]
  · rw [if_neg hff, Function.update_of_ne hff, h]

theorem read_erase {β γ : Type} (read : Option β → γ) (held : Path → Option Copy → γ)
    {m : OrderedMap Path β} (h : ∀ f, read (m.get? f) = held f (copies f)) {file : Path}
    {copy : Option Copy} (hv : read none = held file copy) (f : Path) :
    read ((m.erase file).get? f) = held f (Function.update copies file copy f) := by
  rw [get?_erase]
  by_cases hff : f = file
  · subst hff; rw [if_pos rfl, Function.update_self, hv]
  · rw [if_neg hff, Function.update_of_ne hff, h]

/-- The symbols after a file was taken in: those of its copy, and those of the other files. -/
theorem Represents.symbols_apply (h : i.Represents copies) {file : Path} {e : Source.Extraction}
    {c : Copy} (hf : file.Resolved) (he : Source.extract file c.text = .ok e) (hash : String)
    (s : Symbol) : (i.apply file e hash).table.get? s.id = some s ↔
      s ∈ symbolsHeld i.root s.file (Function.update copies file (some c) s.file) := by
  have hheld : symbolsHeld i.root file (some c) = Symbol.lastPerId (symbolsOf i.root file e) := by
    unfold symbolsHeld; rw [declarations_some he]
  rw [get?_table_apply h.table, ← hheld]
  by_cases hsf : s.file = file
  · rw [hsf, Function.update_self]
    constructor
    · intro hs
      rcases Option.or_eq_some_iff.1 hs with hs | ⟨-, hs⟩
      · exact List.mem_of_find?_eq_some hs
      · rw [Option.filter_eq_some_iff] at hs
        simp [hsf] at hs
    · intro hs
      rw [hheld] at hs ⊢
      rw [Symbol.find?_lastPerId_eq_some.2 ⟨hs, rfl⟩, Option.some_or]
  · rw [Function.update_of_ne hsf, ← h.symbols s]
    constructor
    · intro hs
      rcases Option.or_eq_some_iff.1 hs with hs | ⟨-, hs⟩
      · exact absurd (of_mem_symbolsHeld (List.mem_of_find?_eq_some hs)).1 hsf
      · exact (Option.filter_eq_some_iff.1 hs).1
    · intro hs
      -- a new symbol with this identifier would belong to the same file
      have hold := (h.symbols s).1 hs
      have hnone : (symbolsHeld i.root file (some c)).find? (·.id == s.id) = none := by
        rw [List.find?_eq_none]
        intro u hu hid
        exact hsf (file_eq_of_id_eq (h.resolved_of_mem hold) hf hold hu
          (beq_iff_eq.1 hid).symm)
      rw [hnone, Option.none_or, hs, Option.filter_some, if_pos (by simpa using hsf)]

/-- Taking a file in changes what is known of that file and of no other. -/
theorem Represents.take (h : i.Represents copies) {file : Path} {e : Source.Extraction} {c : Copy}
    (hf : file.Resolved) (he : Source.extract file c.text = .ok e) :
    (i.take file e c).Represents (Function.update copies file (some c)) := by
  have hdecl := declarations_some he
  refine
    { accepted := fun f c' hc' => ?_
      table := ?_
      symbols := h.symbols_apply hf he (textHash c.text)
      uniqueModules := h.uniqueModules.insert _ _
      modules := read_insert (·.getD []) (fun f c => (declarations f c).modules) h.modules (by rw [hdecl]; rfl)
      uniqueInstances := h.uniqueInstances.insert _ _
      instances :=
        read_insert (·.getD []) (fun f c => (declarations f c).instances) h.instances (by rw [hdecl]; rfl)
      uniqueHashes := h.uniqueHashes.insert _ _
      hashes :=
        read_insert id (fun _ => Option.map fun c : Copy => textHash c.text) h.hashes rfl
      uniqueContents := ?_
      contents := ?_ }
  · -- the copy that was taken in is resolved and accepted, the others were before
    by_cases hff : f = file
    · subst hff
      rw [Function.update_self] at hc'
      cases hc'
      exact ⟨hf, e, he⟩
    · rw [Function.update_of_ne hff] at hc'
      exact h.accepted f c' hc'
  · -- no symbol of another file is replaced
    show (i.table.replaceFile file (symbolsOf i.root file e)).2.WF
    rw [Table.replaceFile_eq _ file_of_mem_symbolsOf]
    exact (h.table.removeFile file).foldl_add _
  · -- a text from disk takes the one in memory away
    unfold Index.take
    split
    · exact h.uniqueContents.insert _ _
    · exact h.uniqueContents.erase _
  · unfold Index.take
    split
    · rename_i hm
      exact read_insert id (fun _ c => c.bind Copy.kept) h.contents (if_pos hm).symm
    · rename_i hm
      exact read_erase id (fun _ c => c.bind Copy.kept) h.contents (if_neg hm).symm

/-! ## Dropping a file -/

/-- Dropping a file takes its copy away. -/
theorem Represents.dropFile (h : i.Represents copies) (file : Path) :
    (i.dropFile file).Represents (Function.update copies file none) where
  accepted := fun f c hc => by
    by_cases hff : f = file
    · subst hff; rw [Function.update_self] at hc; cases hc
    · rw [Function.update_of_ne hff] at hc
      exact h.accepted f c hc
  table := h.table.removeFile file
  symbols := fun s => by
    show (i.table.removeFile file).get? s.id = some s ↔ s ∈ symbolsHeld i.root s.file _
    rw [Table.get?_removeFile h.table, Option.filter_eq_some_iff, h.symbols]
    by_cases hsf : s.file = file
    · rw [hsf, Function.update_self, symbolsHeld_none]; simp
    · rw [Function.update_of_ne hsf]; simp [hsf]
  uniqueModules := h.uniqueModules.erase file
  modules := read_erase (·.getD []) (fun f c => (declarations f c).modules) h.modules rfl
  uniqueInstances := h.uniqueInstances.erase file
  instances := read_erase (·.getD []) (fun f c => (declarations f c).instances) h.instances rfl
  uniqueHashes := h.uniqueHashes.erase file
  hashes :=
    read_erase id (fun _ => Option.map fun c : Copy => textHash c.text) h.hashes rfl
  uniqueContents := h.uniqueContents.erase file
  contents := read_erase id (fun _ c => c.bind Copy.kept) h.contents rfl

/-- A file without a copy is not known. -/
theorem Represents.knows_eq (h : i.Represents copies) (file : Path) :
    i.knows file = (copies file).isSome := by
  unfold knows
  rw [contains_eq_isSome, h.hashes]
  cases hc : copies file with
  | some c => rfl
  | none =>
    have hids : i.table.idsInFile file = [] := by
      refine List.eq_nil_iff_forall_not_mem.2 fun id hid => ?_
      obtain ⟨s, hs, rfl⟩ := (h.table.byFile.mem file id).1 hid
      rw [← h.table.ids id s hs] at hs
      have := (h.symbols s).1 hs
      rw [hc, symbolsHeld_none] at this
      cases this
    simp [hids]

end Index

end RtlAtlas
