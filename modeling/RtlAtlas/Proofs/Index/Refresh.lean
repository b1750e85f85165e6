/-
What a refresh takes in. A file is skipped only when the recorded digest is that of its
bytes, which then write the text that was taken in, so nothing is missed; a file that is gone leaves
nothing behind, and one that cannot be taken in keeps what was known of it. The digests are assumed
to tell the texts apart that are compared by them.

What is dropped for a path that is gone is the file at the place that the path means. Where that is
another place, because a link stands on the path, what was known under the path itself stays.
-/
import Mathlib.Data.Set.Function
import RtlAtlas.Proofs.Index.Run
import RtlAtlas.Proofs.Text.Utf8

namespace RtlAtlas

open OrderedMap

namespace Index

/-! ## What is known of one file -/

/-- What an index lists of a file. -/
structure Listed where
  symbols : List Symbol
  modules : List ModuleDef
  instances : List Instance
  hash : Option String

/-- What an index lists of a file. -/
def listed (i : Index) (file : Path) : Listed where
  symbols := i.table.inFile file
  modules := (i.modules.get? file).getD []
  instances := (i.instances.get? file).getD []
  hash := i.hashes.get? file

variable {i j : Index} {copies copies' : Path → Option Copy} {tree : FileTree}

/-- What is listed of a file depends on its text alone. -/
theorem Represents.listed_eq (hi : i.Represents copies) (hj : j.Represents copies')
    (hr : i.root = j.root) {f : Path} (ht : textsOf copies f = textsOf copies' f) :
    i.listed f = j.listed f := by
  unfold listed
  rw [hi.inFile_congr hj hr ht, hi.modules, hj.modules, hi.instances, hj.instances,
    declarations_congr ht, hi.hash_eq, hj.hash_eq, ht]

theorem Represents.listed_of_none (h : i.Represents copies) {f : Path} (hc : copies f = none) :
    i.listed f = ⟨[], [], [], none⟩ := by
  have hs : Symbol.sort (symbolsHeld i.root f none) = [] := List.mergeSort_nil
  unfold listed
  rw [h.inFile_eq, h.modules, h.instances, h.hashes, hc, hs]
  rfl

/-! ## Which files a refresh takes in -/

/-- The byte rows that a refresh compares by their digests. -/
def compared (i : Index) (tree : FileTree) (copies : Path → Option Copy) : Set (List UInt8) :=
  fun bytes => (∃ f c, copies f = some c ∧ Text.encode c.text = bytes) ∨
    ∃ f ∈ (discover i.config tree i.root).1, tree.read? f = some bytes

theorem extractFile_of_bytes {file : Path} {bytes : List UInt8} {text : List Char}
    (hr : tree.read? file = some bytes) (hd : Text.decode? bytes = some text)
    (hn : Char.ofNat 0 ∉ text) : ∃ e, extractFile tree file = .ok (e, text) := by
  obtain ⟨e, he⟩ := Source.extract_isOk_iff.2 hn
  refine ⟨e, extractFile_eq_ok.2 ⟨?_, he⟩⟩
  unfold readSource
  rw [hr, Option.bind_some, hd]

/-- The bytes of a file that can be taken in write the text that is taken. -/
theorem bytes_of_extractFile {file : Path} {found : Source.Extraction × List Char}
    (h : extractFile tree file = .ok found) :
    ∃ bytes, tree.read? file = some bytes ∧ Text.decode? bytes = some found.2 := by
  have hr := (extractFile_eq_ok.1 h).1
  unfold readSource at hr
  cases hb : tree.read? file with
  | none => rw [hb] at hr; cases hr
  | some bytes =>
    rw [hb, Option.bind_some] at hr
    cases hd : Text.decode? bytes with
    | none => rw [hd] at hr; cases hr
    | some text => rw [hd] at hr; cases hr; exact ⟨bytes, rfl, hd⟩

theorem Represents.mem_gone (h : i.Represents copies) {f : Path} :
    f ∈ i.gone tree ↔ (∃ c, copies f = some c) ∧ f ∉ (discover i.config tree i.root).1 := by
  unfold gone
  rw [List.mem_filter, h.mem_recorded]
  simp

/-- What is dropped stands at places. -/
theorem place_of_mem_dropped (ht : tree.WF) {f : Path}
    (hf : f ∈ i.dropped tree) : tree.place f = f := by
  obtain ⟨g, -, rfl⟩ := List.mem_map.1 hf
  exact FileTree.place_place ht g

/-- Nothing is left of what is not discovered, unless a path has come to lead elsewhere. -/
theorem Represents.without_dropped (h : i.Represents copies) (ht : tree.WF) {f : Path}
    (hf : f ∉ (discover i.config tree i.root).1) :
    without (i.dropped tree) copies f = if tree.place f = f then none else copies f := by
  unfold without
  by_cases hplace : tree.place f = f
  · rw [if_pos hplace]
    split
    · rfl
    · rename_i hkept
      -- a recorded file would be gone, and dropped as the file at its own place
      refine Option.eq_none_iff_forall_ne_some.2 fun c hc => hkept ?_
      exact List.mem_map.2 ⟨f, h.mem_gone.2 ⟨⟨c, hc⟩, hf⟩, hplace⟩
  · rw [if_neg hplace, if_neg fun hm => hplace (place_of_mem_dropped ht hm)]

/-- A discovered file is taken in unless the digest of the copy that is kept of it is that of its
bytes. -/
theorem Represents.mem_fresh (h : i.Represents copies) {f : Path} :
    f ∈ i.fresh tree ↔ f ∈ (discover i.config tree i.root).1 ∧
      (without (i.dropped tree) copies f).map (fun c => textHash c.text) ≠ some (fileHash tree f) := by
  unfold fresh
  rw [List.mem_filter, (h.foldl_dropFile).hashes]
  simp

theorem fresh_subset {f : Path} (h : f ∈ i.fresh tree) : f ∈ (discover i.config tree i.root).1 :=
  (List.mem_filter.1 h).1

/-- The copies that a refresh leaves if it comes to all its files. -/
def allRefreshed (i : Index) (tree : FileTree) (copies : Path → Option Copy) : Path → Option Copy :=
  takenFrom tree (i.fresh tree) (without (i.dropped tree) copies)

/-- The copy of a file that is no longer discovered is gone, unless its path leads elsewhere. -/
theorem Represents.refreshed_of_notMem (h : i.Represents copies) (ht : tree.WF) {f : Path}
    (hf : f ∉ (discover i.config tree i.root).1) :
    i.allRefreshed tree copies f = if tree.place f = f then none else copies f := by
  unfold allRefreshed takenFrom
  rw [if_neg fun hm => hf (fresh_subset hm), h.without_dropped ht hf]

/-- The copy of a file that cannot be taken in stays, unless it was dropped for another one. -/
theorem refreshed_of_error {f : Path} (hd : diskCopy tree f = none) :
    i.allRefreshed tree copies f = if f ∈ i.dropped tree then none else copies f := by
  unfold allRefreshed takenFrom
  rw [hd, Option.none_or, ite_self, without]

/-- The text of a file that can be taken in is the one on disk, whether it was skipped or not. -/
theorem Represents.refreshed_of_ok (h : i.Represents copies)
    (hsha : Set.InjOn Digest.sha256Hex (i.compared tree copies)) {f : Path}
    (hf : f ∈ (discover i.config tree i.root).1) {found : Source.Extraction × List Char}
    (hx : extractFile tree f = .ok found) :
    textsOf (i.allRefreshed tree copies) f = some found.2 := by
  unfold textsOf allRefreshed takenFrom
  by_cases hm : f ∈ i.fresh tree
  · rw [if_pos hm, diskCopy_of_ok hx]
    rfl
  · rw [if_neg hm]
    have heq : (without (i.dropped tree) copies f).map (fun c => textHash c.text) =
        some (fileHash tree f) := by
      by_contra hne
      exact hm (h.mem_fresh.2 ⟨hf, hne⟩)
    obtain ⟨c, hkept, hhash⟩ := Option.map_eq_some_iff.1 heq
    have hc : copies f = some c := by
      unfold without at hkept
      split at hkept
      · cases hkept
      · exact hkept
    obtain ⟨bytes, hr, hd⟩ := bytes_of_extractFile hx
    have hfile : fileHash tree f = Digest.sha256Hex bytes := by unfold fileHash; rw [hr]
    -- equal digests are of equal bytes, and bytes write one text only
    have hbytes : Text.encode c.text = bytes :=
      hsha (Or.inl ⟨f, c, hc, rfl⟩) (Or.inr ⟨f, hf, hr⟩) (hhash.trans hfile)
    rw [← hbytes, Text.decode?_encode] at hd
    rw [hkept]
    exact hd

/-! ## Counting -/

theorem cancelled_indexFiles_none (total : Nat) : ∀ (fs : List Path) (done : Nat) (i : Index)
    (s : Stats), (indexFiles tree none total done i s fs).2.1.cancelled = s.cancelled
  | [], _, _, _ => rfl
  | f :: fs, done, i, s => by
    rw [indexFiles]
    exact (cancelled_indexFiles_none total fs (done + 1) _ _).trans (indexFile_snd tree i s f).2.2.2.2

/-- A refresh without a stop is not cancelled. -/
theorem cancelled_refresh_none (i : Index) (tree : FileTree) :
    (i.refresh tree none).2.1.cancelled = false :=
  cancelled_indexFiles_none _ _ _ _ _

/-- A refresh that is not cancelled comes to all files that it should, and counts every discovered
file once. -/
theorem counts_refresh {stopAfter : Option Int}
    (h : (i.refresh tree stopAfter).2.1.cancelled = false) :
    reached stopAfter 0 (i.fresh tree) = i.fresh tree ∧
    (i.refresh tree stopAfter).2.1.files + (i.refresh tree stopAfter).2.1.errors.length +
      (i.refresh tree stopAfter).2.1.unchanged = (discover i.config tree i.root).1.length ∧
    (i.refresh tree stopAfter).2.1.removed = (i.gone tree).length := by
  obtain ⟨hall, hcount, hunchanged, hremoved⟩ := indexFiles_of_not_cancelled stopAfter _ _ _ _ _ h
  have hle : (i.fresh tree).length ≤ (discover i.config tree i.root).1.length :=
    List.length_filter_le _ _
  refine ⟨hall, ?_, hremoved⟩
  have hcount' : (i.refresh tree stopAfter).2.1.files + (i.refresh tree stopAfter).2.1.errors.length =
      0 + 0 + (i.fresh tree).length := hcount
  have hunchanged' : (i.refresh tree stopAfter).2.1.unchanged =
      (discover i.config tree i.root).1.length - (i.fresh tree).length := hunchanged
  omega

end Index

end RtlAtlas
