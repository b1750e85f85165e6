/-
Runs over files. A run takes the files of a prefix of its list in from disk, one after the other; the
prefix is the whole list unless the run is stopped. So build and refresh, stopped or not, leave an
index that represents the copies on disk of the files they came to, and for the others what it
represented before.
-/
import RtlAtlas.Proofs.FileTree
import RtlAtlas.Proofs.Index.Listing

namespace RtlAtlas

open OrderedMap

/-! ## Copies on disk -/

/-- The copy of a file on disk, if it can be read and is not refused. -/
def diskCopy (tree : FileTree) (file : Path) : Option Copy :=
  (Index.extractFile tree file).toOption.map fun found => ⟨found.2, false⟩

/-- Copies after some files were taken in from disk: those that cannot be stay as they were. -/
def takenFrom (tree : FileTree) (files : List Path) (copies : Path → Option Copy) (file : Path) :
    Option Copy :=
  if file ∈ files then (diskCopy tree file).or (copies file) else copies file

/-- Copies after some files were dropped. -/
def without (files : List Path) (copies : Path → Option Copy) (file : Path) : Option Copy :=
  if file ∈ files then none else copies file

namespace Index

theorem extractFile_eq_ok {tree : FileTree} {file : Path} {found : Source.Extraction × List Char} :
    extractFile tree file = .ok found ↔
      readSource tree file = .ok found.2 ∧ Source.extract file found.2 = .ok found.1 := by
  obtain ⟨e, content⟩ := found
  unfold extractFile
  cases hr : readSource tree file with
  | error _ => simp [bind, Except.bind]
  | ok c =>
    cases he : Source.extract file c with
    | error _ =>
      simp only [bind, Except.bind, he, reduceCtorEq, Except.ok.injEq, false_iff, not_and]
      rintro rfl h'
      rw [he] at h'
      cases h'
    | ok e' =>
      simp only [bind, Except.bind, he, pure, Except.pure, Except.ok.injEq, Prod.mk.injEq]
      constructor
      · rintro ⟨rfl, rfl⟩; exact ⟨rfl, he⟩
      · rintro ⟨rfl, h'⟩
        rw [he] at h'
        exact ⟨Except.ok.inj h', rfl⟩

variable {i : Index} {copies : Path → Option Copy} {tree : FileTree}

theorem diskCopy_of_ok {file : Path} {found : Source.Extraction × List Char}
    (h : extractFile tree file = .ok found) : diskCopy tree file = some ⟨found.2, false⟩ := by
  unfold diskCopy
  rw [h]
  rfl

theorem diskCopy_of_error {file : Path} {error : Error} (h : extractFile tree file = .error error) :
    diskCopy tree file = none := by
  unfold diskCopy
  rw [h]
  rfl

/-! ## One file -/

/-- Takes a file in from disk, if it can be. -/
def takeIn (tree : FileTree) (i : Index) (file : Path) : Index :=
  match extractFile tree file with
  | .ok (e, content) => i.take file e ⟨content, false⟩
  | .error _ => i

theorem indexFile_fst (tree : FileTree) (i : Index) (s : Stats) (file : Path) :
    (indexFile tree i s file).1 = i.takeIn tree file := by
  unfold indexFile takeIn
  cases extractFile tree file <;> rfl

/-- A file is counted as taken in or as an error. -/
theorem indexFile_snd (tree : FileTree) (i : Index) (s : Stats) (file : Path) :
    (indexFile tree i s file).2.files + (indexFile tree i s file).2.errors.length =
      s.files + s.errors.length + 1 ∧
    (indexFile tree i s file).2.skipped = s.skipped ∧
    (indexFile tree i s file).2.unchanged = s.unchanged ∧
    (indexFile tree i s file).2.removed = s.removed ∧
    (indexFile tree i s file).2.cancelled = s.cancelled := by
  unfold indexFile
  split
  · exact ⟨by simp only [Stats.count]; omega, rfl, rfl, rfl, rfl⟩
  · exact ⟨by simp only [List.length_append, List.length_singleton]; omega, rfl, rfl, rfl, rfl⟩

theorem takenFrom_nil (tree : FileTree) (copies : Path → Option Copy) :
    takenFrom tree [] copies = copies :=
  funext fun _ => if_neg (by simp)

theorem takenFrom_singleton (tree : FileTree) (file : Path) (copies : Path → Option Copy) :
    takenFrom tree [file] copies =
      Function.update copies file ((diskCopy tree file).or (copies file)) := by
  funext g
  unfold takenFrom
  by_cases hg : g = file
  · subst hg; rw [if_pos (by simp), Function.update_self]
  · rw [if_neg (by simpa using hg), Function.update_of_ne hg]

theorem Represents.takeIn (h : i.Represents copies) {file : Path} (hf : file.Resolved) :
    (i.takeIn tree file).Represents (takenFrom tree [file] copies) := by
  rw [takenFrom_singleton]
  unfold Index.takeIn
  cases hx : extractFile tree file with
  | error e =>
    rw [diskCopy_of_error hx, Option.none_or, Function.update_eq_self]
    exact h
  | ok found =>
    rw [diskCopy_of_ok hx, Option.some_or]
    exact h.take hf (extractFile_eq_ok.1 hx).2

/-! ## Several files -/

theorem takenFrom_cons (tree : FileTree) (f : Path) (fs : List Path) (copies : Path → Option Copy) :
    takenFrom tree (f :: fs) copies = takenFrom tree fs (takenFrom tree [f] copies) := by
  funext g
  unfold takenFrom
  by_cases hg : g = f
  · subst hg
    by_cases hfs : g ∈ fs <;> cases diskCopy tree g <;> simp [hfs]
  · by_cases hfs : g ∈ fs <;> simp [hg, hfs]

theorem stays_takeIn (tree : FileTree) (i : Index) (file : Path) : i.Stays (i.takeIn tree file) := by
  unfold Index.takeIn
  split
  · exact ⟨rfl, rfl⟩
  · exact Stays.refl i

theorem stays_foldl {step : Index → Path → Index} (h : ∀ i f, Stays i (step i f)) :
    ∀ (fs : List Path) (i : Index), i.Stays (fs.foldl step i)
  | [], i => Stays.refl i
  | f :: fs, i => (h i f).trans (stays_foldl h fs (step i f))

theorem Represents.foldl_takeIn : ∀ {fs : List Path} {i : Index} {copies : Path → Option Copy},
    i.Represents copies → (∀ f ∈ fs, f.Resolved) →
    (fs.foldl (Index.takeIn tree) i).Represents (takenFrom tree fs copies)
  | [], i, copies, h, _ => by
    rw [takenFrom_nil]
    exact h
  | f :: fs, i, copies, h, hf => by
    rw [takenFrom_cons, List.foldl_cons]
    exact (h.takeIn (hf f List.mem_cons_self)).foldl_takeIn fun g hg => hf g (List.mem_cons_of_mem _ hg)

theorem Represents.foldl_dropFile : ∀ {fs : List Path} {i : Index} {copies : Path → Option Copy},
    i.Represents copies → (fs.foldl Index.dropFile i).Represents (without fs copies)
  | [], i, copies, h => by
    have : without [] copies = copies := funext fun g => if_neg (by simp)
    rw [this]
    exact h
  | f :: fs, i, copies, h => by
    have : without (f :: fs) copies = without fs (Function.update copies f none) := by
      funext g
      unfold without
      by_cases hg : g = f
      · subst hg; simp
      · simp [hg]
    rw [this, List.foldl_cons]
    exact (h.dropFile f).foldl_dropFile

/-- The files that a run comes to, after `done` others, before it is stopped. -/
def reached (stopAfter : Option Int) (done : Nat) (files : List Path) : List Path :=
  match stopAfter with
  | none => files
  | some n => files.take (max 1 (n - done).toNat)

theorem reached_subset {stopAfter : Option Int} {done : Nat} {files : List Path} {f : Path}
    (h : f ∈ reached stopAfter done files) : f ∈ files := by
  unfold reached at h
  split at h
  · exact h
  · exact List.mem_of_mem_take h

theorem reached_cons (stopAfter : Option Int) (done : Nat) (f : Path) (fs : List Path) :
    reached stopAfter done (f :: fs) =
      if stopAfter.any (fun n => decide (n ≤ (done : Int) + 1)) then [f]
      else f :: reached stopAfter (done + 1) fs := by
  cases stopAfter with
  | none => rfl
  | some n =>
    simp only [reached, Option.any_some, decide_eq_true_eq]
    split
    · rw [show max 1 (n - done).toNat = 1 by omega, List.take_succ_cons, List.take_zero]
    · rw [show max 1 (n - done).toNat = max 1 (n - (done + 1 : Nat)).toNat + 1 by omega,
        List.take_succ_cons]

/-- A run takes in the files it comes to, one after the other. -/
theorem indexFiles_fst (stopAfter : Option Int) (total : Nat) : ∀ (fs : List Path) (done : Nat)
    (i : Index) (s : Stats), (indexFiles tree stopAfter total done i s fs).1 =
      (reached stopAfter done fs).foldl (Index.takeIn tree) i
  | [], done, i, s => by
    have : reached stopAfter done [] = [] := by unfold reached; split <;> simp
    rw [this]
    rfl
  | f :: fs, done, i, s => by
    rw [reached_cons, indexFiles]
    simp only
    split
    · simp [indexFile_fst]
    · rw [List.foldl_cons, ← indexFile_fst tree i s f]
      exact indexFiles_fst stopAfter total fs (done + 1) _ _

/-- A run that is not stopped comes to all its files and counts each of them once. -/
theorem indexFiles_of_not_cancelled (stopAfter : Option Int) (total : Nat) :
    ∀ (fs : List Path) (done : Nat) (i : Index) (s : Stats),
      (indexFiles tree stopAfter total done i s fs).2.1.cancelled = false →
      reached stopAfter done fs = fs ∧
      (indexFiles tree stopAfter total done i s fs).2.1.files +
        (indexFiles tree stopAfter total done i s fs).2.1.errors.length =
          s.files + s.errors.length + fs.length ∧
      (indexFiles tree stopAfter total done i s fs).2.1.unchanged = s.unchanged ∧
      (indexFiles tree stopAfter total done i s fs).2.1.removed = s.removed
  | [], done, i, s, _ => by
    have : reached stopAfter done [] = [] := by unfold reached; split <;> simp
    exact ⟨this, rfl, rfl, rfl⟩
  | f :: fs, done, i, s, h => by
    obtain ⟨hcount, -, hunchanged, hremoved, -⟩ := indexFile_snd tree i s f
    rw [reached_cons]
    rw [indexFiles] at h ⊢
    simp only at h ⊢
    split at h
    · -- a run that stops is cancelled
      cases h
    · rename_i hstop
      obtain ⟨hall, hc, hu, hr⟩ := indexFiles_of_not_cancelled stopAfter total fs (done + 1) _ _ h
      rw [if_neg hstop, if_neg hstop, hall]
      refine ⟨rfl, ?_, hu.trans hunchanged, hr.trans hremoved⟩
      rw [hc, hcount, List.length_cons]
      omega

/-! ## Runs -/

theorem nodup_discover (h : tree.WF) (config : Config) (directory : Path) :
    (discover config tree directory).1.Nodup :=
  ((FileTree.nodup_filesBelow h directory).filter _).filter _

theorem resolved_of_mem_discover (h : tree.WF) {config : Config} {directory f : Path}
    (hd : directory.Resolved) (hf : f ∈ (discover config tree directory).1) : f.Resolved :=
  FileTree.resolved_of_mem_filesBelow h hd (List.mem_filter.1 (List.mem_filter.1 hf).1).1

theorem resolved_of_mem_discover_settled (h : tree.WF) {config : Config} {directory f : Path}
    (hd : tree.Settled directory) (hf : f ∈ (discover config tree directory).1) : f.Resolved :=
  h.resolved f (FileTree.mem_keys_of_mem_filesBelow hd (List.mem_filter.1 (List.mem_filter.1 hf).1).1)

/-- Building takes in the files it comes to, starting from nothing. -/
theorem build_fst (i : Index) (tree : FileTree) (directory : Path) (stopAfter : Option Int) :
    (i.build tree (some directory) stopAfter).1 =
      ((reached stopAfter 0 (discover i.config tree directory).1).foldl (Index.takeIn tree)
        { i.clear with root := directory }).changed := by
  unfold build
  simp only [Option.getD_some]
  rw [indexFiles_fst]

theorem stays_build (i : Index) (tree : FileTree) (directory : Path) (stopAfter : Option Int) :
    ({ i with root := directory } : Index).Stays (i.build tree (some directory) stopAfter).1 := by
  rw [build_fst]
  have h := stays_foldl (stays_takeIn tree)
    (reached stopAfter 0 (discover i.config tree directory).1) { i.clear with root := directory }
  exact ⟨h.root, h.config⟩

theorem graph_build (i : Index) (tree : FileTree) (directory : Path) (stopAfter : Option Int) :
    (i.build tree (some directory) stopAfter).1.graph = none := by
  rw [build_fst]
  rfl

theorem Represents.build (i : Index) (h : tree.WF) {directory : Path} (hd : directory.Resolved)
    (stopAfter : Option Int) : (i.build tree (some directory) stopAfter).1.Represents
      (takenFrom tree (reached stopAfter 0 (discover i.config tree directory).1)
        fun _ => none) := by
  rw [build_fst]
  exact ((Represents.clear i _).foldl_takeIn fun f hf =>
    resolved_of_mem_discover h hd (reached_subset hf)).changed

/-- The files that have a record and are no longer discovered. -/
def gone (i : Index) (tree : FileTree) : List Path :=
  i.hashes.keys.filter fun f => !(discover i.config tree i.root).1.contains f

/-- The files that are dropped for those that are gone: those that their paths lead to now. -/
def dropped (i : Index) (tree : FileTree) : List Path := (i.gone tree).map tree.place

/-- The discovered files whose digest is not the recorded one. -/
def fresh (i : Index) (tree : FileTree) : List Path :=
  (discover i.config tree i.root).1.filter fun f =>
    ((i.dropped tree).foldl dropFile i).hashes.get? f != some (fileHash tree f)

/-- Refreshing drops the files that the paths that are gone lead to, and takes in those that are new or have
changed. -/
theorem refresh_fst (i : Index) (tree : FileTree) (stopAfter : Option Int) :
    (i.refresh tree stopAfter).1 =
      ((reached stopAfter 0 (i.fresh tree)).foldl (Index.takeIn tree)
        ((i.dropped tree).foldl dropFile i)).changed := by
  unfold refresh
  simp only
  rw [indexFiles_fst]
  rfl

theorem stays_refresh (i : Index) (tree : FileTree) (stopAfter : Option Int) :
    i.Stays (i.refresh tree stopAfter).1 := by
  rw [refresh_fst]
  have hdrop := stays_foldl (fun i f => (⟨rfl, rfl⟩ : Stays i (i.dropFile f))) (i.dropped tree) i
  have htake := stays_foldl (stays_takeIn tree) (reached stopAfter 0 (i.fresh tree))
    ((i.dropped tree).foldl dropFile i)
  exact ⟨(hdrop.trans htake).root, (hdrop.trans htake).config⟩

theorem graph_refresh (i : Index) (tree : FileTree) (stopAfter : Option Int) :
    (i.refresh tree stopAfter).1.graph = none := by
  rw [refresh_fst]
  rfl

/-- The copies after a refresh. -/
def refreshedCopies (i : Index) (tree : FileTree) (stopAfter : Option Int)
    (copies : Path → Option Copy) : Path → Option Copy :=
  takenFrom tree (reached stopAfter 0 (i.fresh tree)) (without (i.dropped tree) copies)

theorem Represents.refresh (h : i.Represents copies) (hi : i.root.Resolved) (ht : tree.WF)
    (stopAfter : Option Int) :
    (i.refresh tree stopAfter).1.Represents (i.refreshedCopies tree stopAfter copies) := by
  rw [refresh_fst]
  exact (h.foldl_dropFile.foldl_takeIn fun f hf =>
    resolved_of_mem_discover ht hi (List.mem_filter.1 (reached_subset hf)).1).changed

/-! ## Updating and removing one file -/

/-- The copy that an update takes in, if it does. -/
def offered (tree : FileTree) (file : Path) : Option String → Option Copy
  | none => diskCopy tree file
  | some text => if text.toList.contains (Char.ofNat 0) then none else some ⟨text.toList, true⟩

/-- An update takes the offered copy in, or raises and leaves the index as it was. -/
theorem updateFile_cases (i : Index) (tree : FileTree) (file : Path) (content : Option String) :
    (∃ error, i.updateFile tree file content = (.error error, i) ∧ offered tree file content = none) ∨
    ∃ e c, i.updateFile tree file content = (.ok (Stats.count {} e), (i.take file e c).changed) ∧
      offered tree file content = some c ∧ Source.extract file c.text = .ok e := by
  unfold updateFile
  cases content with
  | none =>
    cases hx : extractFile tree file with
    | error error => exact Or.inl ⟨error, by simp, by simp [offered, diskCopy, hx, Except.toOption]⟩
    | ok found =>
      refine Or.inr ⟨found.1, ⟨found.2, false⟩, by simp; rfl, ?_, (extractFile_eq_ok.1 hx).2⟩
      simp [offered, diskCopy, hx, Except.toOption]
  | some text =>
    cases hx : Source.extract file text.toList with
    | error error =>
      refine Or.inl ⟨error, by simp [hx, Except.map], ?_⟩
      simp [offered, (Source.extract_eq_error hx).2]
    | ok e =>
      refine Or.inr ⟨e, ⟨text.toList, true⟩, ?_, ?_, hx⟩
      · simp [hx, Except.map, Index.take, Index.apply]
      · have := Source.extract_isOk_iff.1 ⟨e, hx⟩
        simp [offered, this]

theorem stays_updateFile (i : Index) (tree : FileTree) (file : Path) (content : Option String) :
    i.Stays (i.updateFile tree file content).2 := by
  rcases updateFile_cases i tree file content with ⟨error, h, -⟩ | ⟨e, c, h, -⟩
  · rw [h]; exact Stays.refl i
  · rw [h]; exact ⟨rfl, rfl⟩

theorem Represents.updateFile (h : i.Represents copies) (tree : FileTree) {file : Path}
    (hf : file.Resolved) (content : Option String) : (i.updateFile tree file content).2.Represents
      (Function.update copies file ((offered tree file content).or (copies file))) := by
  rcases updateFile_cases i tree file content with ⟨error, hu, ho⟩ | ⟨e, c, hu, ho, hx⟩
  · rw [hu, ho, Option.none_or, Function.update_eq_self]
    exact h
  · rw [hu, ho, Option.some_or]
    exact (h.take hf hx).changed

theorem stays_removeFile (i : Index) (file : Path) : i.Stays (i.removeFile file).2 := by
  unfold Index.removeFile
  simp only
  split <;> exact ⟨rfl, rfl⟩

theorem Represents.removeFile (h : i.Represents copies) (file : Path) :
    (i.removeFile file).2.Represents (Function.update copies file none) := by
  have hd := h.dropFile file
  unfold Index.removeFile
  simp only
  split
  · exact hd.changed
  · exact hd

end Index

end RtlAtlas
