/-
What the index is brought up to date by, as the writes it makes one after the other. Symbols are put
into the table one by one, and one of another file would stop that with the old symbols gone; files of
a run are taken in within reach of a handler that knows only files without symbols. Each procedure comes
to what the definitions give, because whatever can fail comes before the first write.
-/
import RtlAtlas.Proofs.Index.Run
import RtlAtlas.Proofs.Procedure
import RtlAtlas.Workspace

namespace RtlAtlas.Index

/-! ## The writes -/

/-- Puts symbols in place of those of a file. -/
def writeSymbols (file : Path) (symbols : List Symbol) : Procedure Index Nat := do
  let (added, table) := (← get).table.replaceFile file symbols
  modify fun i => { i with table := table }
  .reply added

/-- Puts what a file declares in place of what was known of it, and counts it. -/
def writeDeclared (file : Path) (e : Source.Extraction) (hash : String) (s : Stats) :
    Procedure Index Stats := do
  let added ← writeSymbols file (symbolsOf (← get).root file e)
  modify fun i => { i with modules := i.modules.insert file e.modules }
  modify fun i => { i with instances := i.instances.insert file e.instances }
  modify fun i => { i with hashes := i.hashes.insert file hash }
  return {
    s with
    files := s.files + 1
    symbols := s.symbols + added
    modules := s.modules + e.modules.length
    instances := s.instances + e.instances.length }

/-- Takes one file in from disk. -/
def writeFile (tree : FileTree) (s : Stats) (file : Path) : Procedure Index Stats := do
  let content ← .reply (readSource tree file)
  let e ← .reply (Source.extract file content)
  let s' ← writeDeclared file e (textHash content) s
  modify fun i => { i with contents := i.contents.erase file }
  return s'

/-- Takes one file in from disk, or reports that it gives no symbols. Any other error goes on. -/
def writeOrReport (tree : FileTree) (s : Stats) (file : Path) : Procedure Index Stats := do
  match ← (writeFile tree s file).attempt with
  | .ok s' => return s'
  | .error (.source f fault) => return { s with errors := s.errors ++ [.source f fault] }
  | .error e => throw e

/-- Takes the remaining files in from disk, until the number given by `stopAfter` is reached. -/
def writeFiles (tree : FileTree) (stopAfter : Option Int) (total : Nat) :
    Nat → Stats → List Path → Procedure Index (Stats × List Progress)
  | _, s, [] => return (s, [])
  | done, s, f :: fs => do
    let s' ← writeOrReport tree s f
    if stopAfter.any fun n => decide (n ≤ (done : Int) + 1) then
      return ({ s' with cancelled := true }, [⟨f, done + 1, total⟩])
    let (s'', reports) ← writeFiles tree stopAfter total (done + 1) s' fs
    return (s'', ⟨f, done + 1, total⟩ :: reports)

/-- Drops all that is known of a file. -/
def writeDropped (file : Path) : Procedure Index Unit := do
  modify fun i => { i with table := i.table.removeFile file }
  modify fun i => { i with modules := i.modules.erase file }
  modify fun i => { i with instances := i.instances.erase file }
  modify fun i => { i with hashes := i.hashes.erase file }
  modify fun i => { i with contents := i.contents.erase file }

def writeBuild (tree : FileTree) (directory : Option Path) (stopAfter : Option Int) :
    Procedure Index (Stats × List Progress) := do
  let root ← .reply (tree.resolve (directory.getD (← get).config.root))
  modify fun i => { i with root := root }
  modify Index.clear
  .reply (tree.survey root)
  let (files, skipped) := discover (← get).config tree root
  let counted ← writeFiles tree stopAfter files.length 0 { skipped := skipped } files
  modify Index.changed
  return counted

def writeRefresh (tree : FileTree) (stopAfter : Option Int) : Procedure Index (Stats × List Progress) := do
  .reply (tree.survey (← get).root)
  let (files, skipped) := discover (← get).config tree (← get).root
  let gone := (← get).hashes.keys.filter fun f => !files.contains f
  gone.forM fun file => writeDropped (tree.place file)
  let recorded := (← get).hashes
  let fresh := files.filter fun f => recorded.get? f != some (fileHash tree f)
  let s : Stats := { skipped := skipped, removed := gone.length, unchanged := files.length - fresh.length }
  let counted ← writeFiles tree stopAfter fresh.length 0 s fresh
  modify Index.changed
  return counted

def writeUpdate (tree : FileTree) (file : Path) (content : Option String) : Procedure Index Stats := do
  let place ← .reply (tree.resolve file)
  let text ← match content with
    | none => .reply (readSource tree place)
    | some given => pure given.toList
  let e ← .reply (Source.extract place text)
  let s ← writeDeclared place e (textHash text) {}
  match content with
  | none => modify fun i => { i with contents := i.contents.erase place }
  | some given => modify fun i => { i with contents := i.contents.insert place given }
  modify Index.changed
  return s

def writeRemoval (tree : FileTree) (file : Path) : Procedure Index Bool := do
  let place ← .reply (tree.resolve file)
  let known := (← get).knows place
  writeDropped place
  if known then
    modify Index.changed
  return known

def writeAdded (s : Symbol) : Procedure Index Unit :=
  modify fun i => { i with table := i.table.add s }

def writeLoaded (tree : FileTree) (database : Path) : Procedure Index Unit := do
  let s ← .reply (tree.loadSnapshot database).1
  modify Index.clear
  s.symbols.forM writeAdded
  modify fun i => { i with root := s.root }
  modify fun i => { i with modules := groupByFile (·.file) s.modules }
  modify fun i => { i with instances := groupByFile (·.file) s.instances }
  modify fun i => { i with hashes := .ofList (s.files.map fun r => (r.path, r.hash)) }
  modify fun i => { i with graph := s.graph }
  modify fun i => { i with searchable := true }

/-! ## What they come to -/

variable {i : Index} {tree : FileTree}

open Procedure

/-- Symbols made for a file are never refused. -/
theorem writeSymbols_on (i : Index) (file : Path) (e : Source.Extraction) :
    (writeSymbols file (symbolsOf i.root file e)).on i = (.ok e.symbols.length,
      { i with table := (i.table.replaceFile file (symbolsOf i.root file e)).2 }) := by
  have hadded : (i.table.replaceFile file (symbolsOf i.root file e)).1 = .ok e.symbols.length := by
    rw [Table.replaceFile_eq i.table file_of_mem_symbolsOf, symbolsOf, List.length_map]
  unfold writeSymbols
  rw [on_get_bind]
  show (modify _ >>= fun _ => reply (i.table.replaceFile file (symbolsOf i.root file e)).1).on i = _
  rw [on_modify_bind, on_reply, hadded]
  rfl

theorem writeDeclared_on (i : Index) (file : Path) (e : Source.Extraction) (hash : String) (s : Stats) :
    (writeDeclared file e hash s).on i = (.ok (s.count e), i.apply file e hash) := by
  unfold writeDeclared
  rw [on_get_bind, on_bind_of_ok (writeSymbols_on i file e)]
  rfl

theorem readSource_error {file : Path} {e : Error} (h : readSource tree file = .error e) :
    e = .source file .unreadable := by
  unfold readSource at h
  split at h
  · cases h
  · exact (Except.error.inj h).symm

/-- A file that gives no symbols is told of as such. -/
theorem extractFile_error {file : Path} {e : Error} (h : extractFile tree file = .error e) :
    ∃ fault, e = .source file fault := by
  unfold extractFile at h
  cases hread : readSource tree file with
  | error e' =>
    rw [hread] at h
    cases h
    exact ⟨_, readSource_error hread⟩
  | ok content =>
    rw [hread] at h
    cases hextract : Source.extract file content with
    | error e' =>
      simp only [bind, Except.bind, hextract] at h
      cases h
      exact ⟨_, (Source.extract_eq_error hextract).1⟩
    | ok found =>
      simp only [bind, Except.bind, hextract] at h
      cases h

/-- Taking a file in fails before anything is written, or writes everything. -/
theorem writeFile_on (tree : FileTree) (s : Stats) (file : Path) (i : Index) :
    (writeFile tree s file).on i = match extractFile tree file with
      | .ok (e, content) => (.ok (s.count e), { i.apply file e (textHash content) with
          contents := (i.apply file e (textHash content)).contents.erase file })
      | .error e => (.error e, i) := by
  unfold writeFile extractFile
  cases hread : readSource tree file with
  | error e => rfl
  | ok content =>
    rw [on_bind_of_ok (on_reply _ i)]
    cases hextract : Source.extract file content with
    | error e => simp only [bind, Except.bind, hextract]; rfl
    | ok e =>
      rw [on_bind_of_ok (on_reply _ i), on_bind_of_ok (writeDeclared_on i file e _ s)]
      simp only [bind, Except.bind, hextract]
      rfl

theorem writeOrReport_on (tree : FileTree) (s : Stats) (file : Path) (i : Index) :
    (writeOrReport tree s file).on i = (.ok (indexFile tree i s file).2, (indexFile tree i s file).1) := by
  unfold writeOrReport indexFile
  rw [on_bind_of_ok (on_attempt _ i), writeFile_on]
  cases hx : extractFile tree file with
  | ok found => rfl
  | error e =>
    obtain ⟨fault, rfl⟩ := extractFile_error hx
    rfl

theorem writeFiles_on (tree : FileTree) (stopAfter : Option Int) (total : Nat) :
    ∀ (fs : List Path) (done : Nat) (s : Stats) (i : Index),
      (writeFiles tree stopAfter total done s fs).on i =
        (.ok (indexFiles tree stopAfter total done i s fs).2,
          (indexFiles tree stopAfter total done i s fs).1)
  | [], _, _, _ => rfl
  | f :: fs, done, s, i => by
    rw [writeFiles, indexFiles, on_bind_of_ok (writeOrReport_on tree s f i)]
    simp only
    split
    · rfl
    · rw [on_bind_of_ok (writeFiles_on tree stopAfter total fs _ _ _)]
      rfl

/-! ## The operations of a workspace -/

/-- An update fails before anything is written, or writes everything. -/
theorem writeUpdate_on (w : Workspace) (file : Path) (content : Option String) :
    (writeUpdate w.tree file content).on w.index =
      ((w.updateFile file content).1, (w.updateFile file content).2.index) := by
  unfold writeUpdate Workspace.updateFile
  cases hplace : w.tree.resolve file with
  | error e => rfl
  | ok place =>
    rw [on_bind_of_ok (on_reply _ _)]
    unfold Index.updateFile extractFile
    simp only
    -- A file on disk can fail to be read before it fails to be understood; a given text cannot.
    cases content with
    | none =>
      cases hread : readSource w.tree place with
      | error e => rfl
      | ok text =>
        rw [on_bind_of_ok (on_reply _ _)]
        cases hextract : Source.extract place text with
        | error e => simp only [bind, Except.bind, hextract]; rfl
        | ok e =>
          rw [on_bind_of_ok (on_reply _ _), on_bind_of_ok (writeDeclared_on _ _ e _ {})]
          simp only [bind, Except.bind, hextract]
          rfl
    | some given =>
      rw [on_bind_of_ok (on_pure _ _)]
      cases hextract : Source.extract place given.toList with
      | error e => simp only [hextract]; rfl
      | ok e =>
        rw [on_bind_of_ok (on_reply _ _), on_bind_of_ok (writeDeclared_on _ _ e _ {})]
        simp only [hextract]
        rfl

theorem writeRemoval_on (w : Workspace) (file : Path) : (writeRemoval w.tree file).on w.index =
    ((w.removeFile file).1, (w.removeFile file).2.index) := by
  unfold writeRemoval Workspace.removeFile
  cases hplace : w.tree.resolve file with
  | error e => rfl
  | ok place =>
    rw [on_bind_of_ok (on_reply _ _), on_get_bind]
    unfold Index.removeFile
    simp only
    cases w.index.knows place <;> rfl

/-- A build fails only for a directory that cannot be looked at, whatever the files hold. -/
theorem writeBuild_on (w : Workspace) (directory : Option Path) (stopAfter : Option Int) :
    (writeBuild w.tree directory stopAfter).on w.index =
      ((w.build directory stopAfter).1, (w.build directory stopAfter).2.index) := by
  unfold writeBuild Workspace.build
  rw [on_get_bind]
  cases hplace : w.tree.resolve (directory.getD w.index.config.root) with
  | error e => rfl
  | ok root =>
    rw [on_bind_of_ok (on_reply _ _), on_modify_bind, on_modify_bind]
    cases hsurvey : w.tree.survey root with
    | error e => simp only [hsurvey]; rfl
    | ok found =>
      rw [on_bind_of_ok (on_reply _ _), on_get_bind, on_bind_of_ok (writeFiles_on _ _ _ _ _ _ _)]
      simp only [hsurvey]
      rfl

theorem writeRefresh_on (w : Workspace) (stopAfter : Option Int) :
    (writeRefresh w.tree stopAfter).on w.index =
      ((w.refresh stopAfter).1, (w.refresh stopAfter).2.index) := by
  unfold writeRefresh Workspace.refresh
  rw [on_get_bind]
  cases hsurvey : w.tree.survey w.index.root with
  | error e => rfl
  | ok found =>
    have hdrop : ∀ fs : List Path, (fs.forM fun file => writeDropped (w.tree.place file)).on w.index =
        (.ok (), (fs.map w.tree.place).foldl dropFile w.index) := fun fs => by
      rw [List.foldl_map]
      exact on_forM (P := fun _ => True) (fun _ _ _ => ⟨rfl, trivial⟩) fs trivial
    rw [on_bind_of_ok (on_reply _ _), on_get_bind, on_get_bind, on_get_bind, on_bind_of_ok (hdrop _),
      on_get_bind, on_bind_of_ok (writeFiles_on _ _ _ _ _ _ _)]
    rfl

theorem forM_writeAdded_on : ∀ (ss : List Symbol) (i : Index),
    (ss.forM writeAdded).on i = (.ok (), { i with table := ss.foldl Table.add i.table })
  | [], _ => rfl
  | s :: ss, i => by
    show (writeAdded s >>= fun _ => ss.forM writeAdded).on i = _
    exact forM_writeAdded_on ss { i with table := i.table.add s }

theorem writeLoaded_on (w : Workspace) (database : Path) : (writeLoaded w.tree database).on w.index =
    ((w.load database).1, (w.load database).2.index) := by
  unfold writeLoaded Workspace.load
  rcases hload : w.tree.loadSnapshot database with ⟨e | s, tree⟩
  · rfl
  · rw [on_bind_of_ok (on_reply _ _), on_modify_bind, on_bind_of_ok (forM_writeAdded_on _ _)]
    rfl

end RtlAtlas.Index
