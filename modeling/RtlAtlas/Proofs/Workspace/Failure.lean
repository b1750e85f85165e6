/-
What a failure leaves behind. A call that raises has written nothing yet, so the index is the one it was
before; only a build of a directory that cannot be looked at, or holds what cannot be, leaves it empty.
What files hold makes no build or refresh raise: each file that gives no symbols is reported once, and the
run comes to the index it would have come to without that file.
-/
import RtlAtlas.Proofs.Index.Refresh
import RtlAtlas.Proofs.Index.Writes
import RtlAtlas.Proofs.Workspace.Reach
import RtlAtlas.Proofs.Workspace.Coherence

namespace RtlAtlas

open OrderedMap

namespace Index

variable {i j : Index} {copies copies' : Path → Option Copy} {tree : FileTree}

/-! ## Runs over files that give no symbols -/

/-- Why a file on disk gives no symbols, if it gives none. -/
def refusal? (tree : FileTree) (file : Path) : Option Error :=
  match extractFile tree file with
  | .ok _ => none
  | .error e => some e

/-- The files, out of some, that give symbols. -/
def accepted (tree : FileTree) (files : List Path) : List Path :=
  files.filter fun f => (refusal? tree f).isNone

theorem takeIn_of_refused {file : Path} (h : (refusal? tree file).isNone = false) (i : Index) :
    i.takeIn tree file = i := by
  unfold refusal? at h
  unfold takeIn
  cases hx : extractFile tree file with
  | ok found => rw [hx] at h; cases h
  | error e => rfl

/-- Files that give no symbols change nothing. -/
theorem foldl_takeIn_accepted (tree : FileTree) : ∀ (fs : List Path) (i : Index),
    fs.foldl (takeIn tree) i = (accepted tree fs).foldl (takeIn tree) i
  | [], _ => rfl
  | f :: fs, i => by
    have hrest := foldl_takeIn_accepted tree fs
    rw [accepted, List.filter_cons, List.foldl_cons]
    cases hf : (refusal? tree f).isNone with
    | true => exact hrest _
    | false =>
      rw [takeIn_of_refused hf]
      exact hrest i

theorem indexFile_counts (tree : FileTree) (i : Index) (s : Stats) (file : Path) :
    (indexFile tree i s file).2.errors = s.errors ++ (refusal? tree file).toList ∧
    (indexFile tree i s file).2.files = s.files + (accepted tree [file]).length := by
  unfold indexFile accepted refusal?
  cases hx : extractFile tree file with
  | ok found => exact ⟨(List.append_nil _).symm, by simp [hx, Stats.count]⟩
  | error e => exact ⟨rfl, by simp [hx]⟩

/-- A run tells of every file it comes to, and reports each that gives no symbols once. -/
theorem indexFiles_counts (tree : FileTree) (stopAfter : Option Int) (total : Nat) :
    ∀ (fs : List Path) (done : Nat) (i : Index) (s : Stats),
    (indexFiles tree stopAfter total done i s fs).2.1.errors =
      s.errors ++ (reached stopAfter done fs).filterMap (refusal? tree) ∧
    (indexFiles tree stopAfter total done i s fs).2.1.files =
      s.files + (accepted tree (reached stopAfter done fs)).length ∧
    (indexFiles tree stopAfter total done i s fs).2.2 =
      ((reached stopAfter done fs).zipIdx (done + 1)).map fun (f, n) => ⟨f, n, total⟩
  | [], done, i, s => by
    have hnone : reached stopAfter done [] = [] := by unfold reached; split <;> simp
    rw [hnone]
    exact ⟨(List.append_nil _).symm, rfl, rfl⟩
  | f :: fs, done, i, s => by
    obtain ⟨herrors, hfiles⟩ := indexFile_counts tree i s f
    have hsplit : ∀ gs, (accepted tree (f :: gs)).length =
        (accepted tree [f]).length + (accepted tree gs).length := fun gs => by
      rw [← List.length_append, accepted, accepted, accepted, ← List.filter_append]
      rfl
    rw [reached_cons, indexFiles]
    simp only
    split
    · -- the run stops here, so this file is the last one reached
      refine ⟨herrors.trans ?_, hfiles, rfl⟩
      rw [List.filterMap_cons, List.filterMap_nil]
      cases refusal? tree f <;> rfl
    · -- it goes on with what this file left
      obtain ⟨he, hf, hr⟩ := indexFiles_counts tree stopAfter total fs (done + 1)
        (indexFile tree i s f).1 (indexFile tree i s f).2
      refine ⟨?_, hf.trans ?_, ?_⟩
      · rw [he, herrors, List.append_assoc, List.filterMap_cons]
        cases refusal? tree f <;> rfl
      · rw [hfiles, Nat.add_assoc, ← hsplit]
      · rw [List.zipIdx_cons, List.map_cons, hr]

/-! ## What is known of one file -/

/-- What an index knows of a file. -/
structure Knowledge where
  symbols : List Symbol
  modules : List ModuleDef
  instances : List Instance
  hash : Option String
  content : Option String

def about (i : Index) (file : Path) : Knowledge where
  symbols := i.table.inFile file
  modules := (i.modules.get? file).getD []
  instances := (i.instances.get? file).getD []
  hash := i.hashes.get? file
  content := i.contents.get? file

/-- Indexes with one root know the same of a file that they hold one copy of. -/
theorem Represents.about_eq (hi : i.Represents copies) (hj : j.Represents copies')
    (hr : i.root = j.root) {file : Path} (hc : copies file = copies' file) : i.about file = j.about file := by
  have ht : textsOf copies file = textsOf copies' file := by unfold textsOf; rw [hc]
  unfold about
  rw [hi.inFile_congr hj hr ht, hi.modules, hj.modules, hi.instances, hj.instances, hi.hashes, hj.hashes,
    hi.contents, hj.contents, hc]

/-- What a run over files comes to, of which `came` are those it comes to before it is stopped. -/
structure PassesOver (tree : FileTree) (start : Index) (files came : List Path) (s : Stats)
    (reports : List Progress) (i : Index) : Prop where
  nodup : files.Nodup
  first : came <+: files
  /-- Files that give no symbols might as well not be there. -/
  index : i = ((accepted tree came).foldl (takeIn tree) start).changed
  errors : s.errors = came.filterMap (refusal? tree)
  taken : s.files = (accepted tree came).length
  /-- Every file is told of, also those behind one that gives no symbols. -/
  told : reports = (came.zipIdx 1).map fun (f, n) => ⟨f, n, files.length⟩
  whole : s.cancelled = false → came = files
  /-- A file keeps what is known of it, unless it is come to and gives symbols. -/
  kept : ∀ f, f ∉ accepted tree came → i.about f = start.about f

theorem reached_prefix (stopAfter : Option Int) (files : List Path) :
    reached stopAfter 0 files <+: files := by
  unfold reached
  split
  · exact List.prefix_rfl
  · exact List.take_prefix _ _

theorem passesOver_indexFiles {start : Index} (h : start.Represents copies) {files : List Path}
    (hnodup : files.Nodup) (hfiles : ∀ f ∈ files, f.Resolved) (stopAfter : Option Int) {s : Stats}
    (hs : s.files = 0) (he : s.errors = []) : PassesOver tree start files (reached stopAfter 0 files)
      (indexFiles tree stopAfter files.length 0 start s files).2.1
      (indexFiles tree stopAfter files.length 0 start s files).2.2
      (indexFiles tree stopAfter files.length 0 start s files).1.changed := by
  obtain ⟨herrors, htaken, htold⟩ := indexFiles_counts tree stopAfter files.length files 0 start s
  have hindex : (indexFiles tree stopAfter files.length 0 start s files).1 =
      (accepted tree (reached stopAfter 0 files)).foldl (takeIn tree) start := by
    rw [indexFiles_fst, foldl_takeIn_accepted]
  refine ⟨hnodup, reached_prefix stopAfter files, by rw [hindex], by rw [herrors, he, List.nil_append],
    by rw [htaken, hs, Nat.zero_add], htold,
    fun hc => (indexFiles_of_not_cancelled stopAfter _ files 0 start s hc).1, fun f hf => ?_⟩
  have hcame : ∀ f ∈ accepted tree (reached stopAfter 0 files), f.Resolved := fun f hf =>
    hfiles f (reached_subset (List.mem_of_mem_filter hf))
  rw [hindex]
  refine (h.foldl_takeIn hcame).changed.about_eq h ?_ (if_neg hf)
  exact (stays_foldl (stays_takeIn tree) _ start).root

theorem Represents.passesOver_build (i : Index) (ht : tree.WF) {root : Path}
    (hroot : tree.Settled root) (stopAfter : Option Int) :
    PassesOver tree { i.clear with root := root } (discover i.config tree root).1
      (reached stopAfter 0 (discover i.config tree root).1) (i.build tree (some root) stopAfter).2.1
      (i.build tree (some root) stopAfter).2.2 (i.build tree (some root) stopAfter).1 := by
  exact passesOver_indexFiles (Represents.clear i root) (nodup_discover ht i.config root)
    (fun f hf => resolved_of_mem_discover_settled ht hroot hf) stopAfter rfl rfl

theorem Represents.passesOver_refresh (h : i.Represents copies) (hi : i.root.Resolved) (ht : tree.WF)
    (stopAfter : Option Int) :
    PassesOver tree ((i.dropped tree).foldl Index.dropFile i) (i.fresh tree)
      (reached stopAfter 0 (i.fresh tree)) (i.refresh tree stopAfter).2.1
      (i.refresh tree stopAfter).2.2 (i.refresh tree stopAfter).1 :=
  passesOver_indexFiles h.foldl_dropFile ((nodup_discover ht i.config i.root).filter _)
    (fun _ hf => resolved_of_mem_discover ht hi (fresh_subset hf)) stopAfter rfl rfl

/-- Dropping files leaves alone what is known of the others. -/
theorem Represents.about_of_notMem_dropped (h : i.Represents copies) {f : Path}
    (hf : f ∉ i.dropped tree) : ((i.dropped tree).foldl Index.dropFile i).about f = i.about f := by
  refine h.foldl_dropFile.about_eq h ?_ (if_neg hf)
  exact (stays_foldl (fun i f => (⟨rfl, rfl⟩ : Stays i (i.dropFile f))) (i.dropped tree) i).root

/-- An update refuses nothing but the file. -/
theorem updateFile_error {file : Path} {content : Option String} {e : Error}
    (h : (i.updateFile tree file content).1 = .error e) : ∃ fault, e = .source file fault := by
  unfold updateFile at h
  cases content with
  | none =>
    cases hx : extractFile tree file with
    | ok found => simp only [hx] at h; cases h
    | error e' =>
      simp only [hx] at h
      cases h
      exact extractFile_error hx
  | some text =>
    cases hx : Source.extract file text.toList with
    | ok found => simp only [hx, Except.map] at h; cases h
    | error e' =>
      simp only [hx, Except.map] at h
      cases h
      exact ⟨_, (Source.extract_eq_error hx).1⟩

end Index

namespace Workspace

variable {w : Workspace}

/-! ## Calls -/

/-- A call on an index that may raise. -/
inductive Call where
  | update (file : Path) (content : Option String)
  | remove (file : Path)
  | build (directory : Option Path) (stopAfter : Option Int)
  | refresh (stopAfter : Option Int)
  | load (database : Path)
  | search (here : Option Path) (query : String) (mode : Option String)

/-- Whether a call raises, and the index that it leaves. -/
def Call.run (w : Workspace) : Call → Except Error Unit × Index
  | .update file content => ((w.updateFile file content).1.map fun _ => (), (w.updateFile file content).2.index)
  | .remove file => ((w.removeFile file).1.map fun _ => (), (w.removeFile file).2.index)
  | .build directory stopAfter =>
    ((w.build directory stopAfter).1.map fun _ => (), (w.build directory stopAfter).2.index)
  | .refresh stopAfter => ((w.refresh stopAfter).1.map fun _ => (), (w.refresh stopAfter).2.index)
  | .load database => ((w.load database).1, (w.load database).2.index)
  | .search here query mode => ((w.index.search w.tree here query mode).map fun _ => (), w.index)

/-- A call as the writes it makes one after the other; a search makes none. -/
def Call.writes (tree : FileTree) : Call → Procedure Index Unit
  | .update file content => discard (Index.writeUpdate tree file content)
  | .remove file => discard (Index.writeRemoval tree file)
  | .build directory stopAfter => discard (Index.writeBuild tree directory stopAfter)
  | .refresh stopAfter => discard (Index.writeRefresh tree stopAfter)
  | .load database => Index.writeLoaded tree database
  | .search here query mode => do discard (.reply ((← get).search tree here query mode))

theorem discard_on {σ α : Type} {p : Procedure σ α} {s s' : σ} {x : Except Error α} (h : p.on s = (x, s')) :
    (discard p : Procedure σ Unit).on s = (x.map fun _ => (), s') := by
  show (p >>= fun _ => pure ()).on s = _
  rw [Procedure.on_bind, h]
  cases x <;> rfl

theorem Call.writes_on (w : Workspace) (c : Call) : (c.writes w.tree).on w.index = c.run w := by
  cases c with
  | update file content => exact discard_on (Index.writeUpdate_on w file content)
  | remove file => exact discard_on (Index.writeRemoval_on w file)
  | build directory stopAfter => exact discard_on (Index.writeBuild_on w directory stopAfter)
  | refresh stopAfter => exact discard_on (Index.writeRefresh_on w stopAfter)
  | load database => exact Index.writeLoaded_on w database
  | search here query mode => exact discard_on (Procedure.on_reply _ _)

/-- A call that raises leaves the index as it was; only a build that cannot look at its directory, or at
what is below, has emptied it. -/
theorem Call.run_error (w : Workspace) (c : Call) {e : Error} (h : (c.run w).1 = .error e) :
    (c.run w).2 = w.index ∨ ∃ directory stopAfter root, c = .build directory stopAfter ∧
      w.tree.resolve (directory.getD w.index.config.root) = .ok root ∧
      w.tree.survey root = .error e ∧ (c.run w).2 = { w.index.clear with root := root } := by
  cases c with
  | update file content =>
    refine .inl ?_
    change (w.updateFile file content).1.map _ = _ at h
    show (w.updateFile file content).2.index = w.index
    unfold Workspace.updateFile at h ⊢
    split
    · -- a path with NUL means no file
      rfl
    · rename_i place hplace
      -- the text is refused before anything is written, or the update gives an answer
      rcases Index.updateFile_cases w.index w.tree place content with ⟨e', hu, -⟩ | ⟨x, c, hu, -⟩
      · rw [hu]
      · rw [hplace] at h
        simp only [hu] at h
        cases h
  | remove file =>
    refine .inl ?_
    change (w.removeFile file).1.map _ = _ at h
    show (w.removeFile file).2.index = w.index
    unfold Workspace.removeFile at h ⊢
    split
    · rfl
    · -- nothing but the path can be refused
      rename_i place hplace
      rw [hplace] at h
      cases h
  | build directory stopAfter =>
    change (w.build directory stopAfter).1.map _ = _ at h
    rcases build_cases w directory stopAfter with ⟨e', hb⟩ | ⟨root, hroot, ⟨e', hsurvey, hb⟩ | ⟨-, hb⟩⟩
    · refine .inl ?_
      show (w.build directory stopAfter).2.index = w.index
      rw [hb]
    · -- the index is emptied before the directory is looked at
      rw [hb] at h
      cases h
      refine .inr ⟨directory, stopAfter, root, rfl, hroot, hsurvey, ?_⟩
      show (w.build directory stopAfter).2.index = _
      rw [hb]
    · rw [hb] at h
      cases h
  | refresh stopAfter =>
    refine .inl ?_
    change (w.refresh stopAfter).1.map _ = _ at h
    show (w.refresh stopAfter).2.index = w.index
    rcases refresh_cases w stopAfter with ⟨e', -, hr⟩ | ⟨-, hr⟩
    · rw [hr]
    · rw [hr] at h
      cases h
  | load database =>
    refine .inl ?_
    change (w.load database).1 = _ at h
    show (w.load database).2.index = w.index
    unfold Workspace.load at h ⊢
    -- the index is replaced only after all rows were read
    split at h
    · cases h
    · rfl
  | search here query mode => exact .inl rfl

/-- Building and refreshing raise for a path, never for what a file holds. -/
theorem build_error {directory : Option Path} {stopAfter : Option Int} {e : Error}
    (h : (w.build directory stopAfter).1 = .error e) : e = .nullByte ∨ ∃ q, e = .path q .nameTooLong := by
  unfold Workspace.build at h
  split at h
  · rename_i e' hplace
    cases h
    exact .inl (FileTree.resolve_error hplace)
  · split at h
    · rename_i e' hsurvey
      cases h
      exact .inr (FileTree.survey_error hsurvey)
    · cases h

theorem refresh_error {stopAfter : Option Int} {e : Error} (h : (w.refresh stopAfter).1 = .error e) :
    ∃ q, e = .path q .nameTooLong := by
  rcases refresh_cases w stopAfter with ⟨e', hsurvey, hr⟩ | ⟨-, hr⟩
  · rw [hr] at h
    cases h
    exact FileTree.survey_error hsurvey
  · rw [hr] at h
    cases h

theorem updateFile_error {file : Path} {content : Option String} {e : Error}
    (h : (w.updateFile file content).1 = .error e) : e = .nullByte ∨ ∃ place fault, e = .source place fault := by
  unfold Workspace.updateFile at h
  split at h
  · rename_i e' hplace
    cases h
    exact .inl (FileTree.resolve_error hplace)
  · obtain ⟨fault, he⟩ := Index.updateFile_error h
    exact .inr ⟨_, fault, he⟩

theorem removeFile_error {file : Path} {e : Error} (h : (w.removeFile file).1 = .error e) :
    e = .nullByte := by
  unfold Workspace.removeFile at h
  split at h
  · rename_i e' hplace
    cases h
    exact FileTree.resolve_error hplace
  · cases h

theorem eq_error_of_map {α : Type} {x : Except Error α} {e : Error} (h : (x.map fun _ => ()) = .error e) :
    x = .error e := by
  cases x with
  | ok a => cases h
  | error e' => cases h; rfl

/-- No call that brings the index up to date finds a symbol of another file among those it adds. -/
theorem Call.run_ne_foreignSymbol (w : Workspace) {c : Call} {id : String} {file expected : Path}
    (h : (c.run w).1 = .error (.foreignSymbol id file expected)) :
    (∃ database, c = .load database) ∨ ∃ here query mode, c = .search here query mode := by
  cases c with
  | update file content => rcases updateFile_error (eq_error_of_map h) with he | ⟨_, _, he⟩ <;> cases he
  | remove file => cases removeFile_error (eq_error_of_map h)
  | build directory stopAfter => rcases build_error (eq_error_of_map h) with he | ⟨_, he⟩ <;> cases he
  | refresh stopAfter =>
    obtain ⟨_, he⟩ := refresh_error (eq_error_of_map h)
    cases he
  | load database => exact .inl ⟨database, rfl⟩
  | search here query mode => exact .inr ⟨here, query, mode, rfl⟩

/-- Whatever the files hold, a call that raises has written nothing, and leaves the index of any run as
it was; a build of a directory that cannot be looked at, or holds what cannot be, has emptied it. A build or
refresh raises for a path only. Else it tells of every file it comes to, reports each that gives no
symbols once, and comes to the index that it would have come to without these files; nothing else that
was known of a file is lost. Symbols are never taken for those of another file. -/
theorem failed_call_leaves_index (h : w.Reachable) (tree : FileTree) (ht : tree.WF) :
    let v : Workspace := ⟨tree, w.index⟩
    (∀ c : Call, (c.writes tree).on w.index = c.run v) ∧
    (∀ (c : Call) (e : Error), (c.run v).1 = .error e → (c.run v).2 = w.index ∨
      ∃ directory stopAfter root, c = .build directory stopAfter ∧
        tree.resolve (directory.getD w.index.config.root) = .ok root ∧ tree.survey root = .error e ∧
        (c.run v).2 = { w.index.clear with root := root }) ∧
    (∀ directory stopAfter e, (v.build directory stopAfter).1 = .error e →
      e = .nullByte ∨ ∃ q, e = .path q .nameTooLong) ∧
    (∀ stopAfter e, (v.refresh stopAfter).1 = .error e → ∃ q, e = .path q .nameTooLong) ∧
    (∀ directory stopAfter s reports, (v.build directory stopAfter).1 = .ok (s, reports) →
      ∃ root, tree.resolve (directory.getD w.index.config.root) = .ok root ∧
        Index.PassesOver tree { w.index.clear with root := root }
          (Index.discover w.index.config tree root).1
          (Index.reached stopAfter 0 (Index.discover w.index.config tree root).1) s reports
          (v.build directory stopAfter).2.index) ∧
    (∀ stopAfter s reports, (v.refresh stopAfter).1 = .ok (s, reports) →
      Index.PassesOver tree ((w.index.dropped tree).foldl Index.dropFile w.index) (w.index.fresh tree)
        (Index.reached stopAfter 0 (w.index.fresh tree)) s reports (v.refresh stopAfter).2.index ∧
      ∀ f, f ∉ w.index.dropped tree →
        f ∉ Index.accepted tree (Index.reached stopAfter 0 (w.index.fresh tree)) →
        (v.refresh stopAfter).2.index.about f = w.index.about f) ∧
    (∀ file e, ∃ added,
      (w.index.table.replaceFile file (Index.symbolsOf w.index.root file e)).1 = .ok added) ∧
    ∀ c id file expected, (Call.run v c).1 = .error (.foreignSymbol id file expected) →
      (∃ database, c = .load database) ∨ ∃ here query mode, c = .search here query mode := by
  intro v
  obtain ⟨hi, copies, hc⟩ := h.kept.index
  refine ⟨fun c => c.writes_on v, fun c e he => c.run_error v he, fun _ _ _ he => build_error he,
    fun _ _ he => refresh_error he, fun directory stopAfter s reports hb => ?_,
    fun stopAfter s reports hr => ?_, fun file e => ⟨e.symbols.length, ?_⟩,
    fun c _ _ _ he => Call.run_ne_foreignSymbol v he⟩
  · -- a build that gives an answer has come to its files
    rcases build_cases v directory stopAfter with ⟨e', hb'⟩ | ⟨root, hroot, ⟨e', -, hb'⟩ | ⟨-, hb'⟩⟩
    · rw [hb'] at hb
      cases hb
    · rw [hb'] at hb
      cases hb
    · refine ⟨root, hroot, ?_⟩
      have hsettled : tree.Settled root := by
        rw [(FileTree.resolve_eq_ok.1 hroot).2]
        exact FileTree.settled_place ht _
      rw [hb'] at hb ⊢
      have hpasses := Index.Represents.passesOver_build w.index ht hsettled stopAfter
      rw [show (w.index.build tree (some root) stopAfter).2 = (s, reports) from Except.ok.inj hb] at hpasses
      exact hpasses
  · -- what a refresh drops for paths that are gone is gone before it comes to its files
    rcases refresh_cases v stopAfter with ⟨e', -, hr'⟩ | ⟨-, hr'⟩
    · rw [hr'] at hr
      cases hr
    · rw [hr'] at hr ⊢
      have hpasses := hc.passesOver_refresh hi ht stopAfter
      rw [show (w.index.refresh tree stopAfter).2 = (s, reports) from Except.ok.inj hr] at hpasses
      exact ⟨hpasses, fun f hdropped hf =>
        (hpasses.kept f hf).trans (hc.about_of_notMem_dropped hdropped)⟩
  · -- symbols are made for the file that they are put into
    rw [Table.replaceFile_eq _ file_of_mem_symbolsOf, Index.symbolsOf, List.length_map]

/-- A text that is refused, a blank query and a database that is not there leave the one module as it
was. -/
theorem failed_call_leaves_index_oneModule :
    oneModule.Reachable ∧ oneModule.tree.WF ∧
    ∀ c ∈ [Call.update ⟨.root, ["r", "a.v"]⟩ (some (String.singleton (Char.ofNat 0))),
        .search none " " none, .load ⟨.root, ["r", "index.db"]⟩],
      (∃ e, (c.run oneModule).1 = .error e) ∧ (c.run oneModule).2 = oneModule.index := by
  have hwf : oneModule.tree.WF := wf_empty
  obtain ⟨-, hleaves, -⟩ := failed_call_leaves_index reachable_oneModule oneModule.tree hwf
  have hraises : ∀ c ∈ [Call.update ⟨.root, ["r", "a.v"]⟩ (some (String.singleton (Char.ofNat 0))),
      .search none " " none, .load ⟨.root, ["r", "index.db"]⟩], ∃ e, (c.run oneModule).1 = .error e := by
    intro c hc
    simp only [List.mem_cons, List.not_mem_nil, or_false] at hc
    rcases hc with rfl | rfl | rfl
    · exact ⟨.source ⟨.root, ["r", "a.v"]⟩ .binary, by decide +kernel⟩
    · exact ⟨.query .blank, by decide +kernel⟩
    · exact ⟨.store ⟨.root, ["r", "index.db"]⟩ .missing, by decide +kernel⟩
  refine ⟨reachable_oneModule, hwf, fun c hc => ⟨hraises c hc, ?_⟩⟩
  obtain ⟨e, he⟩ := hraises c hc
  rcases hleaves c e he with hsame | ⟨directory, stopAfter, root, rfl, -⟩
  · exact hsame
  · simp at hc

end Workspace

end RtlAtlas
