/-
What command lines keep. However a tree of files came about, by any command lines run in any of its
directories and by edits between them, every database in it is blank or saves an index that
represents copies of files. For a command does with its index only what can be done with a
workspace, and what it does besides brings no database into the tree.
-/
import RtlAtlas.Proofs.Command.Paths
import RtlAtlas.Proofs.Workspace.Coherence

namespace RtlAtlas.Command

open Workspace FileTree

/-- A tree whose databases, but for blank ones, save indexes of copies of files. -/
structure Stocked (t : FileTree) : Prop where
  wf : t.WF
  saved : ∀ d, t.Holds d → d = .empty ∨ ∃ i, Kept i ∧ d.Saves i

/-- A workspace at a stocked tree that can save its index. -/
structure Serving (w : Workspace) : Prop where
  holding : w.Holding Kept
  database : ∀ environment, (w.index.config.database environment).Proper

variable {around : Surroundings} {t t' : FileTree} {w : Workspace} {i : Index} {root : Path}

theorem Stocked.keeps (h : Stocked t) (hk : Keeps t t') : Stocked t' :=
  ⟨hk.wf h.wf, fun d hd => (hk.holds d hd).elim (h.saved d) Or.inl⟩

theorem Serving.stocked (h : Serving w) : Stocked w.tree := ⟨h.holding.wf, h.holding.saved⟩

theorem Serving.act (h : Serving w) {a : Action} (hp : ∀ p ∈ a.paths, p.Proper) :
    Serving (w.act a) :=
  ⟨h.holding.act hp (Kept.act h.holding hp), config_act w a ▸ h.database⟩

/-- The empty index of some settings serves at a stocked tree. -/
theorem serving_new (h : Stocked t) (hroot : root.Resolved) {config : Config}
    (hc : config.For root) (hn : Index.new config = .ok i) : Serving ⟨t, i⟩ := by
  have hresolved : config.root.Resolved := hc.root.symm ▸ hroot
  have hkept := kept_new hn hresolved
  have hconfig : i.config = config := Index.eq_of_new hn ▸ rfl
  exact ⟨⟨h.wf, hconfig ▸ hresolved, hkept, h.saved⟩,
    fun environment => hconfig ▸ hc.proper_database hroot.proper environment⟩

/-- Loading, whether it works or not, leaves a workspace that serves. -/
theorem Serving.load (h : Serving w) (environment : Option String) :
    Serving (w.load (w.index.config.database environment)).2 :=
  h.act (a := .load _) fun _ hm => List.mem_singleton.1 hm ▸ h.database environment

theorem Serving.save (h : Serving w) (environment : Option String) (time : String) :
    Serving (w.save (w.index.config.database environment) time).2 :=
  h.act (a := .save _ time) fun _ hm => List.mem_singleton.1 hm ▸ h.database environment

/-! ## Indexing -/

/-- The empty index of a directory, some more patterns excluded. -/
def newIndex (tree : FileTree) (directory : Path) (exclude : List String) : Except Error Index := do
  let config ← Config.load tree directory
  Index.new { config with excludePatterns := config.excludePatterns ++ exclude }

theorem serving_newIndex (h : Stocked t) (hroot : root.Proper) {exclude : List String}
    (hn : newIndex t root exclude = .ok i) : Serving ⟨t, i⟩ := by
  obtain ⟨config, hload, hnew⟩ := Except.bind_eq_ok hn
  obtain ⟨hplace, hc⟩ := Config.for_of_load h.wf hroot hload
  have hwith : Config.For (t.place root)
      { config with excludePatterns := config.excludePatterns ++ exclude } :=
    ⟨hc.root, hc.databasePath⟩
  exact serving_new h hplace.resolved hwith hnew

theorem startingIndex_eq (around : Surroundings) (tree : FileTree) (directory : Path) (force : Bool)
    (exclude : List String) : startingIndex around tree directory force exclude =
      match newIndex tree directory exclude with
      | .error e => (.error e, tree)
      | .ok i =>
        match if force then .ok none else tree.look (i.config.database around.database) with
        | .error e => (.error e, tree)
        | .ok none => (.ok (i, false), tree)
        | .ok (some _) =>
          match Workspace.load ⟨tree, i⟩ (i.config.database around.database) with
          | (.ok (), w) => (.ok (w.index, true), w.tree)
          | (.error e, w) => (.error e, w.tree) := rfl

/-- A run starts with an error, with the empty index, or with the one that was saved. -/
theorem startingIndex_cases (around : Surroundings) (tree : FileTree) (directory : Path) (force : Bool)
    (exclude : List String) :
    (∃ e, startingIndex around tree directory force exclude = (.error e, tree)) ∨
    ∃ i, newIndex tree directory exclude = .ok i ∧
      ((startingIndex around tree directory force exclude = (.ok (i, false), tree) ∧
          (force = true ∨ tree.look (i.config.database around.database) = .ok none)) ∨
        ∃ reply w, force = false ∧
          Workspace.load ⟨tree, i⟩ (i.config.database around.database) = (reply, w) ∧
          startingIndex around tree directory force exclude =
            (reply.map fun _ => (w.index, true), w.tree)) := by
  have heq := startingIndex_eq around tree directory force exclude
  cases hn : newIndex tree directory exclude with
  | error e => exact Or.inl ⟨e, by rw [heq, hn]⟩
  | ok i =>
    rw [hn] at heq
    cases force with
    | true => exact Or.inr ⟨i, rfl, Or.inl ⟨heq, Or.inl rfl⟩⟩
    | false =>
      -- without force it is the database that decides: too long a path, none there, or one to load
      simp only [Bool.false_eq_true, if_false] at heq
      cases hlook : tree.look (i.config.database around.database) with
      | error e => exact Or.inl ⟨e, by rw [heq, hlook]⟩
      | ok found =>
        rw [hlook] at heq
        cases found with
        | none => exact Or.inr ⟨i, rfl, Or.inl ⟨heq, Or.inr hlook⟩⟩
        | some entry =>
          cases hload : Workspace.load ⟨tree, i⟩ (i.config.database around.database) with
          | mk reply w =>
            rw [hload] at heq
            refine Or.inr ⟨i, rfl, Or.inr ⟨reply, w, rfl, hload, heq.trans ?_⟩⟩
            cases reply <;> rfl

/-- A run starts at a stocked tree, with an index that serves there. -/
theorem stocked_startingIndex (h : Stocked t) (hroot : root.Proper) (force : Bool)
    (exclude : List String) : Stocked (startingIndex around t root force exclude).2 ∧
      ∀ i loaded, (startingIndex around t root force exclude).1 = .ok (i, loaded) →
        Serving ⟨(startingIndex around t root force exclude).2, i⟩ := by
  rcases startingIndex_cases around t root force exclude with ⟨e, hs⟩ | ⟨i, hn, ⟨hs, -⟩ | ⟨reply, w, -, hl, hs⟩⟩
  · rw [hs]
    exact ⟨h, fun i loaded he => by cases he⟩
  · have hserving := serving_newIndex h hroot hn
    rw [hs]
    refine ⟨h, fun j loaded he => ?_⟩
    cases he
    exact hserving
  · have hserving : Serving w := by
      have hloaded := (serving_newIndex h hroot hn).load around.database
      rwa [show load ⟨t, i⟩ (i.config.database around.database) = _ from hl] at hloaded
    rw [hs]
    refine ⟨hserving.stocked, fun j loaded he => ?_⟩
    cases reply with
    | error e => cases he
    | ok u => cases he; exact hserving

/-- The workspace in which a run has brought its index up to date. -/
def refreshed (w : Workspace) (directory : Path) (loaded : Bool) :
    Except Error (Stats × List Progress) × Workspace :=
  if loaded then w.refresh none else w.build (some directory) none

theorem Serving.refreshed (h : Serving w) (hroot : root.Proper) (loaded : Bool) :
    Serving (refreshed w root loaded).2 := by
  cases loaded with
  | true => exact h.act (a := .refresh none) fun p hp => by cases hp
  | false =>
    exact h.act (a := .build (some root) none) fun _ hm => List.mem_singleton.1 hm ▸ hroot

theorem savedReport_snd (around : Surroundings) (w : Workspace) (counted : Stats) :
    (savedReport around w counted).2 =
      (w.save (w.index.config.database around.database) around.time).2.tree := by
  unfold savedReport
  split <;> rename_i h <;> rw [h]

theorem Report.ending_ofError (e : Error) : (Report.ofError e).ending ≠ .done := by
  unfold ofError failure
  split <;> simp

/-- A run that indexes ends before it has an index, or before it saves, or it saves. -/
theorem runIndex_cases (around : Surroundings) (tree : FileTree) (directory : Path) (force : Bool)
    (exclude : List String) :
    (∃ r, runIndex around tree directory force exclude =
        (r, (startingIndex around tree (placeFromHere around tree directory) force exclude).2) ∧
      r.ending ≠ .done) ∨
    ∃ i loaded, (startingIndex around tree (placeFromHere around tree directory) force exclude).1 =
        .ok (i, loaded) ∧
      let start : Workspace :=
        ⟨(startingIndex around tree (placeFromHere around tree directory) force exclude).2, i⟩
      let w := refreshed start (placeFromHere around tree directory) loaded
      ((∃ r, runIndex around tree directory force exclude = (r, w.2.tree) ∧ r.ending ≠ .done) ∨
        ∃ counted reports text, w.1 = .ok (counted, reports) ∧
          (Line.marked (progressAtLast (placeFromHere around tree directory) reports)).render = .ok text ∧
          runIndex around tree directory force exclude = savedReport around w.2 counted) := by
  cases hs : startingIndex around tree (placeFromHere around tree directory) force exclude with
  | mk made tree' =>
    cases made with
    | error e =>
      -- no index to start from
      refine Or.inl ⟨.ofError e, ?_, Report.ending_ofError e⟩
      unfold runIndex
      simp only [hs]
    | ok start =>
      obtain ⟨i, loaded⟩ := start
      cases hfirst :
          Markup.read Emoji.replace (progressAtFirst (placeFromHere around tree directory)).toList with
      | error fault =>
        -- broken markup in what is shown at first: nothing is indexed
        refine Or.inl ⟨⟨[], .escaped (.markup fault)⟩, ?_, by simp⟩
        unfold runIndex
        simp only [hs, hfirst]
      | ok chars =>
        refine Or.inr ⟨i, loaded, rfl, ?_⟩
        intro start w
        cases hw : refreshed ⟨tree', i⟩ (placeFromHere around tree directory) loaded with
        | mk done w' =>
          have hw' : w = (done, w') := hw
          rw [hw']
          unfold refreshed at hw
          cases done with
          | error e =>
            -- something below the directory cannot be looked at
            refine Or.inl ⟨⟨[], .escaped e⟩, ?_, by simp⟩
            unfold runIndex
            simp only [hs, hfirst, hw]
          | ok found =>
            obtain ⟨counted, reports⟩ := found
            cases hlast :
                (Line.marked (progressAtLast (placeFromHere around tree directory) reports)).render with
            | error e =>
              -- broken markup in what is shown at last: what was indexed is not saved
              refine Or.inl ⟨⟨[], .escaped e⟩, ?_, by simp⟩
              unfold runIndex
              simp only [hs, hfirst, hw, hlast]
            | ok text =>
              -- nothing is in the way of saving
              refine Or.inr ⟨counted, reports, text, rfl, hlast, ?_⟩
              unfold runIndex
              simp only [hs, hfirst, hw, hlast]

/-- Indexing leaves a stocked tree. -/
theorem stocked_runIndex (h : Stocked t) (hdirectory : around.directory.Resolved) {directory : Path}
    (hp : Written directory) (force : Bool) (exclude : List String) :
    Stocked (runIndex around t directory force exclude).2 := by
  have hroot : (placeFromHere around t directory).Proper :=
    (hp.isPlace h.wf hdirectory).resolved.proper
  obtain ⟨hstocked, hserving⟩ := stocked_startingIndex h hroot force exclude
  rcases runIndex_cases around t directory force exclude with ⟨r, hr, -⟩ | ⟨i, loaded, hi, hcases⟩
  · rw [hr]
    exact hstocked
  · have hw := (hserving i loaded hi).refreshed hroot loaded
    rcases hcases with ⟨r, hr, -⟩ | ⟨counted, reports, text, -, -, hr⟩
    · rw [hr]
      exact hw.stocked
    · rw [hr, savedReport_snd]
      exact (hw.save around.database around.time).stocked

/-! ## Updating -/

/-- Opening the saved index of a directory leaves a stocked tree, and an index that serves there. -/
theorem stocked_savedIndex (h : Stocked t) (hdirectory : around.directory.Resolved) :
    Stocked (savedIndex around t).2 ∧ ∀ i, (savedIndex around t).1 = .ok i →
      Serving ⟨(savedIndex around t).2, i⟩ := by
  have hopened : Stocked (openSaved around t around.directory).2 ∧
      ∀ i, (openSaved around t around.directory).1 = .ok i →
        Serving ⟨(openSaved around t around.directory).2, i⟩ := by
    -- what is opened at all serves, whether it was loaded or not
    unfold openSaved
    cases hn : forDirectory t around.directory with
    | error e => exact ⟨h, fun i hi => by cases hi⟩
    | ok i =>
      obtain ⟨config, hload, hnew⟩ := Except.bind_eq_ok hn
      obtain ⟨hplace, hc⟩ := Config.for_of_load h.wf hdirectory.proper hload
      have hnew' := serving_new h hplace.resolved hc hnew
      have hserving := hnew'.load around.database
      simp only
      cases hl : Workspace.load ⟨t, i⟩ (i.config.database around.database) with
      | mk reply w =>
        rw [show Workspace.load ⟨t, i⟩ _ = _ from hl] at hserving
        cases reply with
        | error e => exact ⟨hserving.stocked, fun j hj => by cases hj⟩
        | ok u => exact ⟨hserving.stocked, fun j hj => by cases hj; exact hserving⟩
  -- the report of an error depends on its kind, the tree does not
  unfold savedIndex
  split
  · rename_i i t' hs
    rw [hs] at hopened
    exact ⟨hopened.1, fun j hj => by cases hj; exact hopened.2 i rfl⟩
  · rename_i hs
    rw [hs] at hopened
    exact ⟨hopened.1, fun j hj => by cases hj⟩
  · rename_i hs
    rw [hs] at hopened
    exact ⟨hopened.1, fun j hj => by cases hj⟩

theorem serving_updateOne (h : Serving ⟨t, i⟩) {file : Path} (hf : t.IsPlace file) :
    Serving ⟨t, (updateOne t i file).2⟩ := by
  have hplace : t.resolve file = .ok file := hf.resolve_eq
  have hpath : ∀ p ∈ [file], p.Proper := fun p hm => List.mem_singleton.1 hm ▸ hf.resolved.proper
  have hremoved : Serving ⟨t, (i.removeFile file).2⟩ := by
    have hact := h.act (a := .remove file) hpath
    unfold Workspace.act Workspace.removeFile at hact
    simpa only [hplace] using hact
  have hupdated : Serving ⟨t, (i.updateFile t file none).2⟩ := by
    have hact := h.act (a := .update file none) hpath
    unfold Workspace.act Workspace.updateFile at hact
    simpa only [hplace] using hact
  unfold updateOne
  simp only
  split
  · exact h
  · split <;> rename_i hr <;> rw [hr] at hremoved <;> exact hremoved
  · split <;> rename_i hu <;> rw [hu] at hupdated <;> exact hupdated

theorem serving_updateAll : ∀ {files : List Path} {i : Index}, Serving ⟨t, i⟩ →
    (∀ f ∈ files, t.IsPlace f) → Serving ⟨t, (updateAll t i files).2⟩
  | [], _, h, _ => h
  | f :: fs, i, h, hf => by
    have hone := serving_updateOne h (hf f List.mem_cons_self)
    unfold updateAll
    cases hu : updateOne t i f with
    | mk reply i' =>
      rw [hu] at hone
      cases reply with
      | error e => exact hone
      | ok told => exact serving_updateAll hone fun g hg => hf g (List.mem_cons_of_mem _ hg)

theorem stocked_runUpdate (h : Stocked t) (hdirectory : around.directory.Resolved) {files : List Path}
    (hf : ∀ f ∈ files, Written f) : Stocked (runUpdate around t files).2 := by
  obtain ⟨hstocked, hserving⟩ := stocked_savedIndex h hdirectory
  unfold runUpdate
  cases hs : savedIndex around t with
  | mk reply t' =>
    rw [hs] at hstocked hserving
    cases reply with
    | error r => exact hstocked
    | ok i =>
      have hall : Serving ⟨t', (updateAll t' i (files.map (placeFromHere around t'))).2⟩ :=
        serving_updateAll (hserving i rfl) fun f hm => by
          obtain ⟨g, hg, rfl⟩ := List.mem_map.1 hm
          exact (hf g hg).isPlace hstocked.wf hdirectory
      simp only
      split
      · exact hstocked
      · have hsaved := (hall.save around.database around.time).stocked
        split <;> rename_i hsave <;> rw [hsave] at hsaved <;> exact hsaved

/-! ## Asking -/

/-- A file can be put at a place that was found for it. -/
theorem keeps_placeForFile {p place : Path} {bytes : List UInt8} (hp : p.Proper)
    (h : t.placeForFile p = .ok place) : Keeps t (t.putAt place (.file bytes)) := by
  have hf : t.follow p = .ok place := by
    unfold placeForFile at h
    obtain ⟨q, hq, h⟩ := Except.bind_eq_ok h
    split at h
    · cases h
    · cases h
      exact hq
  exact keeps_putAt (fun ht => (isPlace_of_follow ht hp hf).resolved) rfl fun d hd => by cases hd

theorem keeps_writeBeside {p : Path} {bytes : List UInt8} (hp : p.Proper)
    (h : t.writeBeside p bytes = .ok t') : Keeps t t' := by
  unfold writeBeside at h
  cases hplace : t.placeForFile p with
  | error e => rw [hplace] at h; cases h
  | ok place =>
    rw [hplace] at h
    cases h
    exact keeps_placeForFile hp hplace

theorem keeps_runStats (hd : ∀ c, Config.load t around.directory = .ok c →
    (c.database around.database).Proper) (json : Bool) : Keeps t (runStats around t json).2 := by
  unfold runStats
  cases hc : Config.load t around.directory with
  | error e => exact Keeps.refl t
  | ok c =>
    have hopen := keeps_openDatabase (hd c hc) t
    simp only
    split
    · exact Keeps.refl t
    · exact Keeps.refl t
    · unfold databaseCounts
      cases ho : t.openDatabase (c.database around.database) with
      | mk opened u =>
        rw [ho] at hopen
        cases opened <;> exact hopen

theorem keeps_makeLog (hdirectory : around.directory.Resolved) {log : Option Path}
    (hl : ∀ p ∈ log, Written p) : Keeps t (makeLog around t log).2 := by
  cases log with
  | none => exact Keeps.refl t
  | some file =>
    have hw := hl file rfl
    have hdirs := keeps_makeDirectories t (fromHere around file).parent
      (hdirectory.proper.join hw.proper).parent
    have hroot := Path.resolved_resolve hdirectory hw.proper hw.clean
    unfold makeLog
    simp only
    split
    · rename_i hm; rw [hm] at hdirs; exact hdirs
    · rename_i u hm
      rw [hm] at hdirs
      split
      · exact hdirs
      · rename_i place hplace
        split
        · exact hdirs
        · exact hdirs.trans (keeps_placeForFile hroot.proper hplace)

/-! ## Every command line -/

theorem stocked_run (h : Stocked t) (hdirectory : around.directory.Resolved) {command : Command}
    (hp : ∀ p ∈ command.paths, Written p) : Stocked (run around t command).2 := by
  have hopened := (stocked_savedIndex h hdirectory).1
  unfold run
  split
  · exact stocked_runIndex h hdirectory (hp _ List.mem_cons_self) _ _
  · exact stocked_runUpdate h hdirectory hp
  · refine h.keeps (keeps_runStats (fun c hc => ?_) _)
    obtain ⟨hplace, hfor⟩ := Config.for_of_load h.wf hdirectory.proper hc
    exact hfor.proper_database hplace.resolved.proper around.database
  · exact h
  · rename_i output unresolved
    split <;> rename_i hs <;> rw [hs] at hopened
    · exact hopened
    · unfold runDot
      cases output with
      | none => exact hopened
      | some file =>
        simp only
        split
        · exact hopened
        · rename_i hw
          exact hopened.keeps (keeps_writeBeside
            (hdirectory.proper.join (hp file (by simp [paths])).proper) hw)
  · -- the other commands only ask
    split <;> rename_i hs <;> rw [hs] at hopened <;> exact hopened

theorem stocked_runLine (h : Stocked t) (hdirectory : around.directory.Resolved) (args : List String) :
    Stocked (runLine around t args).2 := by
  unfold runLine
  cases hi : Invocation.parse args with
  | error m => exact h
  | ok invocation =>
    obtain ⟨hlog, hcommand⟩ := Invocation.written hi
    have hlogged : Stocked (makeLog around t invocation.logFile).2 :=
      h.keeps (keeps_makeLog hdirectory hlog)
    simp only
    split
    · rename_i hm; rw [hm] at hlogged; exact hlogged
    · rename_i hm
      rw [hm] at hlogged
      split
      · exact hlogged
      · rename_i command hc
        exact stocked_run hlogged hdirectory (hcommand command hc)

/-- The trees of files that come about by command lines, and by edits between them that make up no
saved index; where they save their indexes, copies of what they saved may be anywhere. -/
inductive Lived : FileTree → Prop
  | start {t : FileTree} : t.WF → (∀ d, t.Holds d → d = .empty) → Lived t
  | edit {t t' : FileTree} : Lived t → t'.WF → (∀ d, t'.Holds d → t.Holds d ∨ d = .empty) → Lived t'
  | line {t : FileTree} (around : Surroundings) (args : List String) : Lived t →
    around.directory.Resolved → Lived (runLine around t args).2

theorem Lived.stocked (h : Lived t) : Stocked t := by
  induction h with
  | start hw hd => exact ⟨hw, fun d hh => Or.inl (hd d hh)⟩
  | edit _ hw hd ih => exact ⟨hw, fun d hh => (hd d hh).elim (ih.saved d) Or.inl⟩
  | line around args _ hdirectory ih => exact stocked_runLine ih hdirectory args

end RtlAtlas.Command
