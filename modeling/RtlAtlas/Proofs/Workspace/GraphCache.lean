/-
The graph that an index keeps. Whatever changes the indexed files drops the kept graph, and a graph
that is loaded is the one its index had when it was saved, so a question sees the graph of what is
indexed. The one way past this is a build that raises because its directory, or something below it,
cannot be looked at: it empties the index and leaves the graph, which is then stale until something is
indexed again.
-/
import RtlAtlas.Proofs.Store.GraphRows
import RtlAtlas.Proofs.Workspace.Coherence

namespace RtlAtlas

open OrderedMap

namespace Graph

theorem Agrees.symm {g h : Graph} (a : g.Agrees h) : h.Agrees g :=
  ⟨a.nodes.symm, a.children.symm, a.unresolved.symm, a.flows.symm, fun e => (a.backward e).symm⟩

end Graph

namespace Index

/-- The graph that a question sees agrees with the one of everything indexed. -/
def Current (i : Index) : Prop := i.withGraph.1.Agrees i.freshGraph

/-- The kept graph was built once, and agrees with what is indexed `always` or at least when anything
is indexed. -/
structure Fits (always : Prop) (i : Index) : Prop where
  kept : Workspace.Kept i
  built : ∀ g, i.graph = some g → ∃ ms is, g.Agrees (Graph.build ms is)
  agrees : ∀ g, i.graph = some g → always ∨ i.hashes.keys ≠ [] → g.Agrees i.freshGraph

variable {always : Prop} {i j : Index} {copies copies' : Path → Option Copy}

theorem fits_of_none (h : Workspace.Kept i) (hg : i.graph = none) : i.Fits always :=
  ⟨h, fun g hs => (by rw [hg] at hs; cases hs), fun g hs => by rw [hg] at hs; cases hs⟩

theorem fits_of_fresh (h : Workspace.Kept i) (hg : i.graph = some i.freshGraph) :
    i.Fits always := by
  refine ⟨h, fun g hs => ⟨i.allModules, i.allInstances, ?_⟩, fun g hs _ => ?_⟩
  all_goals
    rw [hg] at hs
    cases hs
    exact Graph.Agrees.refl _

theorem Represents.recorded_iff (hi : i.Represents copies) (hj : j.Represents copies')
    (ht : textsOf copies = textsOf copies') : i.hashes.keys ≠ [] ↔ j.hashes.keys ≠ [] := by
  have key : ∀ f, f ∈ i.hashes.keys ↔ f ∈ j.hashes.keys := fun f => by
    rw [← exists_get?_iff, ← exists_get?_iff, hi.hash_eq, hj.hash_eq, ht]
  constructor
  · intro h
    obtain ⟨f, hf⟩ := List.exists_mem_of_ne_nil _ h
    exact List.ne_nil_of_mem ((key f).1 hf)
  · intro h
    obtain ⟨f, hf⟩ := List.exists_mem_of_ne_nil _ h
    exact List.ne_nil_of_mem ((key f).2 hf)

/-- An index with the same texts may keep a graph that agrees with a fitting one. -/
theorem Fits.congr (h : i.Fits always) (hk : Workspace.Kept j) (hi : i.Represents copies)
    (hj : j.Represents copies') (ht : textsOf copies = textsOf copies')
    (hg : ∀ g, j.graph = some g → ∃ g', i.graph = some g' ∧ g.Agrees g') : j.Fits always := by
  refine ⟨hk, fun g hs => ?_, fun g hs hor => ?_⟩
  · obtain ⟨g', hg', ha⟩ := hg g hs
    obtain ⟨ms, is, hb⟩ := h.built g' hg'
    exact ⟨ms, is, ha.trans hb⟩
  · obtain ⟨g', hg', ha⟩ := hg g hs
    rw [← hi.freshGraph_eq hj ht]
    exact ha.trans (h.agrees g' hg' (hor.imp_right (hi.recorded_iff hj ht).2))

theorem current_of_agrees (h : ∀ g, i.graph = some g → g.Agrees i.freshGraph) : i.Current := by
  unfold Current withGraph
  split
  · rename_i g hg; exact h g hg
  · exact Graph.Agrees.refl _

theorem agrees_of_current (h : i.Current) {g : Graph} (hg : i.graph = some g) :
    g.Agrees i.freshGraph := by
  unfold Current withGraph at h
  rw [hg] at h
  exact h

theorem allModules_of_empty (h : i.Represents copies) (he : i.hashes.keys = []) : i.allModules = [] := by
  have hnone : ∀ f, copies f = none := fun f => by
    refine Option.eq_none_iff_forall_ne_some.2 fun c hc => ?_
    have := h.mem_recorded.2 ⟨c, hc⟩
    rw [he] at this
    cases this
  refine List.eq_nil_iff_forall_not_mem.2 fun m hm => ?_
  obtain ⟨f, -, hf⟩ := List.mem_flatMap.1 hm
  rw [h.modules, hnone] at hf
  cases hf

theorem freshGraph_of_empty (h : i.Represents copies) (he : i.hashes.keys = []) :
    i.freshGraph = Graph.build [] [] := by
  unfold freshGraph
  rw [allModules_of_empty h he, Graph.build_nil]

/-- A fitting graph is current unless nothing is indexed and it has modules. -/
theorem Fits.current_iff (h : i.Fits always) :
    i.Current ↔ (i.hashes.keys = [] → ∀ g, i.graph = some g → g.nodes.keys = []) := by
  obtain ⟨-, copies, hr⟩ := h.kept
  constructor
  · intro hc he g hg
    have ha := agrees_of_current hc hg
    rw [freshGraph_of_empty hr he] at ha
    rw [ha.nodes]
    rfl
  · intro hn
    refine current_of_agrees fun g hg => ?_
    by_cases he : i.hashes.keys = []
    · -- a graph without nodes was built of no modules, as is the one of an empty index
      obtain ⟨ms, is, hb⟩ := h.built g hg
      have hms : ms = [] := by
        refine List.eq_nil_iff_forall_not_mem.2 fun m hm => ?_
        have hname := ((Graph.wf_build ms is).2 m.name).2 ⟨m, hm, rfl⟩
        rw [← hb.nodes, hn he g hg] at hname
        cases hname
      rw [freshGraph_of_empty hr he, ← Graph.build_nil is, ← hms]
      exact hb
    · exact h.agrees g hg (Or.inr he)

end Index

/-! ## Loading a saved graph -/

/-- The rows of a graph that was built give a graph that agrees with it. -/
theorem Index.graph_replace {i : Index} {g : Graph} (hg : i.graph = some g)
    {ms : List ModuleDef} {is : List Instance} (hb : g.Agrees (Graph.build ms is)) (time : String)
    (old : Database) : ∃ h, ((Snapshot.ofIndex i i.graph).replace time old).graph? = .ok (some h) ∧
      h.Agrees g := by
  have hrows : ((Snapshot.ofIndex i i.graph).replace time old).nodes = g.nodes.values ∧
      ((Snapshot.ofIndex i i.graph).replace time old).edges = g.edges ∧
      ((Snapshot.ofIndex i i.graph).replace time old).unresolved = Graph.pairsOf g.unresolved ∧
      ((Snapshot.ofIndex i i.graph).replace time old).flows = g.flows := by
    rw [hg]
    exact ⟨rfl, rfl, rfl, rfl⟩
  obtain ⟨hn, he, hu, hf⟩ := hrows
  rw [hb.nodes] at hn
  rw [show g.edges = (Graph.build ms is).edges by unfold Graph.edges; rw [hb.children]] at he
  rw [hb.unresolved] at hu
  rw [hb.flows] at hf
  obtain ⟨h, hgraph, -, ha⟩ := Database.graph_agrees (Graph.wf_build ms is).1 hn he hu hf
  refine ⟨h, ?_, ha.trans hb.symm⟩
  have hkey := Snapshot.get?_hasGraph (Snapshot.ofIndex i i.graph) time old
  rw [show (Snapshot.ofIndex i i.graph).graph = some g from hg] at hkey
  unfold Database.graph?
  rw [hkey, Option.isSome_some, if_pos rfl, if_pos rfl, hgraph]
  rfl

/-- A graph that is read back agrees with the one that was saved. -/
theorem Index.graph_of_snapshot {i : Index} (hroot : i.root.Resolved)
    (hbuilt : ∀ g, i.graph = some g → ∃ ms is, g.Agrees (Graph.build ms is)) {d : Database}
    {s : Snapshot} (hd : d.Saves i) (hs : d.snapshot = .ok s) {g : Graph} (hg : s.graph = some g) :
    ∃ g', i.graph = some g' ∧ g.Agrees g' := by
  obtain ⟨time, old, rfl⟩ := hd
  have hloaded := (Index.snapshot_replace hroot hs).1
  rw [hg] at hloaded
  cases hi : i.graph with
  | none =>
    -- an index without a graph was saved without one
    have hkey := Snapshot.get?_hasGraph (Snapshot.ofIndex i i.graph) time old
    rw [show (Snapshot.ofIndex i i.graph).graph = none from hi] at hkey
    unfold Database.graph? at hloaded
    rw [hkey, if_neg (by decide)] at hloaded
    cases hloaded
  | some g' =>
    obtain ⟨ms, is, hb⟩ := hbuilt g' hi
    obtain ⟨g'', hgraph, ha⟩ := Index.graph_replace hi hb time old
    rw [hgraph] at hloaded
    cases hloaded
    exact ⟨g', rfl, ha⟩

/-- An index that is loaded keeps a graph that fits, if the saved one did. -/
theorem Index.Fits.restore {always : Prop} {i j : Index} (h : i.Fits always) {d : Database}
    {s : Snapshot} (hd : d.Saves i) (hs : d.snapshot = .ok s) : (j.restore s).Fits always := by
  obtain ⟨hroot, copies, hr⟩ := h.kept
  obtain ⟨hsame, hrep⟩ := Workspace.represents_restore hd hs hroot hr j
  exact h.congr ⟨hsame ▸ hroot, _, hrep⟩ hr hrep (textsOf_saved copies).symm fun g hg =>
    Index.graph_of_snapshot hroot h.built hd hs hg

namespace Workspace

/-! ## What every action does to the kept graph -/

/-- An action is not a build that raises after it has emptied the index. -/
def Completes (w : Workspace) (a : Action) : Prop :=
  ∀ directory stopAfter, a = .build directory stopAfter →
    (w.build directory stopAfter).2 = w ∨ ∃ r, (w.build directory stopAfter).1 = .ok r

variable {always : Prop} {w : Workspace}

theorem fits_build (hw : w.Holding (Index.Fits always)) {directory : Option Path}
    (hp : (directory.getD w.index.config.root).Proper) (stopAfter : Option Int)
    (ha : always → w.Completes (.build directory stopAfter)) :
    (w.build directory stopAfter).2.index.Fits always := by
  have hkept := Kept.build hw.wf hw.index.kept hp stopAfter
  rcases build_cases w directory stopAfter with ⟨e, h⟩ | ⟨root, -, ⟨e, -, h⟩ | ⟨-, h⟩⟩
  · rw [h]; exact hw.index
  · rw [h] at hkept ⊢
    refine ⟨hkept, hw.index.built, fun g hg hor => ?_⟩
    rcases hor with hall | hne
    · rcases ha hall directory stopAfter rfl with heq | ⟨r, hr⟩
      · -- the build that raised has changed nothing
        rw [h] at heq
        rw [heq]
        exact hw.index.agrees g hg (Or.inl hall)
      · rw [h] at hr; cases hr
    · exact absurd rfl hne
  · rw [h] at hkept ⊢
    exact Index.fits_of_none hkept (Index.graph_build w.index w.tree root stopAfter)

theorem fits_refresh (hw : w.Holding (Index.Fits always)) (stopAfter : Option Int) :
    (w.refresh stopAfter).2.index.Fits always := by
  have hkept := Kept.refresh hw.wf hw.index.kept stopAfter
  rcases refresh_cases w stopAfter with ⟨e, -, h⟩ | ⟨-, h⟩
  · rw [h]; exact hw.index
  · rw [h] at hkept ⊢
    exact Index.fits_of_none hkept (Index.graph_refresh w.index w.tree stopAfter)

theorem fits_updateFile (hw : w.tree.WF) (h : w.index.Fits always) {file : Path} (hp : file.Proper)
    (content : Option String) : (w.updateFile file content).2.index.Fits always := by
  have hkept := Kept.updateFile hw h.kept hp content
  revert hkept
  unfold Workspace.updateFile
  cases w.tree.resolve file with
  | error e => exact fun _ => h
  | ok place =>
    intro hkept
    rcases Index.updateFile_cases w.index w.tree place content with ⟨e, hu, -⟩ | ⟨e, c, hu, -⟩
    · show (w.index.updateFile w.tree place content).2.Fits always
      rw [hu]
      exact h
    · refine Index.fits_of_none hkept ?_
      show (w.index.updateFile w.tree place content).2.graph = none
      rw [hu]
      rfl

/-- Removing a file that is not known keeps the graph, and changes nothing that it shows. -/
theorem fits_removeFile (h : w.index.Fits always) (file : Path) :
    (w.removeFile file).2.index.Fits always := by
  obtain ⟨hroot, copies, hr⟩ := h.kept
  unfold Workspace.removeFile
  cases w.tree.resolve file with
  | error e => exact h
  | ok place =>
    have hdropped := hr.removeFile place
    show (w.index.removeFile place).2.Fits always
    unfold Index.removeFile at hdropped ⊢
    simp only at hdropped ⊢
    split
    · rename_i hknown
      rw [if_pos hknown] at hdropped
      exact Index.fits_of_none ⟨hroot, _, hdropped⟩ rfl
    · rename_i hknown
      rw [if_neg hknown] at hdropped
      rw [hr.knows_eq, Bool.not_eq_true, Option.isSome_eq_false_iff, Option.isNone_iff_eq_none]
        at hknown
      rw [← hknown, Function.update_eq_self] at hdropped
      exact h.congr ⟨hroot, _, hdropped⟩ hr hdropped rfl fun g hg => ⟨g, hg, Graph.Agrees.refl g⟩

theorem fits_withGraph (h : w.index.Fits always) : w.index.withGraph.2.Fits always := by
  obtain ⟨hroot, copies, hr⟩ := h.kept
  cases hg : w.index.graph with
  | some g =>
    have hsame : w.index.withGraph.2 = w.index := by unfold Index.withGraph; rw [hg]
    rw [hsame]
    exact h
  | none =>
    have hfresh : w.index.withGraph.2 = { w.index with graph := some w.index.freshGraph } := by
      unfold Index.withGraph
      rw [hg]
    have hnew : ({ w.index with graph := some w.index.freshGraph } : Index).Represents copies :=
      hr.congr rfl rfl rfl rfl rfl rfl
    rw [hfresh]
    exact Index.fits_of_fresh ⟨hroot, _, hnew⟩ rfl

theorem fits_act (hw : w.Holding (Index.Fits always)) {a : Action} (hp : ∀ p ∈ a.paths, p.Proper)
    (ha : always → w.Completes a) : (w.act a).index.Fits always := by
  obtain ⟨hroot, copies, hr⟩ := hw.index.kept
  cases a with
  | build directory stopAfter => exact fits_build hw (hw.proper_root hp) stopAfter ha
  | refresh stopAfter => exact fits_refresh hw stopAfter
  | update file content => exact fits_updateFile hw.wf hw.index (hp file (by simp [Action.paths])) content
  | remove file => exact fits_removeFile hw.index file
  | query => exact fits_withGraph hw.index
  | rebuildGraph =>
    have hnew : (w.index.setGraph none none).Represents copies := hr.congr rfl rfl rfl rfl rfl rfl
    exact Index.fits_of_fresh ⟨hroot, _, hnew⟩ rfl
  | save database time => exact fits_withGraph hw.index
  | load database =>
    -- A load either fails and changes nothing or restores a snapshot that some earlier index saved.
    rcases load_cases w (hp database (by simp [Action.paths])) with h | ⟨d, s, hd, hs, h⟩
    · rw [show (w.act (.load database)).index = w.index from h]
      exact hw.index
    · rw [show (w.act (.load database)).index = w.index.restore s from h]
      rcases hw.saved d hd with rfl | ⟨i, hi, hd⟩
      · cases hs
      · exact hi.restore hd hs
  | close =>
    have hnew : w.index.close.Represents fun _ => none :=
      (Index.Represents.clear w.index w.index.root).congr rfl rfl rfl rfl rfl rfl
    exact Index.fits_of_none ⟨hroot, _, hnew⟩ rfl

theorem fits_new {config : Config} {index : Index} (h : Index.new config = .ok index)
    (hroot : config.root.Resolved) : index.Fits always := by
  refine Index.fits_of_none (kept_new h hroot) ?_
  rw [Index.eq_of_new h]

/-- A question sees the graph of what is indexed in every run whose builds complete, and in any run
unless nothing is indexed while a graph with modules is still kept. -/
theorem graph_current_iff (h : w.Reachable) :
    (ReachableBy Completes w → w.index.Current) ∧
      (w.index.Current ↔
        (w.index.hashes.keys = [] → ∀ g, w.index.graph = some g → g.nodes.keys = [])) := by
  constructor
  · intro hdone
    have hfits : w.Holding (Index.Fits True) := ReachableBy.holds (fun _ _ hn hr => fits_new hn hr)
      (fun _ _ hw hp ha => fits_act hw hp fun _ => ha) hdone
    exact Index.current_of_agrees fun g hg => hfits.index.agrees g hg (Or.inl trivial)
  · have hfits : w.Holding (Index.Fits False) := ReachableBy.holds (fun _ _ hn hr => fits_new hn hr)
      (fun _ _ hw hp _ => fits_act hw hp False.elim) h
    exact hfits.index.current_iff

/-- After the small run and a question every build has completed, and the graph is current. -/
theorem graph_current_oneModule : (oneModule.act .query).index.Current := by
  have hrun : ReachableBy Completes (oneModule.act .query) := by
    refine .act (.act (reachableBy_blank _) (by decide) ?_) (by decide) ?_
    all_goals
      intro directory stopAfter h
      cases h
  exact (graph_current_iff (hrun.mono fun _ _ _ => trivial)).1 hrun

/-- A directory with a name too long to be looked at. -/
def tooLong : Path := ⟨.root, [String.ofList (List.replicate 300 'x')]⟩

/-- The small run, a question and a build that raises. -/
def stale : Workspace := (oneModule.act .query).act (.build (some tooLong) none)

theorem resolved_tooLong : tooLong.Resolved where
  anchor := rfl
  proper := by
    intro part hpart
    obtain rfl := List.mem_singleton.1 hpart
    refine ⟨by decide +kernel, by decide +kernel, fun hs => ?_⟩
    rw [String.toList_ofList] at hs
    exact absurd (List.eq_of_mem_replicate hs) (by decide)
  plain := fun hp => absurd (List.mem_singleton.1 hp) (by decide +kernel)
  clean := by
    unfold tooLong Path.hasNull
    simp only [List.any_cons, List.any_nil, String.toList_ofList, Bool.or_false]
    decide

/-- A path whose first component is too long cannot be looked at. -/
theorem look_of_long {t : FileTree} (h : t.entries.get? FileTree.rootPath = some .directory)
    {part : String} {parts : List String} (hn : (⟨.root, part :: parts⟩ : Path).hasNull = false)
    (hup : part ≠ "..") (hl : FileTree.nameLimit < part.utf8ByteSize) :
    t.look ⟨.root, part :: parts⟩ = .error (.path ⟨.root, part :: parts⟩ .nameTooLong) := by
  have hwalk : t.walk FileTree.rootPath (part :: parts) = .error .nameTooLong := by
    rw [FileTree.walk, FileTree.walkBy, h]
    simp only [beq_iff_eq, if_neg hup, if_pos hl]
  unfold FileTree.look FileTree.follow
  rw [if_neg (by rw [hn]; decide), hwalk]
  split_ifs <;> rfl

theorem build_of_survey {directory root : Path} {e : Error} (hp : w.tree.resolve directory = .ok root)
    (hs : w.tree.survey root = .error e) (stopAfter : Option Int) :
    (w.act (.build (some directory) stopAfter)).index = { w.index.clear with root := root } := by
  show (w.build (some directory) stopAfter).2.index = _
  unfold Workspace.build
  rw [Option.getD_some, hp]
  simp only [hs]

theorem stale_index : stale.index = { (oneModule.act .query).index.clear with root := tooLong } := by
  unfold stale
  have hroot : (oneModule.act .query).tree.entries.get? FileTree.rootPath = some .directory := rfl
  have hlook : (oneModule.act .query).tree.look tooLong = .error (.path tooLong .nameTooLong) :=
    look_of_long hroot resolved_tooLong.clean (by decide +kernel) (by decide +kernel)
  have hplace : (oneModule.act .query).tree.IsPlace tooLong :=
    ⟨resolved_tooLong, FileTree.clear_empty tooLong⟩
  exact build_of_survey hplace.resolve_eq (FileTree.survey_of_look hlook) none

/-- A build that raises leaves a graph that is not the one of what is indexed. -/
theorem graph_stale_after_failed_build : stale.Reachable ∧ stale.index.allModules = [] ∧
    stale.index.withGraph.1.names = ["m"] ∧ ¬stale.index.Current := by
  have hproper : ∀ p ∈ (Action.build (some tooLong) none).paths, p.Proper := fun p hp =>
    List.mem_singleton.1 hp ▸ resolved_tooLong.proper
  have hempty : stale.index.Represents fun _ => none :=
    stale_index ▸ Index.Represents.clear _ _
  have hrecorded : stale.index.hashes.keys = [] := by rw [stale_index]; rfl
  have hnames : stale.index.withGraph.1.names = ["m"] := by rw [stale_index]; decide +kernel
  refine ⟨.act (.act reachable_oneModule (by decide) trivial) hproper trivial,
    Index.allModules_of_empty hempty hrecorded, hnames, fun hc => ?_⟩
  have hsame : stale.index.withGraph.1.nodes = (Graph.build [] []).nodes :=
    hc.nodes.trans (by rw [Index.freshGraph_of_empty hempty hrecorded])
  have hnone : stale.index.withGraph.1.names = [] := congrArg OrderedMap.keys hsame
  rw [hnames] at hnone
  cases hnone

end Workspace

end RtlAtlas
