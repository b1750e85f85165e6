/-
Indexing a directory with and without force. Without force a run goes on with the index that is saved
where the settings of the directory say, and brings that up to date. It saves what a forced run saves
exactly when the index it goes on with is one of this directory, and no path that is gone leads
elsewhere over a link: two directories whose settings name one database are mixed up.
-/
import RtlAtlas.Proofs.Command.Output
import RtlAtlas.Proofs.Command.Runs
import RtlAtlas.Proofs.Workspace.Refresh
import RtlAtlas.Proofs.Workspace.Reopen

namespace RtlAtlas

/-- Snapshots of the same index; of their graphs only the nodes and the edges to children count. -/
structure Snapshot.Same (s s' : Snapshot) : Prop where
  root : s.root = s'.root
  symbols : s.symbols = s'.symbols
  modules : s.modules = s'.modules
  instances : s.instances = s'.instances
  files : s.files = s'.files
  graph : ∃ g g', s.graph = some g ∧ s'.graph = some g' ∧ g.nodes = g'.nodes ∧ g.edges = g'.edges

namespace Command

open Workspace FileTree

/-- Trees in which the same index is saved at a path. -/
def SaveSame (database : Path) (t u : FileTree) : Prop :=
  ∃ s s', (t.loadSnapshot database).1 = .ok s ∧ (u.loadSnapshot database).1 = .ok s' ∧ s.Same s'

variable {around : Surroundings} {t t' : FileTree} {w : Workspace} {i j : Index}
  {directory root database : Path} {force loaded : Bool} {exclude : List String}

/-! ## What a run that ends well has done -/

theorem Report.done_of_exit {r : Report} (h : r.outcome.exit = 0) : r.ending = .done := by
  unfold outcome at h
  split at h
  · cases h
  · split at h
    · assumption
    all_goals cases h

/-- What ends well with the report of a save has saved. -/
theorem saved_of_savedReport {counted : Stats} (h : (savedReport around w counted).1.ending = .done) :
    ∃ saved, w.save (w.index.config.database around.database) around.time = (.ok (), saved) ∧
      (savedReport around w counted).2 = saved.tree := by
  cases hs : w.save (w.index.config.database around.database) around.time with
  | mk reply saved =>
    unfold savedReport at h ⊢
    rw [hs] at h ⊢
    cases reply with
    | error e => exact absurd h (Report.ending_ofError e)
    | ok u => exact ⟨saved, rfl, rfl⟩

/-- A run that ends well has brought its index up to date and saved it. -/
theorem saved_of_runIndex (h : (runIndex around t directory force exclude).1.outcome.exit = 0) :
    ∃ i loaded found w saved,
      (startingIndex around t (placeFromHere around t directory) force exclude).1 = .ok (i, loaded) ∧
      refreshed ⟨(startingIndex around t (placeFromHere around t directory) force exclude).2, i⟩
        (placeFromHere around t directory) loaded = (.ok found, w) ∧
      w.save (w.index.config.database around.database) around.time = (.ok (), saved) ∧
      (runIndex around t directory force exclude).2 = saved.tree := by
  have hdone := Report.done_of_exit h
  rcases runIndex_cases around t directory force exclude with
    ⟨r, hr, hn⟩ | ⟨i, loaded, hi, ⟨r, hr, hn⟩ | ⟨counted, reports, text, hw, -, hr⟩⟩
  · rw [hr] at hdone
    exact absurd hdone hn
  · rw [hr] at hdone
    exact absurd hdone hn
  · rw [hr] at hdone ⊢
    obtain ⟨saved, hs, htree⟩ := saved_of_savedReport hdone
    exact ⟨i, loaded, _, _, saved, hi, Prod.ext hw rfl, hs, htree⟩

/-- The tree that a run leaves which can save its index, unless a name brings markup along or a file
cannot be taken in. -/
def savedTree? (around : Surroundings) (t : FileTree) (directory : Path) (force : Bool)
    (exclude : List String) : Option FileTree :=
  match startingIndex around t (placeFromHere around t directory) force exclude with
  | (.error _, _) => none
  | (.ok (i, loaded), t') =>
    match refreshed ⟨t', i⟩ (placeFromHere around t directory) loaded with
    | (.error _, _) => none
    | (.ok (counted, reports), w) =>
      match w.save (w.index.config.database around.database) around.time with
      | (.error _, _) => none
      | (.ok (), saved) =>
        if Markup.Bare (placeFromHere around t directory).name.toList ∧
            (∀ r ∈ reports.getLast?, Markup.Bare (r.file.shownFrom (placeFromHere around t directory)).toList) ∧
            counted.errors = [] then some saved.tree
        else none

/-- A run that can save its index ends well, if nothing breaks its output. -/
theorem runIndex_of_savedTree? (h : savedTree? around t directory force exclude = some t') :
    (runIndex around t directory force exclude).1.outcome.exit = 0 ∧
      (runIndex around t directory force exclude).2 = t' := by
  unfold savedTree? at h
  split at h
  · cases h
  rename_i i loaded u hstart
  split at h
  · cases h
  rename_i counted reports w hw
  split at h
  · cases h
  rename_i saved hs
  split_ifs at h with hclean
  obtain ⟨hname, hlast, herrors⟩ := hclean
  obtain rfl := Option.some.inj h
  obtain ⟨r, hfirst, -⟩ := (marked_progressAtFirst hname).read Emoji.replace
  obtain ⟨text, hshown⟩ := Line.shown_marked (marked_progressAtLast hname hlast)
  have hrun : runIndex around t directory force exclude = savedReport around w counted := by
    unfold runIndex
    simp only [hstart, hfirst]
    rw [show (if loaded = true then Workspace.refresh ⟨u, i⟩ none
      else Workspace.build ⟨u, i⟩ (some (placeFromHere around t directory)) none) = _ from hw]
    simp only [hshown]
  rw [hrun]
  unfold savedReport
  rw [hs]
  exact ⟨exit_ofLines (shown_statsLines herrors _), rfl⟩

theorem runLine_of_parse {args : List String} {command : Command}
    (h : Invocation.parse args = .ok { command := .ok command }) :
    (runLine around t args).2 = (run around t command).2 := by
  unfold runLine
  rw [h]
  rfl

/-- The empty index of a directory has the directory as its root, and nothing of it is gone. -/
theorem of_newIndex (ht : t.WF) (hroot : t.IsPlace root) (hn : newIndex t root exclude = .ok i) :
    i.root = root ∧ i.gone t = [] := by
  obtain ⟨config, hload, hnew⟩ := Except.bind_eq_ok hn
  obtain ⟨-, hfor⟩ := Config.for_of_load ht hroot.resolved.proper hload
  rw [Index.eq_of_new hnew]
  exact ⟨hfor.root.trans hroot.place_eq, rfl⟩

/-- A run that starts has changed nothing, and goes on with the settings of its directory. -/
theorem of_startingIndex
    (h : (startingIndex around t root force exclude).1 = .ok (i, loaded)) :
    startingIndex around t root force exclude = (.ok (i, loaded), t) ∧
      ∃ new, newIndex t root exclude = .ok new ∧ i.config = new.config ∧ (loaded = false → i = new) ∧
        (force = true → loaded = false) := by
  rcases startingIndex_cases around t root force exclude with
    ⟨e, hs⟩ | ⟨new, hn, ⟨hs, -⟩ | ⟨reply, w, hforce, hl, hs⟩⟩
  · rw [hs] at h
    cases h
  · rw [hs] at h ⊢
    cases h
    exact ⟨rfl, i, hn, rfl, fun _ => rfl, fun _ => rfl⟩
  · -- a load that succeeds opens what is there, so the tree is the same after it
    rw [hs] at h ⊢
    cases reply with
    | error e => cases h
    | ok u =>
      cases h
      have hleaves := load_leaves ⟨t, new⟩ (new.config.database around.database)
      rw [hl] at hleaves
      obtain ⟨htree, hconfig⟩ := hleaves
      have hsame : w.tree = t := by
        unfold Workspace.load at hl
        split at hl
        · rename_i s u hsnapshot
          rw [htree, hsnapshot]
          exact (opens_of_loadSnapshot hsnapshot).1
        · cases hl
      rw [hsame]
      refine ⟨rfl, new, hn, hconfig, fun hf => (by cases hf), fun hf => ?_⟩
      rw [hforce] at hf
      cases hf

/-- A saved index is brought up to date with the place that it is of. -/
theorem index_refreshed {found : Stats × List Progress} (h : refreshed ⟨t, i⟩ root true = (.ok found, w)) :
    w = ⟨t, (i.refresh t none).1⟩ := by
  unfold refreshed at h
  rw [if_pos rfl] at h
  rcases refresh_cases ⟨t, i⟩ none with ⟨e, -, hr⟩ | ⟨-, hr⟩
  · rw [hr] at h
    cases h
  · rw [hr] at h
    cases h
    rfl

/-- An index that was not saved is built of the directory. -/
theorem index_built (hroot : t.IsPlace root) {found : Stats × List Progress}
    (h : refreshed ⟨t, i⟩ root false = (.ok found, w)) :
    w = ⟨t, (i.build t (some root) none).1⟩ := by
  unfold refreshed at h
  rw [if_neg Bool.false_ne_true] at h
  rcases build_cases ⟨t, i⟩ (some root) none with ⟨e, hb⟩ | ⟨place, hp, hb⟩
  · rw [hb] at h
    cases h
  · obtain rfl : root = place := Except.ok.inj (hroot.resolve_eq.symm.trans hp)
    rcases hb with ⟨e, -, hb⟩ | ⟨-, hb⟩
    · rw [hb] at h
      cases h
    · rw [hb] at h
      cases h
      rfl

/-! ## What is saved -/

/-- Indexes that list the same and have the same graph leave the same tree when they are saved. -/
theorem save_tree_eq {time : String} (hroot : i.root = j.root) (hsymbols : i.table.list = j.table.list)
    (hmodules : i.allModules = j.allModules) (hinstances : i.allInstances = j.allInstances)
    (hrecords : i.records = j.records) (hgraph : i.withGraph.1 = j.withGraph.1) :
    (Workspace.save ⟨t, i⟩ database time).2.tree = (Workspace.save ⟨t, j⟩ database time).2.tree := by
  have hsnapshot : Snapshot.ofIndex i (some i.withGraph.1) = .ofIndex j (some j.withGraph.1) := by
    unfold Snapshot.ofIndex
    rw [hroot, hsymbols, hmodules, hinstances, hrecords, hgraph]
  rw [save_eq, save_eq]
  exact congrArg (fun s => (t.saveSnapshot database time s).2) hsnapshot

/-- Two runs that have saved the same have done so of indexes with one root and the same records. -/
theorem of_saveSame {w v saved saved' : Workspace} {time : String} (hw : Savable w.index)
    (hv : Savable v.index) (hs : w.save database time = (.ok (), saved))
    (hs' : v.save database time = (.ok (), saved'))
    (h : SaveSame database saved.tree saved'.tree) :
    w.index.root = v.index.root ∧ ∀ r ∈ w.index.records, r ∈ v.index.records := by
  obtain ⟨g, -, hl⟩ := loadSnapshot_of_save hw hs
  obtain ⟨g', -, hl'⟩ := loadSnapshot_of_save hv hs'
  obtain ⟨s, s', hg, hg', hsame⟩ := h
  rw [hl] at hg
  rw [hl'] at hg'
  cases hg
  cases hg'
  refine ⟨hsame.root, fun r hr => ?_⟩
  have hfiles : Database.sortRecords w.index.records = Database.sortRecords v.index.records := hsame.files
  rw [← (Database.perm_sortRecords _).mem_iff, ← hfiles, (Database.perm_sortRecords _).mem_iff]
  exact hr

/-- What was saved can be read, and is the same as itself. -/
theorem saveSame_self {saved : Workspace} {time : String} (hw : Savable w.index)
    (hs : w.save database time = (.ok (), saved)) : SaveSame database saved.tree saved.tree := by
  obtain ⟨g, -, hl⟩ := loadSnapshot_of_save hw hs
  exact ⟨_, _, congrArg Prod.fst hl, congrArg Prod.fst hl, rfl, rfl, rfl, rfl, rfl, g, g, rfl, rfl,
    rfl, rfl⟩

theorem savable_refreshed (ht : t.WF) (hroot : i.root.Resolved) {copies : Path → Option Copy}
    (h : i.Represents copies) : Savable (i.refresh t none).1 := by
  have hkept : Kept (i.refresh t none).1 :=
    ⟨(Index.stays_refresh i t none).root.symm ▸ hroot, _, h.refresh hroot ht none⟩
  exact savable_of_none hkept (Index.graph_refresh i t none)

theorem savable_built (ht : t.WF) (hroot : root.Resolved) (i : Index) :
    Savable (i.build t (some root) none).1 := by
  have hkept : Kept (i.build t (some root) none).1 :=
    ⟨(Index.stays_build i t root none).root.symm ▸ hroot, _, Index.Represents.build i ht hroot none⟩
  exact savable_of_none hkept (Index.graph_build i t root none)

/-! ## With force and without -/

/-- An index that is brought up to date leaves the tree that one built of a directory leaves, if it is
an index of this directory and no path that is gone leads elsewhere. -/
theorem refreshed_tree_eq (ht : t.WF) (hroot : i.root.Resolved) {copies : Path → Option Copy}
    (hc : i.Represents copies) (hsha : Set.InjOn Digest.sha256Hex (i.compared t copies))
    (hok : ∀ f ∈ (Index.discover i.config t i.root).1, ∃ found, Index.extractFile t f = .ok found)
    (hconfig : j.config = i.config) (hplaces : ∀ f ∈ i.gone t, t.place f = f) (database : Path)
    (time : String) :
    (Workspace.save ⟨t, (i.refresh t none).1⟩ database time).2.tree =
      (Workspace.save ⟨t, (j.build t (some i.root) none).1⟩ database time).2.tree := by
  have hagree := hc.refreshed hroot ht (Index.cancelled_refresh_none i t) hsha hconfig
  obtain ⟨hsymbols, hmodules, hinstances, hrecords⟩ := (hagree.same hok).2 hplaces
  refine save_tree_eq ?_ hsymbols hmodules hinstances hrecords ?_
  · rw [(Index.stays_refresh i t none).root, (Index.stays_build j t i.root none).root]
  · -- neither run keeps a graph, so that both are made of the same listings
    rw [Index.withGraph_of_none (Index.graph_refresh i t none),
      Index.withGraph_of_none (Index.graph_build j t i.root none)]
    unfold Index.freshGraph
    rw [hmodules, hinstances]

/-- The index that is saved goes on to be one of a directory, with nothing left under paths that lead
elsewhere. -/
def Continues (i : Index) (t : FileTree) (root : Path) : Prop :=
  i.root = root ∧ ∀ f ∈ i.gone t, t.place f = f

/-- What is saved of an index that is brought up to date, and of one that is built of a directory, is
the same exactly when the first is an index of this directory and no path that is gone leads
elsewhere. -/
theorem saveSame_iff (ht : t.WF) (hi : i.root.Resolved) (hroot : root.Resolved)
    {copies : Path → Option Copy} (hc : i.Represents copies)
    (hsha : Set.InjOn Digest.sha256Hex (i.compared t copies))
    (hok : ∀ f ∈ (Index.discover i.config t root).1, ∃ found, Index.extractFile t f = .ok found)
    (hconfig : j.config = i.config) {time : String} {saved saved' : Workspace}
    (hs : Workspace.save ⟨t, (i.refresh t none).1⟩ database time = (.ok (), saved))
    (hs' : Workspace.save ⟨t, (j.build t (some root) none).1⟩ database time = (.ok (), saved')) :
    (SaveSame database saved.tree saved'.tree ↔ Continues i t root) ∧
      (Continues i t root → saved.tree = saved'.tree) := by
  have hrefreshed : Savable (i.refresh t none).1 := savable_refreshed ht hi hc
  have htrees (hr : Continues i t root) : saved.tree = saved'.tree := by
    obtain ⟨rfl, hplaces⟩ := hr
    have hsame := refreshed_tree_eq ht hi hc hsha hok hconfig hplaces database time
    rwa [hs, hs'] at hsame
  refine ⟨⟨fun hsame => ?_, fun hr => ?_⟩, htrees⟩
  · obtain ⟨hroots, hrecords⟩ := of_saveSame hrefreshed (savable_built ht hroot j) hs hs' hsame
    have hsameRoot : i.root = root := by
      calc i.root = (i.refresh t none).1.root := (Index.stays_refresh i t none).root.symm
        _ = (j.build t (some root) none).1.root := hroots
        _ = root := (Index.stays_build j t root none).root
    subst hsameRoot
    -- what is left of a path that leads elsewhere is in the first saved index only
    have hafter : (i.refresh t none).1.Represents (i.allRefreshed t copies) :=
      hc.refresh_all hi ht rfl
    exact ⟨rfl, hc.places_of_records ht hafter (Index.Represents.build_all hi ht hconfig) hrecords⟩
  · have hself := saveSame_self hrefreshed hs
    rwa [htrees hr] at hself ⊢

/-- Where both runs end well and every file of the directory can be taken in, a run without force
saves the index that a forced run saves exactly when the index it started from is of this directory and
no recorded path that is gone leads elsewhere; then they leave the same tree. -/
theorem forced_agrees_iff (h : Lived t) (hdirectory : around.directory.Resolved)
    (hp : Written directory)
    (hkept : (run around t (.index directory false exclude)).1.outcome.exit = 0)
    (hforced : (run around t (.index directory true exclude)).1.outcome.exit = 0) :
    ∃ i loaded, startingIndex around t (placeFromHere around t directory) false exclude =
        (.ok (i, loaded), t) ∧
      (∃ copies, i.Represents copies) ∧
      ∀ copies, i.Represents copies → Set.InjOn Digest.sha256Hex (i.compared t copies) →
        (∀ f ∈ (Index.discover i.config t (placeFromHere around t directory)).1,
          ∃ found, Index.extractFile t f = .ok found) →
        (SaveSame (i.config.database around.database) (run around t (.index directory false exclude)).2
            (run around t (.index directory true exclude)).2 ↔
          Continues i t (placeFromHere around t directory)) ∧
          (Continues i t (placeFromHere around t directory) →
            (run around t (.index directory false exclude)).2 =
              (run around t (.index directory true exclude)).2) := by
  have hwf := h.stocked.wf
  have hroot : t.IsPlace (placeFromHere around t directory) := hp.isPlace hwf hdirectory
  obtain ⟨i, loaded, found, w, saved, hi, hw, hs, htree⟩ := saved_of_runIndex hkept
  obtain ⟨new, built, counted, v, saved', hj, hv, hs', htree'⟩ := saved_of_runIndex hforced
  have hserving :=
    (stocked_startingIndex h.stocked hroot.resolved.proper false exclude).2 i loaded hi
  obtain ⟨hstart, j, hn, hconfig, hnew, -⟩ := of_startingIndex hi
  obtain ⟨hstart', j', hn', -, hnew', hfresh⟩ := of_startingIndex hj
  obtain rfl := hfresh rfl
  obtain rfl : new = j := (hnew' rfl).trans (Except.ok.inj (hn'.symm.trans hn))
  rw [hstart] at hw hserving
  rw [hstart'] at hv
  obtain rfl := index_built hroot hv
  obtain ⟨hresolved, hrepresents⟩ := hserving.holding.index
  refine ⟨i, loaded, hstart, hrepresents, fun copies hc hsha hok => ?_⟩
  rw [show (run around t (.index directory false exclude)).2 = saved.tree from htree,
    show (run around t (.index directory true exclude)).2 = saved'.tree from htree']
  have hplace : (new.build t (some (placeFromHere around t directory)) none).1.config = i.config :=
    (Index.stays_build _ _ _ _).config.trans hconfig.symm
  rw [show (Workspace.mk t (new.build t (some (placeFromHere around t directory)) none).1).index.config =
    i.config from hplace] at hs'
  cases loaded with
  | false =>
    -- nothing was saved there, so both runs did the same
    obtain rfl := hnew rfl
    obtain rfl := index_built hroot hw
    rw [hplace] at hs
    obtain rfl : saved = saved' := (Prod.mk.inj (hs.symm.trans hs')).2
    obtain ⟨hof, hgone⟩ := of_newIndex hwf hroot hn
    have hcontinues : Continues i t (placeFromHere around t directory) :=
      ⟨hof, by rw [hgone]; exact List.forall_mem_nil _⟩
    exact ⟨⟨fun _ => hcontinues, fun _ => saveSame_self (savable_built hwf hroot.resolved i) hs⟩,
      fun _ => rfl⟩
  | true =>
    obtain rfl := index_refreshed hw
    rw [show (Workspace.mk t (i.refresh t none).1).index.config = i.config from
      (Index.stays_refresh i t none).config] at hs
    exact saveSame_iff hwf hresolved hroot.resolved hc hsha hok hconfig.symm hs hs'

/-! ## Two directories with one database -/

/-- Two directories with a module each. -/
def twoDirectories : FileTree :=
  (FileTree.empty.write ⟨.root, ["r", "a", "x.v"]⟩ (Text.bytesOf "module x;\nendmodule\n")).write
    ⟨.root, ["r", "b", "y.v"]⟩ (Text.bytesOf "module y;\nendmodule\n")

/-- Surroundings that make both save their indexes at one place. -/
def sharing : Surroundings where
  directory := ⟨.root, ["r"]⟩
  database := some "/r/index.db"
  time := "now"

def sharedDatabase : Path := ⟨.root, ["r", "index.db"]⟩

def firstRoot : Path := ⟨.root, ["r", "a"]⟩

def secondRoot : Path := ⟨.root, ["r", "b"]⟩

/-- The index of the first directory. -/
def firstIndex : Index :=
  (Index.build { config := { root := firstRoot }, root := firstRoot } twoDirectories (some firstRoot)
    none).1

/-- The tree after the first directory was indexed. -/
def firstIndexed : FileTree := (Workspace.save ⟨twoDirectories, firstIndex⟩ sharedDatabase "now").2.tree

theorem wf_twoDirectories : twoDirectories.WF := (wf_empty.put (by decide) rfl).put (by decide) rfl

/-- What the run in the first directory does to the tree, and what a further run there starts from. -/
theorem indexed_firstDirectory :
    savedTree? sharing twoDirectories ⟨.relative, ["a"]⟩ false [] = some firstIndexed ∧
    (Workspace.save ⟨twoDirectories, firstIndex⟩ sharedDatabase "now").1.toOption = some () ∧
    (newIndex firstIndexed firstRoot []).toOption =
      some { config := { root := firstRoot }, root := firstRoot } ∧
    ({ root := firstRoot } : Config).database sharing.database = sharedDatabase ∧
    (firstIndexed.look sharedDatabase).toOption.join.isSome = true ∧
    diskCopy twoDirectories ⟨.root, ["r", "a", "x.v"]⟩ =
      some ⟨"module x;\nendmodule\n".toList, false⟩ ∧
    ∀ tree ∈ [twoDirectories, firstIndexed],
      (Index.discover { root := firstRoot } tree firstRoot).1 = [⟨.root, ["r", "a", "x.v"]⟩] ∧
      tree.read? ⟨.root, ["r", "a", "x.v"]⟩ = some (Text.bytesOf "module x;\nendmodule\n") := by
  decide +kernel

theorem lived_firstIndexed : Lived firstIndexed := by
  have hnone : ∀ d, ¬twoDirectories.Holds d :=
    not_holds_put (by simp) (not_holds_put (by simp) not_holds_empty)
  have hparse : Invocation.parse ["index", "a"] =
      .ok { command := .ok (.index ⟨.relative, ["a"]⟩ false []) } := by rfl
  have hline : (runLine sharing twoDirectories ["index", "a"]).2 = firstIndexed :=
    (runLine_of_parse hparse).trans (runIndex_of_savedTree? indexed_firstDirectory.1).2
  rw [← hline]
  exact .line sharing _ (.start wf_twoDirectories fun d hd => absurd hd (hnone d)) (by decide)

/-- What the first directory is found to have saved. -/
theorem loadSnapshot_firstIndexed : ∃ g, firstIndexed.loadSnapshot sharedDatabase =
    (.ok ⟨firstIndex.root, firstIndex.table.list, firstIndex.allModules, firstIndex.allInstances,
      Database.sortRecords firstIndex.records, some g⟩, firstIndexed) := by
  have hreply : (Workspace.save ⟨twoDirectories, firstIndex⟩ sharedDatabase "now").1 = .ok () :=
    Except.eq_ok_of_toOption indexed_firstDirectory.2.1
  have hsavable : Savable firstIndex := savable_built wf_twoDirectories (by decide) _
  obtain ⟨g, -, hload⟩ := loadSnapshot_of_save hsavable (Prod.ext hreply rfl)
  exact ⟨g, hload⟩

/-- A run in the first directory starts from the index of its one text. -/
theorem startingIndex_firstIndexed : ∃ i copies,
    startingIndex sharing firstIndexed firstRoot false [] = (.ok (i, true), firstIndexed) ∧
      Continues i firstIndexed firstRoot ∧ i.config = { root := firstRoot } ∧ i.Represents copies ∧
      Set.InjOn Digest.sha256Hex (i.compared firstIndexed copies) := by
  obtain ⟨g, hload⟩ := loadSnapshot_firstIndexed
  obtain ⟨-, -, hnew, hdatabase, hsome, hcopy, hsame⟩ := indexed_firstDirectory
  let start : Index := { config := { root := firstRoot }, root := firstRoot }
  let found : Snapshot := ⟨firstIndex.root, firstIndex.table.list, firstIndex.allModules,
    firstIndex.allInstances, Database.sortRecords firstIndex.records, some g⟩
  have hroot : firstIndex.root = firstRoot := (Index.stays_build _ _ _ _).root
  have hbuilt : firstIndex.Represents _ := Index.Represents.build start wf_twoDirectories (by decide) none
  let copies : Path → Option Copy := fun f => (takenFrom twoDirectories
    (Index.reached none 0 (Index.discover start.config twoDirectories firstRoot).1)
      (fun _ => none) f).map Copy.saved
  have hfound : (start.restore found).Represents copies := hbuilt.restore start (some g)
  -- all that was taken in is the text of the one module
  have htaken (f : Path) (c : Copy) (hc : copies f = some c) :
      f = ⟨.root, ["r", "a", "x.v"]⟩ ∧ c.text = "module x;\nendmodule\n".toList := by
    obtain ⟨taken, htaken, rfl⟩ := Option.map_eq_some_iff.1 hc
    unfold takenFrom at htaken
    rw [(hsame twoDirectories (by simp)).1] at htaken
    split at htaken
    · rename_i hf
      obtain rfl := List.mem_singleton.1 hf
      rw [hcopy] at htaken
      cases htaken
      exact ⟨rfl, rfl⟩
    · cases htaken
  have hdiscover : (Index.discover (start.restore found).config firstIndexed
      (start.restore found).root).1 = [⟨.root, ["r", "a", "x.v"]⟩] := by
    rw [show (start.restore found).root = firstRoot from hroot]
    exact (hsame firstIndexed (by simp)).1
  refine ⟨start.restore found, copies, ?_, ⟨hroot, fun f hf => ?_⟩, rfl, hfound, ?_⟩
  · obtain ⟨entry, hentry⟩ := Option.isSome_iff_exists.1 hsome
    have hlook : firstIndexed.look sharedDatabase = .ok (some entry) :=
      Except.eq_ok_of_toOption (Option.join_eq_some_iff.1 hentry)
    rw [startingIndex_eq, Except.eq_ok_of_toOption hnew]
    simp only [Bool.false_eq_true, if_false, hdatabase, hlook, Workspace.load, hload]
    rfl
  · obtain ⟨⟨c, hc⟩, hgone⟩ := hfound.mem_gone.1 hf
    rw [hdiscover, (htaken f c hc).1] at hgone
    exact absurd List.mem_cons_self hgone
  · have hone : ∀ bytes ∈ (start.restore found).compared firstIndexed copies,
        bytes = Text.bytesOf "module x;\nendmodule\n" := by
      rintro bytes (⟨f, c, hc, rfl⟩ | ⟨f, hf, hr⟩)
      · rw [(htaken f c hc).2]
        rfl
      · rw [hdiscover, List.mem_singleton] at hf
        rw [hf, (hsame firstIndexed (by simp)).2] at hr
        exact (Option.some.inj hr).symm
    intro bytes hb bytes' hb' _
    rw [hone bytes hb, hone bytes' hb']

/-- In the first directory a run without force leaves the tree that a forced run leaves. -/
theorem forced_agrees_firstDirectory :
    SaveSame sharedDatabase (run sharing firstIndexed (.index ⟨.relative, ["a"]⟩ false [])).2
        (run sharing firstIndexed (.index ⟨.relative, ["a"]⟩ true [])).2 ∧
      (run sharing firstIndexed (.index ⟨.relative, ["a"]⟩ false [])).2 =
        (run sharing firstIndexed (.index ⟨.relative, ["a"]⟩ true [])).2 := by
  have hexits : ∀ force : Bool,
      (run sharing firstIndexed (.index ⟨.relative, ["a"]⟩ force [])).1.outcome.exit = 0 := by
    intro force
    have hsome : (savedTree? sharing firstIndexed ⟨.relative, ["a"]⟩ force []).isSome = true := by
      cases force <;> decide +kernel
    obtain ⟨u, hu⟩ := Option.isSome_iff_exists.1 hsome
    exact (runIndex_of_savedTree? hu).1
  obtain ⟨i, copies, hstart, hcontinues, hconfig, hc, hsha⟩ := startingIndex_firstIndexed
  obtain ⟨j, loaded, hstart', -, h⟩ := forced_agrees_iff lived_firstIndexed (by decide)
    ⟨by decide, by decide⟩ (hexits false) (hexits true)
  have hplace : placeFromHere sharing firstIndexed ⟨.relative, ["a"]⟩ = firstRoot := by decide +kernel
  rw [hplace] at hstart' h
  -- Both runs start from the same state, so the theorem is about the index computed above.
  obtain rfl : i = j := by
    have hsame := hstart.symm.trans hstart'
    cases hsame
    rfl
  have hfiles : ∀ f ∈ (Index.discover { root := firstRoot } firstIndexed firstRoot).1,
      (Index.extractFile firstIndexed f).toOption.isSome = true := by decide +kernel
  obtain ⟨hiff, htrees⟩ := h copies hc hsha fun f hf => by
    rw [hconfig] at hf
    obtain ⟨found, hfound⟩ := Option.isSome_iff_exists.1 (hfiles f hf)
    exact ⟨found, Except.eq_ok_of_toOption hfound⟩
  have hdatabase : i.config.database sharing.database = sharedDatabase := by
    rw [hconfig]
    decide +kernel
  rw [hdatabase] at hiff
  exact ⟨hiff.2 hcontinues, htrees hcontinues⟩

/-- In the second directory a run without force ends well and all its files can be taken in, but it
saves the index of the first directory again, where a forced run saves that of the second. -/
theorem second_not_indexed : Lived firstIndexed ∧
    (∃ c, Config.load firstIndexed secondRoot = .ok c ∧
      c.database sharing.database = sharedDatabase ∧
      ∀ f ∈ (Index.discover c firstIndexed secondRoot).1,
        ∃ found, Index.extractFile firstIndexed f = .ok found) ∧
    (run sharing firstIndexed (.index ⟨.relative, ["b"]⟩ false [])).1.outcome.exit = 0 ∧
    (run sharing firstIndexed (.index ⟨.relative, ["b"]⟩ true [])).1.outcome.exit = 0 ∧
    ¬ SaveSame sharedDatabase (run sharing firstIndexed (.index ⟨.relative, ["b"]⟩ false [])).2
      (run sharing firstIndexed (.index ⟨.relative, ["b"]⟩ true [])).2 := by
  have hruns : ∀ force : Bool, ∃ u, savedTree? sharing firstIndexed ⟨.relative, ["b"]⟩ force [] = some u ∧
      (u.loadSnapshot sharedDatabase).1.toOption.map (·.root) =
        some (if force then secondRoot else firstRoot) := by
    intro force
    have hroot : (savedTree? sharing firstIndexed ⟨.relative, ["b"]⟩ force []).bind
        (fun u => (u.loadSnapshot sharedDatabase).1.toOption.map (·.root)) =
          some (if force then secondRoot else firstRoot) := by
      cases force <;> decide +kernel
    exact Option.bind_eq_some_iff.1 hroot
  obtain ⟨u, hu, hkept⟩ := hruns false
  obtain ⟨v, hv, hforced⟩ := hruns true
  obtain ⟨hexit, htree⟩ := runIndex_of_savedTree? hu
  obtain ⟨hexit', htree'⟩ := runIndex_of_savedTree? hv
  have hfiles : ∀ f ∈ (Index.discover { root := secondRoot } firstIndexed secondRoot).1,
      (Index.extractFile firstIndexed f).toOption.isSome = true := by decide +kernel
  refine ⟨lived_firstIndexed, ⟨{ root := secondRoot }, ?_, ?_, fun f hf => ?_⟩, hexit, hexit', ?_⟩
  · exact Except.eq_ok_of_toOption (by decide +kernel)
  · decide +kernel
  · obtain ⟨found, hfound⟩ := Option.isSome_iff_exists.1 (hfiles f hf)
    exact ⟨found, Except.eq_ok_of_toOption hfound⟩
  · rw [show (run sharing firstIndexed (.index ⟨.relative, ["b"]⟩ false [])).2 = u from htree,
      show (run sharing firstIndexed (.index ⟨.relative, ["b"]⟩ true [])).2 = v from htree']
    rintro ⟨s, s', hs, hs', hsame⟩
    rw [hs] at hkept
    rw [hs'] at hforced
    have hroots : firstRoot = secondRoot :=
      (Option.some.inj hkept).symm.trans (hsame.root.trans (Option.some.inj hforced))
    exact absurd hroots (by decide)

end Command

end RtlAtlas
