/-
Indexes that look alike from outside: they answer every question about symbols, modules, instances,
records and sizes in the same way. Two indexes with one root that represent the same texts look alike
once their graphs agree, and stay alike when both are refreshed over the same tree, with the same
counts and reports: whether a text came from memory or from disk does not matter to a refresh.
-/
import RtlAtlas.Proofs.Graph.Shape
import RtlAtlas.Proofs.Index.Refresh

namespace RtlAtlas

open OrderedMap

namespace Table

/-- Tables with the same symbols find the same ones under a name, in the same order. -/
theorem WF.findByName_eq {t u : Table} (ht : t.WF) (hu : u.WF) (h : ∀ k, t.get? k = u.get? k)
    (hapart : Symbol.Apart t.symbols.values) (name : String) :
    t.findByName name = u.findByName name := by
  have hp := ht.perm_idsAt ht.byName name
  have hq := hu.perm_idsAt hu.byName name
  refine Symbol.sort_eq_of_perm (hp.trans (((ht.perm_values hu h).filter _).trans hq.symm))
    fun a ha b hb => ?_
  exact hapart a (List.mem_filter.1 (hp.mem_iff.1 ha)).1 b (List.mem_filter.1 (hp.mem_iff.1 hb)).1

theorem WF.size_eq {t u : Table} (ht : t.WF) (hu : u.WF) (h : ∀ k, t.get? k = u.get? k) :
    t.size = u.size := by
  have hlength := (ht.perm_values hu h).length_eq
  unfold OrderedMap.values at hlength
  rwa [List.length_map, List.length_map] at hlength

end Table

namespace Index

/-- Indexes that answer questions in the same way. -/
structure Alike (i j : Index) : Prop where
  root : i.root = j.root
  symbols : i.table.list = j.table.list
  findByName : ∀ name, i.table.findByName name = j.table.findByName name
  symbolsIn : ∀ file, i.symbolsIn file = j.symbolsIn file
  modules : i.allModules = j.allModules
  instances : i.allInstances = j.allInstances
  records : i.records = j.records
  sizes : i.sizes.1 = j.sizes.1

variable {i j : Index} {copies copies' : Path → Option Copy} {tree : FileTree}

/-! ## Same texts -/

/-- Indexes with the same texts and graphs that agree answer in the same way. -/
theorem Represents.alike (hi : i.Represents copies) (hj : j.Represents copies')
    (hr : i.root = j.root) (ht : textsOf copies = textsOf copies')
    (hg : i.withGraph.1.Agrees j.withGraph.1) : i.Alike j := by
  have hget := hi.get?_eq hj hr ht
  have hfiles : i.hashes.size = j.hashes.size := by
    have hlength := (hi.perm_recorded hj ht).length_eq
    unfold OrderedMap.keys at hlength
    rwa [List.length_map, List.length_map] at hlength
  have hedges : i.withGraph.1.edgeCount = j.withGraph.1.edgeCount := by
    unfold Graph.edgeCount Graph.edges
    rw [hg.children]
  have hmodules := hi.allModules_eq hj ht
  have hinstances := hi.allInstances_eq hj ht
  refine ⟨hr, hi.list_eq hj hr ht, hi.table.findByName_eq hj.table hget hi.apart, fun file =>
    hi.inFile_congr hj hr (congrFun ht _), hmodules, hinstances, hi.records_eq hj ht, ?_⟩
  unfold sizes
  simp only [hfiles, hi.table.size_eq hj.table hget, hmodules, hinstances, hg.nodes, hedges, hg.flows]

/-! ## Refreshing both -/

theorem indexFile_snd_eq (tree : FileTree) (i j : Index) (s : Stats) (file : Path) :
    (indexFile tree i s file).2 = (indexFile tree j s file).2 := by
  unfold indexFile
  cases extractFile tree file <;> rfl

/-- What a run counts and reports does not depend on the index that takes the files in. -/
theorem indexFiles_snd_eq (stopAfter : Option Int) (total : Nat) : ∀ (fs : List Path) (done : Nat)
    (i j : Index) (s : Stats), (indexFiles tree stopAfter total done i s fs).2 =
      (indexFiles tree stopAfter total done j s fs).2
  | [], _, _, _, _ => rfl
  | f :: fs, done, i, j, s => by
    rw [indexFiles, indexFiles]
    simp only [indexFile_snd_eq tree i j s f]
    split
    · rfl
    · have ih := indexFiles_snd_eq stopAfter total fs (done + 1) (indexFile tree i s f).1
        (indexFile tree j s f).1 (indexFile tree j s f).2
      simp only [ih]

theorem Represents.perm_gone (hi : i.Represents copies) (hj : j.Represents copies')
    (hr : i.root = j.root) (hc : i.config = j.config) (ht : textsOf copies = textsOf copies') :
    (i.gone tree).Perm (j.gone tree) := by
  unfold gone
  rw [hr, hc]
  exact (hi.perm_recorded hj ht).filter _

/-- Of indexes with the same texts, the same texts are kept when files that are gone are dropped. -/
theorem Represents.textsOf_without (hi : i.Represents copies) (hj : j.Represents copies')
    (hr : i.root = j.root) (hc : i.config = j.config) (ht : textsOf copies = textsOf copies') :
    textsOf (without (i.dropped tree) copies) = textsOf (without (j.dropped tree) copies') := by
  funext f
  have hdropped : f ∈ i.dropped tree ↔ f ∈ j.dropped tree :=
    ((hi.perm_gone hj hr hc ht).map tree.place).mem_iff
  have htext : (copies f).map (·.text) = (copies' f).map (·.text) := congrFun ht f
  unfold textsOf without
  by_cases hf : f ∈ i.dropped tree
  · rw [if_pos hf, if_pos (hdropped.1 hf)]
  · rw [if_neg hf, if_neg (hdropped.not.1 hf), htext]

theorem Represents.fresh_eq (hi : i.Represents copies) (hj : j.Represents copies')
    (hr : i.root = j.root) (hc : i.config = j.config) (ht : textsOf copies = textsOf copies') :
    i.fresh tree = j.fresh tree := by
  unfold fresh
  rw [hr, hc]
  refine List.filter_congr fun f _ => ?_
  rw [hi.foldl_dropFile.hash_eq, hj.foldl_dropFile.hash_eq, hi.textsOf_without hj hr hc ht]

/-- Refreshing indexes with the same texts counts and reports the same. -/
theorem Represents.refresh_snd_eq (hi : i.Represents copies) (hj : j.Represents copies')
    (hr : i.root = j.root) (hc : i.config = j.config) (ht : textsOf copies = textsOf copies')
    (stopAfter : Option Int) : (i.refresh tree stopAfter).2 = (j.refresh tree stopAfter).2 := by
  have hfresh : i.fresh tree = j.fresh tree := hi.fresh_eq hj hr hc ht
  have hgone : (i.gone tree).length = (j.gone tree).length := (hi.perm_gone hj hr hc ht).length_eq
  have hrun (k : Index) : (k.refresh tree stopAfter).2 =
      (indexFiles tree stopAfter (k.fresh tree).length 0 ((k.dropped tree).foldl Index.dropFile k)
        { skipped := (discover k.config tree k.root).2, removed := (k.gone tree).length,
          unchanged := (discover k.config tree k.root).1.length - (k.fresh tree).length }
        (k.fresh tree)).2 := rfl
  rw [hrun i, hrun j, hfresh, hgone, hr, hc]
  exact indexFiles_snd_eq stopAfter _ _ _ _ _ _

/-- Refreshing indexes with the same texts leaves the same texts. -/
theorem Represents.textsOf_refreshed (hi : i.Represents copies) (hj : j.Represents copies')
    (hr : i.root = j.root) (hc : i.config = j.config) (ht : textsOf copies = textsOf copies')
    (stopAfter : Option Int) : textsOf (i.refreshedCopies tree stopAfter copies) =
      textsOf (j.refreshedCopies tree stopAfter copies') := by
  have hfresh : i.fresh tree = j.fresh tree := hi.fresh_eq hj hr hc ht
  funext f
  have htext : (without (i.dropped tree) copies f).map (·.text) =
      (without (j.dropped tree) copies' f).map (·.text) := congrFun (hi.textsOf_without hj hr hc ht) f
  unfold refreshedCopies textsOf takenFrom
  rw [hfresh]
  -- a file that cannot be taken in keeps its copy, if that was not dropped
  split
  · cases diskCopy tree f with
    | some c => rfl
    | none => simpa using htext
  · exact htext

/-- Refreshing indexes with the same texts keeps them alike. -/
theorem Represents.alike_refresh (hi : i.Represents copies) (hj : j.Represents copies')
    (hr : i.root = j.root) (hc : i.config = j.config) (ht : textsOf copies = textsOf copies')
    (hroot : i.root.Resolved) (hw : tree.WF) (stopAfter : Option Int) :
    (i.refresh tree stopAfter).1.Alike (j.refresh tree stopAfter).1 := by
  have hi' := hi.refresh hroot hw stopAfter
  have hj' := hj.refresh (hr ▸ hroot) hw stopAfter
  have htexts : textsOf (i.refreshedCopies tree stopAfter copies) =
      textsOf (j.refreshedCopies tree stopAfter copies') := hi.textsOf_refreshed hj hr hc ht stopAfter
  have hroots : (i.refresh tree stopAfter).1.root = (j.refresh tree stopAfter).1.root := by
    rw [(stays_refresh i tree stopAfter).root, (stays_refresh j tree stopAfter).root, hr]
  refine hi'.alike hj' hroots htexts ?_
  rw [withGraph_of_none (graph_refresh i tree stopAfter),
    withGraph_of_none (graph_refresh j tree stopAfter), hi'.freshGraph_eq hj' htexts]
  exact Graph.Agrees.refl _

end Index

end RtlAtlas
