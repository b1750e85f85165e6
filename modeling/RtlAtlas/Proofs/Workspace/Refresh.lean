/-
Refreshing agrees with building anew. Whatever an index holds, from a stopped build, from texts handed
over in memory or from a database, and whatever the tree has become: after a refresh that is not
cancelled nothing is left of files that are gone, files that can be taken in are known as a new build
would know them, and the others as they were before.

This fails for paths that are gone because a link stands on them now. What was known under such a path
stays, and what is dropped in its place is the file that the path leads to.
-/
import RtlAtlas.Proofs.Index.Refresh
import RtlAtlas.Proofs.Workspace.Coherence

namespace RtlAtlas

open OrderedMap

namespace Index

/-- What a refresh of an index over a tree leaves, next to what a new build makes. -/
structure Refreshed (before : Index) (tree : FileTree) (after built : Index) (stats : Stats) :
    Prop where
  /-- Nothing is left of a file that is not discovered, if its path does not lead elsewhere. -/
  gone : ∀ f, f ∉ (discover before.config tree before.root).1 → tree.place f = f →
    after.listed f = ⟨[], [], [], none⟩ ∧ after.contents.get? f = none
  /-- What was held under a path that leads elsewhere is kept. -/
  linked : ∀ f, f ∉ (discover before.config tree before.root).1 → tree.place f ≠ f →
    after.listed f = before.listed f ∧ after.contents.get? f = before.contents.get? f
  /-- A file that holds strict UTF-8 without NUL is listed as a new build lists it. -/
  agrees : ∀ f ∈ (discover before.config tree before.root).1, ∀ bytes text,
    tree.read? f = some bytes → Text.decode? bytes = some text → Char.ofNat 0 ∉ text →
    after.listed f = built.listed f
  /-- What was held for a file that cannot be taken in is kept, if no path that is gone leads to it. -/
  kept : ∀ f ∈ (discover before.config tree before.root).1, ∀ error,
    extractFile tree f = .error error → (∀ g ∈ before.gone tree, tree.place g ≠ f) →
    after.listed f = before.listed f ∧ after.contents.get? f = before.contents.get? f
  /-- It is lost if one does. -/
  lost : ∀ g ∈ before.gone tree, ∀ error, extractFile tree (tree.place g) = .error error →
    after.listed (tree.place g) = ⟨[], [], [], none⟩ ∧ after.contents.get? (tree.place g) = none
  counted : stats.files + stats.errors.length + stats.unchanged =
    (discover before.config tree before.root).1.length
  removed : stats.removed = (before.records.filter fun r =>
    r.path ∉ (discover before.config tree before.root).1).length
  /-- If every file can be taken in, the listings agree as a whole, exactly as long as no path that is
  gone leads elsewhere. -/
  same : (∀ f ∈ (discover before.config tree before.root).1, ∃ found, extractFile tree f = .ok found) →
    ((after.table.list = built.table.list ∧ after.allModules = built.allModules ∧
      after.allInstances = built.allInstances ∧ after.records = built.records) ↔
        ∀ f ∈ before.gone tree, tree.place f = f)

variable {i j : Index} {copies : Path → Option Copy} {tree : FileTree}

theorem length_gone (i : Index) (tree : FileTree) : (i.gone tree).length =
    (i.records.filter fun r => r.path ∉ (discover i.config tree i.root).1).length := by
  have hr : i.records.filter (fun r => r.path ∉ (discover i.config tree i.root).1) =
      ((Path.sortByParts i.hashes.keys).filter fun f => f ∉ (discover i.config tree i.root).1).map
        fun f => ⟨f, (i.hashes.get? f).getD ""⟩ := by
    unfold records
    rw [List.filter_map]
    rfl
  rw [hr, List.length_map, ((Path.perm_sortByParts _).filter _).length_eq]
  unfold gone
  congr 1
  refine List.filter_congr fun f _ => ?_
  simp

/-- The copies of a build that comes to all files. -/
def builtCopies (i : Index) (tree : FileTree) : Path → Option Copy :=
  takenFrom tree (discover i.config tree i.root).1 fun _ => none

theorem Represents.build_all (hi : i.root.Resolved) (ht : tree.WF) (hj : j.config = i.config) :
    (j.build tree (some i.root) none).1.Represents (i.builtCopies tree) := by
  have hbuilt := Represents.build j ht hi none
  rw [hj] at hbuilt
  exact hbuilt

theorem Represents.refresh_all (h : i.Represents copies) (hi : i.root.Resolved) (ht : tree.WF)
    {stopAfter : Option Int} (hall : reached stopAfter 0 (i.fresh tree) = i.fresh tree) :
    (i.refresh tree stopAfter).1.Represents (i.allRefreshed tree copies) := by
  have hrefreshed := h.refresh hi ht stopAfter
  rwa [refreshedCopies, hall] at hrefreshed

/-- A refresh and a build take the same text of a file in that can be taken in. -/
theorem Represents.texts_agree (h : i.Represents copies)
    (hsha : Set.InjOn Digest.sha256Hex (i.compared tree copies)) {f : Path}
    (hf : f ∈ (discover i.config tree i.root).1) {found : Source.Extraction × List Char}
    (hx : extractFile tree f = .ok found) :
    textsOf (i.allRefreshed tree copies) f = textsOf (i.builtCopies tree) f := by
  rw [h.refreshed_of_ok hsha hf hx]
  unfold textsOf builtCopies takenFrom
  rw [if_pos hf, diskCopy_of_ok hx]
  rfl

/-- A path that is gone and leads elsewhere keeps its record, which a build does not make. -/
theorem Represents.places_of_records (h : i.Represents copies) (ht : tree.WF) {after built : Index}
    (ha : after.Represents (i.allRefreshed tree copies)) (hb : built.Represents (i.builtCopies tree))
    (hrecords : ∀ r ∈ after.records, r ∈ built.records) : ∀ f ∈ i.gone tree, tree.place f = f := by
  intro f hf
  obtain ⟨⟨c, hc⟩, hgone⟩ := h.mem_gone.1 hf
  by_contra hplace
  have hkept : f ∈ after.records.map (·.path) := by
    rw [ha.mem_records, h.refreshed_of_notMem ht hgone, if_neg hplace]
    exact ⟨c, hc⟩
  obtain ⟨r, hr, hpath⟩ := List.mem_map.1 hkept
  have hmade : f ∈ built.records.map (·.path) := List.mem_map.2 ⟨r, hrecords r hr, hpath⟩
  rw [hb.mem_records, builtCopies, takenFrom, if_neg hgone] at hmade
  obtain ⟨c', hc'⟩ := hmade
  cases hc'

/-- If every file can be taken in, a refresh lists what a build lists exactly if no path that is gone leads
elsewhere. -/
theorem Represents.listings_agree_iff (h : i.Represents copies) (ht : tree.WF)
    (hsha : Set.InjOn Digest.sha256Hex (i.compared tree copies)) {after built : Index}
    (ha : after.Represents (i.allRefreshed tree copies)) (hb : built.Represents (i.builtCopies tree))
    (hroot : after.root = built.root)
    (hok : ∀ f ∈ (discover i.config tree i.root).1, ∃ found, extractFile tree f = .ok found) :
    (after.table.list = built.table.list ∧ after.allModules = built.allModules ∧
      after.allInstances = built.allInstances ∧ after.records = built.records) ↔
        ∀ f ∈ i.gone tree, tree.place f = f := by
  have hout : ∀ f, f ∉ (discover i.config tree i.root).1 → i.builtCopies tree f = none := fun f hf =>
    if_neg hf
  constructor
  · rintro ⟨-, -, -, hrecords⟩
    exact h.places_of_records ht ha hb fun r hr => hrecords ▸ hr
  · intro hplaces
    have htexts : textsOf (i.allRefreshed tree copies) = textsOf (i.builtCopies tree) := by
      funext f
      by_cases hf : f ∈ (discover i.config tree i.root).1
      · obtain ⟨found, hx⟩ := hok f hf
        exact h.texts_agree hsha hf hx
      · -- nothing is left of what a build does not come to, as nothing leads elsewhere
        have hnone : i.allRefreshed tree copies f = none := by
          rw [h.refreshed_of_notMem ht hf]
          split
          · rfl
          · rename_i hplace
            exact Option.eq_none_iff_forall_ne_some.2 fun c hc =>
              hplace (hplaces f (h.mem_gone.2 ⟨⟨c, hc⟩, hf⟩))
        unfold textsOf
        rw [hnone, hout f hf]
    exact ⟨ha.list_eq hb hroot htexts, ha.allModules_eq hb htexts, ha.allInstances_eq hb htexts,
      ha.records_eq hb htexts⟩

/-- A refresh that comes to all its files leaves what it should. -/
theorem Represents.refreshed (h : i.Represents copies) (hi : i.root.Resolved) (ht : tree.WF)
    {stopAfter : Option Int}
    (hc : (i.refresh tree stopAfter).2.1.cancelled = false)
    (hsha : Set.InjOn Digest.sha256Hex (i.compared tree copies)) (hj : j.config = i.config) :
    Refreshed i tree (i.refresh tree stopAfter).1 (j.build tree (some i.root) none).1
      (i.refresh tree stopAfter).2.1 := by
  obtain ⟨hall, hcount, hremoved⟩ := counts_refresh hc
  have hafter := h.refresh_all hi ht hall
  have hbuilt := Represents.build_all hi ht hj
  have hroot := (stays_refresh i tree stopAfter).root
  have hroots : (i.refresh tree stopAfter).1.root = (j.build tree (some i.root) none).1.root :=
    hroot.trans (stays_build j tree i.root none).root.symm
  -- what is left under a path whose copy is gone, and what is kept under one whose copy stays
  have hempty : ∀ f, i.allRefreshed tree copies f = none →
      (i.refresh tree stopAfter).1.listed f = ⟨[], [], [], none⟩ ∧
        (i.refresh tree stopAfter).1.contents.get? f = none := fun f hnone =>
    ⟨hafter.listed_of_none hnone, by rw [hafter.contents, hnone]; rfl⟩
  have hstays : ∀ f, i.allRefreshed tree copies f = copies f →
      (i.refresh tree stopAfter).1.listed f = i.listed f ∧
        (i.refresh tree stopAfter).1.contents.get? f = i.contents.get? f := fun f hsame =>
    ⟨hafter.listed_eq h hroot (by unfold textsOf; rw [hsame]), by rw [hafter.contents, hsame, h.contents]⟩
  refine ⟨fun f hf hplace => hempty f ?_, fun f hf hplace => hstays f ?_,
    fun f hf bytes text hr hd hn => ?_, fun f hf error hx hfree => hstays f ?_,
    fun g hg error hx => hempty _ ?_, hcount, hremoved.trans (length_gone i tree),
    h.listings_agree_iff ht hsha hafter hbuilt hroots⟩
  · rw [h.refreshed_of_notMem ht hf, if_pos hplace]
  · rw [h.refreshed_of_notMem ht hf, if_neg hplace]
  · obtain ⟨e, hx⟩ := extractFile_of_bytes hr hd hn
    exact hafter.listed_eq hbuilt hroots (h.texts_agree hsha hf hx)
  · rw [refreshed_of_error (diskCopy_of_error hx), if_neg]
    intro hdropped
    obtain ⟨g, hg, hplace⟩ := List.mem_map.1 hdropped
    exact hfree g hg hplace
  · have hdropped : tree.place g ∈ i.dropped tree := List.mem_map_of_mem hg
    rw [refreshed_of_error (diskCopy_of_error hx), if_pos hdropped]

end Index

namespace Workspace

variable {w : Workspace}

/-- The same module at `/s/a.v`, to which the old path leads as well. -/
def linked : FileTree :=
  (FileTree.empty.write ⟨.root, ["s", "a.v"]⟩ (Text.bytesOf "module m; endmodule")).put
    ⟨.root, ["r", "v"]⟩ (.link ⟨.root, ["s"]⟩)

end Workspace

end RtlAtlas
