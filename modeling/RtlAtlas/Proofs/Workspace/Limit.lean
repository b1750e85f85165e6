/-
How many lines a text search may show. With a larger limit no line is lost and none changes places,
and there are as many lines as the limit lets be; but lines that were not shown before may come in
anywhere, because the scan stops at files listed by the components of their paths while the lines are
listed by the text of the paths. Only where the two lists agree does a limit just cut off the tail.
-/
import RtlAtlas.Proofs.Search.Limit
import RtlAtlas.Proofs.Search.Ranking
import RtlAtlas.Proofs.Workspace.TextSearch

namespace RtlAtlas

open OrderedMap Search LineMatch

namespace Index

/-- An index that may show another number of lines. -/
def limited (i : Index) (limit : Nat) : Index :=
  { i with config := { i.config with maxTextResults := limit } }

/-- The lines on disk that hold a query, as the files are looked through. -/
def diskLines (i : Index) (tree : FileTree) (query : String) : List LineMatch :=
  i.wholeScope.diskFiles.flatMap (fileMatches tree.read? query)

/-- The scan is the first of the backends that does not fail, however many lines may be shown. -/
def Scans (i : Index) (tree : FileTree) (rg gr : Program) (query : String) : Prop :=
  ∃ failing rest, i.config.backends.filterMap (toolsOn tree rg gr) =
      failing ++ scanBackend tree.read? :: rest ∧
    ∀ b ∈ failing, ∀ limit, b.Fails query i.wholeScope.diskFiles limit

variable {i : Index} {copies : Path → Option Copy} {tree : FileTree} {rg gr : Program} {query : String}

theorem scans_of_head? (h : i.config.backends.head? = some "scan") (tree : FileTree) (rg gr : Program)
    (query : String) : i.Scans tree rg gr query := by
  obtain ⟨rest, hrest⟩ := List.head?_eq_some_iff.1 h
  refine ⟨[], rest.filterMap (toolsOn tree rg gr), ?_, fun b hb => absurd hb List.not_mem_nil⟩
  rw [hrest]
  rfl

/-- Backends that fail are passed over. -/
theorem searchDiskFrom_append (files : List Path) (limit : Int) (bs : List Backend) :
    ∀ (failing : List Backend) (failures : List (String × String)),
      (∀ b ∈ failing, b.Fails query files limit) →
      ∃ failures', searchDiskFrom query files limit failures (failing ++ bs) =
        searchDiskFrom query files limit failures' bs
  | [], failures, _ => ⟨failures, rfl⟩
  | b :: failing, failures, h => by
    have hrest := searchDiskFrom_append files limit bs failing
    rw [List.cons_append, searchDiskFrom]
    rcases h b List.mem_cons_self with habsent | ⟨cause, hcause⟩
    · rw [habsent]
      exact hrest _ fun c hc => h c (List.mem_cons_of_mem b hc)
    · cases b.available with
      | false => exact hrest _ fun c hc => h c (List.mem_cons_of_mem b hc)
      | true =>
        rw [hcause]
        exact hrest _ fun c hc => h c (List.mem_cons_of_mem b hc)

theorem Scans.searchDisk (h : i.Scans tree rg gr query) {limit : Nat} (hlimit : 1 ≤ limit) :
    searchDisk (i.config.backends.filterMap (toolsOn tree rg gr)) query i.wholeScope.diskFiles limit =
      .ok ((i.diskLines tree query).take limit) := by
  obtain ⟨failing, rest, hsplit, hfailing⟩ := h
  obtain ⟨failures, hfrom⟩ := searchDiskFrom_append i.wholeScope.diskFiles limit
    (scanBackend tree.read? :: rest) failing [] fun b hb => hfailing b hb limit
  have hfound : scanFrom tree.read? query limit [] i.wholeScope.diskFiles =
      (i.diskLines tree query).take limit := by
    rw [scanFrom_eq (by rw [List.length_nil]; omega), List.nil_append, takeTo, if_pos (by omega)]
    rfl
  rw [Search.searchDisk, hsplit, hfrom, ← hfound]
  rfl

theorem Represents.apart_lines (h : i.Represents copies) (tree : FileTree) (query : String) :
    Apart (i.diskLines tree query ++ searchMemory query i.contents) := by
  refine Apart.perm ?_ (h.perm_linesShown tree query).symm
  exact apart_flatMap h.uniqueHashes (fun f hf => (h.recorded_resolved hf).proper)
    (fun _ _ hm => file_of_mem_linesShown hm) (apart_linesShown tree i.contents.get? query)

/-- An index without files has no lines. -/
theorem Represents.lines_eq_nil (h : i.Represents copies) (hnone : i.hashes.keys = []) (tree : FileTree)
    (query : String) : i.diskLines tree query = [] ∧ searchMemory query i.contents = [] := by
  have hperm := h.perm_linesShown tree query
  rw [hnone, List.flatMap_nil, List.perm_nil, List.append_eq_nil_iff] at hperm
  exact hperm

/-- The lines that a search shows: those found within the limit, sorted and cut at the limit. -/
theorem Represents.searchOn_limited (h : i.Represents copies)
    (hscope : i.searchable = false → i.hashes.keys = []) (hscans : i.Scans tree rg gr query)
    (hquery : query.toList.all Text.isBlank = false) {limit : Nat} (hlimit : 1 ≤ limit) :
    (i.limited limit).searchOn tree rg gr query (some "text") =
      .ok ((shownUpTo (i.diskLines tree query) (searchMemory query i.contents) limit).map lineHit) := by
  have hsorted := pairwise_shownUpTo (h.apart_lines tree query) limit
  rw [searchOn_text _ tree rg gr hquery]
  cases hsearchable : i.searchable with
  | false =>
    -- nothing was indexed: no lines on either side
    obtain ⟨hdisk, hmemory⟩ := h.lines_eq_nil (hscope hsearchable) tree query
    have hnone : (i.limited limit).scope = none := by
      show (if i.searchable then _ else none) = none
      rw [hsearchable]
      rfl
    have hempty : LineMatch.sort [] = [] := List.mergeSort_nil
    rw [hnone, ← sort_map_lineHit hsorted, hdisk, hmemory, shownUpTo, List.take_nil, List.append_nil,
      hempty, List.take_nil]
    rfl
  | true =>
    have hwhole : (i.limited limit).scope = some i.wholeScope := by
      show (if i.searchable then some i.wholeScope else none) = _
      rw [hsearchable]
      rfl
    have hdisk := hscans.searchDisk hlimit
    rw [hwhole, searchLines, searchText]
    show Except.map Hit.sort (Except.map _ (Except.map _ (Search.searchDisk
      (i.config.backends.filterMap (toolsOn tree rg gr)) query i.wholeScope.diskFiles limit))) = _
    rw [hdisk, ← sort_map_lineHit hsorted]
    -- the backends cut the lines of the disk, the search cuts all lines once they are in order
    have hcut : takeTo (limit : Int) (LineMatch.sort ((i.diskLines tree query).take limit ++
        searchMemory query i.contents)) =
        shownUpTo (i.diskLines tree query) (searchMemory query i.contents) limit := by
      rw [takeTo, if_pos (by omega)]
      rfl
    rw [← hcut]
    rfl

/-- Any way of asking shows the lines that asking for text shows, or shows none whatever the limit. -/
theorem searchOn_mode (i : Index) (tree : FileTree) (rg gr : Program) (query : String)
    (mode : Option String) :
    (∀ limit, (i.limited limit).searchOn tree rg gr query mode =
      (i.limited limit).searchOn tree rg gr query (some "text")) ∨
    ∃ answer, (∀ limit, (i.limited limit).searchOn tree rg gr query mode = answer) ∧
      ∀ hits, answer = .ok hits → ∀ hit ∈ hits, hit.origin = .symbol := by
  by_cases hblank : query.toList.all Text.isBlank = true
  · refine .inl fun limit => ?_
    rw [searchOn, searchOn, Search.search, Search.search, if_pos hblank, if_pos hblank]
  · cases hmode : Mode.ofWord mode with
    | error e =>
      refine .inr ⟨.error e, fun limit => ?_, fun hits h => by cases h⟩
      rw [searchOn, Search.search, if_neg hblank, hmode]
      rfl
    | ok wanted =>
      generalize hfound : (if wanted = .symbols then searchSymbols i.table query else []) = found
      have hmode (limit : Nat) := search_of_mode i.table (i.config.backends.filterMap (toolsOn tree rg gr))
        i.scope limit hblank hmode hfound
      by_cases hlook : (found.isEmpty || decide (wanted = .text)) = true
      · -- there is no symbol among the hits, so they are the lines that are found for any mode
        refine .inl fun limit => ?_
        have hnone : found = [] := by
          rcases Bool.or_eq_true_iff.1 hlook with hempty | htext
          · exact List.isEmpty_iff.1 hempty
          · rw [← hfound, of_decide_eq_true htext]
            rfl
        have htext := search_of_mode i.table (i.config.backends.filterMap (toolsOn tree rg gr)) i.scope
          limit hblank (rfl : Mode.ofWord (some "text") = .ok .text) rfl
        refine (hmode limit).trans (Eq.trans ?_ htext.symm)
        rw [if_pos hlook, hnone]
        rfl
      · refine .inr ⟨.ok (Hit.sort found), fun limit => (hmode limit).trans (if_neg hlook), ?_⟩
        rintro hits hhits hit hhit
        cases hhits
        have hsymbol := List.mem_mergeSort.1 hhit
        rw [← hfound] at hsymbol
        split at hsymbol
        · obtain ⟨s, -, hs⟩ := List.mem_filterMap.1 hsymbol
          unfold symbolHit? at hs
          simp only at hs
          split at hs
          · cases hs; rfl
          · cases hs
        · cases hsymbol

theorem file_of_mem_fileMatches {f : Path} {m : LineMatch} (h : m ∈ fileMatches tree.read? query f) :
    m.file = f := by
  unfold fileMatches at h
  split at h
  · cases h
  · exact file_of_mem_scanLines h

/-- Where files that hold a query are listed by their texts too, their lines are sorted as they are
come across. -/
theorem pairwise_diskLines
    (h : (i.wholeScope.diskFiles.filter fun f => fileMatches tree.read? query f ≠ []).Pairwise
      fun f g => compare f.text g.text = .lt) : (i.diskLines tree query).Pairwise Before := by
  rw [diskLines, ← flatMap_filter_ne_nil]
  refine List.pairwise_flatMap.2 ⟨fun f _ => ?_, ?_⟩
  · unfold fileMatches
    cases tree.read? f with
    | none => exact List.Pairwise.nil
    | some bytes =>
      refine (pairwise_scanLines f _ _).imp_of_mem fun {a b} ha hb hlt => ?_
      have hfile : a.file = b.file := (file_of_mem_scanLines ha).trans (file_of_mem_scanLines hb).symm
      have htie : compare b.file.text b.file.text = .eq := Std.ReflCmp.compare_self
      rw [Before, LineMatch.ord, hfile, htie]
      exact compare_lt_iff_lt.2 hlt
  · refine h.imp fun {f g} hlt a ha b hb => ?_
    rw [Before, LineMatch.ord, file_of_mem_fileMatches ha, file_of_mem_fileMatches hb, hlt]
    rfl

end Index

namespace Workspace

variable {w : Workspace}

/-- A text search by the scan never fails. With a larger limit it shows as many more lines as there
are, all those it has shown before and in the same order. A smaller limit cuts off the tail only,
exactly if no line on disk is come across later than its place among all lines by file and line; so it
does where the files on disk that hold the query are listed by the text of their paths too. -/
theorem limit_keeps_lines (h : w.Reachable) (rg gr : Program) {query : String}
    (hquery : query.toList.all Text.isBlank = false) (hscans : w.index.Scans w.tree rg gr query) :
    let disk := w.index.diskLines w.tree query
    let memory := searchMemory query w.index.contents
    ∃ shown : Nat → List LineMatch,
      (∀ limit, 1 ≤ limit → (w.index.limited limit).searchOn w.tree rg gr query (some "text") =
        .ok ((shown limit).map lineHit)) ∧
      (∀ mode, (∀ limit, (w.index.limited limit).searchOn w.tree rg gr query mode =
          (w.index.limited limit).searchOn w.tree rg gr query (some "text")) ∨
        ∃ answer, (∀ limit, (w.index.limited limit).searchOn w.tree rg gr query mode = answer) ∧
          ∀ hits, answer = .ok hits → ∀ hit ∈ hits, hit.origin = .symbol) ∧
      (∀ limit, (shown limit).Pairwise Before ∧
        (shown limit).length = min limit (disk.length + memory.length) ∧
        shown limit ⊆ disk ++ memory) ∧
      (∀ limit limit', 1 ≤ limit → limit ≤ limit' → (shown limit).Sublist (shown limit')) ∧
      ((∀ limit limit', 1 ≤ limit → limit ≤ limit' → shown limit <+: shown limit') ↔
        ∀ m ∈ disk, disk.idxOf m ≤ rankIn (disk ++ memory) m) ∧
      ((w.index.wholeScope.diskFiles.filter fun f => fileMatches w.tree.read? query f ≠ []).Pairwise
          (fun f g => compare f.text g.text = .lt) →
        ∀ limit limit', 1 ≤ limit → limit ≤ limit' → shown limit <+: shown limit') := by
  intro disk memory
  obtain ⟨-, copies, hc⟩ := h.kept.index
  have hapart : Apart (disk ++ memory) := hc.apart_lines w.tree query
  refine ⟨shownUpTo disk memory, fun limit hlimit => hc.searchOn_limited h.watched hscans hquery hlimit,
    fun mode => Index.searchOn_mode w.index w.tree rg gr query mode, fun limit => ⟨?_, ?_, ?_⟩,
    fun limit limit' _ hle => shownUpTo_sublist hapart hle, shownUpTo_prefix_iff hapart, fun hfiles => ?_⟩
  · exact pairwise_shownUpTo hapart limit
  · exact length_shownUpTo disk memory limit
  · intro m hm
    refine List.mem_append.2 (((mem_shownUpTo hapart).1 hm).1.imp_left fun hd => ?_)
    exact List.mem_of_mem_take hd
  · exact (shownUpTo_prefix_iff hapart).2 (inTime_of_pairwise (Index.pairwise_diskLines hfiles))

/-- A file beside a directory of the same name without its ending. -/
def crossedTree : FileTree :=
  onDisk.write ⟨.root, ["r", "a", "b.v"]⟩ (Text.bytesOf "module n; endmodule")

/-- The file in the directory and the file beside it are indexed. -/
def crossed : Workspace :=
  (act ⟨crossedTree, scanning.index⟩ (.update ⟨.root, ["r", "a", "b.v"]⟩ none)).act
    (.update ⟨.root, ["r", "a.v"]⟩ none)

theorem reachable_crossed : crossed.Reachable := by
  have hnone : ∀ d, crossedTree.Holds d → d = .empty := fun d hd =>
    absurd hd (FileTree.not_holds_put (by simp)
      (FileTree.not_holds_put (by simp) FileTree.not_holds_empty) d)
  have hnew : Index.new scanning.index.config = .ok scanning.index := rfl
  have hstart : Reachable ⟨crossedTree, scanning.index⟩ :=
    .start (wf_onDisk.put (by decide) rfl) hnone hnew (by decide)
  exact .act (.act hstart (by decide) trivial) (by decide) trivial

/-- The line in the directory, and the line beside it. -/
def crossedLines : LineMatch × LineMatch :=
  (⟨⟨.root, ["r", "a", "b.v"]⟩, 1, 1, "module n; endmodule"⟩,
    ⟨⟨.root, ["r", "a.v"]⟩, 1, 1, "module m; endmodule"⟩)

theorem diskFiles_crossed : crossed.index.wholeScope.diskFiles =
    [⟨.root, ["r", "a", "b.v"]⟩, ⟨.root, ["r", "a.v"]⟩] := by
  have hkeys : crossed.index.hashes.keys = [⟨.root, ["r", "a", "b.v"]⟩, ⟨.root, ["r", "a.v"]⟩] := by
    decide +kernel
  have hsorted : Path.sortByParts crossed.index.hashes.keys =
      [⟨.root, ["r", "a", "b.v"]⟩, ⟨.root, ["r", "a.v"]⟩] := by
    rw [hkeys]
    exact List.mergeSort_of_pairwise (by decide +kernel)
  rw [Scope.diskFiles, Index.wholeScope, Index.records, hsorted]
  decide +kernel

theorem sort_crossedLines :
    LineMatch.sort [crossedLines.1, crossedLines.2] = [crossedLines.2, crossedLines.1] := by
  have hapart : Apart [crossedLines.1, crossedLines.2] := by unfold Apart; decide +kernel
  have hsorted : [crossedLines.2, crossedLines.1].Pairwise Before := by decide +kernel
  have hperm := (perm_sort [crossedLines.1, crossedLines.2]).trans (List.Perm.swap _ _ [])
  have hleft : (LineMatch.sort [crossedLines.1, crossedLines.2]).Pairwise Before := pairwise_sort hapart
  exact hperm.eq_of_pairwise' hleft hsorted

/-- Of the two lines, the one that is come across first is the last one by the text of the paths. Shown
alone it makes room for the other, which comes before it, when two lines may be shown. -/
theorem limit_moves_line_crossed : crossed.Reachable ∧
    crossed.index.config.backends.head? = some "scan" ∧
    (crossed.index.limited 1).searchOn crossed.tree .absent .absent "module" (some "text") =
      .ok [lineHit crossedLines.1] ∧
    (crossed.index.limited 2).searchOn crossed.tree .absent .absent "module" (some "text") =
      .ok [lineHit crossedLines.2, lineHit crossedLines.1] ∧
    ¬[lineHit crossedLines.1] <+: [lineHit crossedLines.2, lineHit crossedLines.1] := by
  obtain ⟨-, copies, hc⟩ := reachable_crossed.kept.index
  have hscans := Index.scans_of_head? (rfl : crossed.index.config.backends.head? = some "scan")
    crossed.tree .absent .absent "module"
  have hmemory : searchMemory "module" crossed.index.contents = [] := by decide +kernel
  have hdisk : crossed.index.diskLines crossed.tree "module" = [crossedLines.1, crossedLines.2] := by
    rw [Index.diskLines, diskFiles_crossed]
    decide +kernel
  have hanswer (limit : Nat) (hlimit : 1 ≤ limit) :=
    hc.searchOn_limited reachable_crossed.watched hscans (by decide) hlimit
  rw [hdisk, hmemory] at hanswer
  have hone : shownUpTo [crossedLines.1, crossedLines.2] [] 1 = [crossedLines.1] := by decide +kernel
  have htwo : shownUpTo [crossedLines.1, crossedLines.2] [] 2 = [crossedLines.2, crossedLines.1] := by
    have hall : [crossedLines.1, crossedLines.2].take 2 ++ [] = [crossedLines.1, crossedLines.2] := rfl
    rw [shownUpTo, hall, sort_crossedLines]
    rfl
  refine ⟨reachable_crossed, rfl, ?_, ?_, by decide +kernel⟩
  · rw [hanswer 1 (by decide), hone]
    rfl
  · rw [hanswer 2 (by decide), htwo]
    rfl

/-- Where only the line in the directory is asked for, a limit just cuts off the tail. -/
theorem limit_keeps_lines_crossed : crossed.Reachable ∧
    "module n".toList.all Text.isBlank = false ∧
    crossed.index.Scans crossed.tree .absent .absent "module n" ∧
    ∃ shown : Nat → List LineMatch,
      (∀ limit, 1 ≤ limit → (crossed.index.limited limit).searchOn crossed.tree .absent .absent
        "module n" (some "text") = .ok ((shown limit).map lineHit)) ∧
      ∀ limit limit', 1 ≤ limit → limit ≤ limit' → shown limit <+: shown limit' := by
  have hscans := Index.scans_of_head? (rfl : crossed.index.config.backends.head? = some "scan")
    crossed.tree .absent .absent "module n"
  obtain ⟨shown, hanswer, -, -, -, -, hprefix⟩ :=
    limit_keeps_lines reachable_crossed .absent .absent (by decide) hscans
  refine ⟨reachable_crossed, by decide, hscans, shown, hanswer, hprefix ?_⟩
  rw [diskFiles_crossed]
  decide +kernel

end Workspace

end RtlAtlas
