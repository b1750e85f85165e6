/-
Text search sees the indexed files. Of each it looks at the text that was supplied in memory, else at
what stands on disk at that moment, and at nothing else; files on disk and texts in memory are looked
through by different means and their matches are brought together. Another tool may stand in for the
scan, but what a tool that fails has found is never shown.
-/
import RtlAtlas.Proofs.Search.Answer
import RtlAtlas.Proofs.Search.Scan
import RtlAtlas.Proofs.Workspace.Overlay

namespace RtlAtlas

open OrderedMap Search

namespace Index

/-- Searches an index where certain programs are at hand. -/
def searchOn (i : Index) (tree : FileTree) (rg gr : Program) (query : String) (mode : Option String) :
    Except Error (List Hit) :=
  Search.search i.table (i.config.backends.filterMap (toolsOn tree rg gr)) i.scope
    i.config.maxTextResults query mode

theorem search_eq_searchOn (i : Index) (tree : FileTree) (here : Option Path) (query : String)
    (mode : Option String) : i.search tree here query mode =
      i.searchOn tree (.ripgrepIn tree here) (.grepIn tree i.root here) query mode := rfl

/-- The text of a file that a search looks at, if there is one: the one supplied, or the one on disk. -/
def searchedText (tree : FileTree) (supplied : Path → Option String) (f : Path) : Option (List Char) :=
  match supplied f with
  | some text => some text.toList
  | none => (tree.read? f).map scannedText

/-- The lines of a file that hold a query; there are none if it has no text. -/
def linesShown (tree : FileTree) (supplied : Path → Option String) (query : String) (f : Path) :
    List LineMatch :=
  ((searchedText tree supplied f).map fun text => scanLines f text query.toList).getD []

variable {i : Index} {copies : Path → Option Copy} {tree : FileTree} {supplied : Path → Option String}
  {query : String} {f : Path}

theorem linesShown_of_none (h : supplied f = none) :
    linesShown tree supplied query f = fileMatches tree.read? query f := by
  rw [linesShown, searchedText, h, fileMatches]
  cases tree.read? f <;> rfl

theorem linesShown_of_some {text : String} (h : supplied f = some text) :
    linesShown tree supplied query f = scanLines f text.toList query.toList := by
  rw [linesShown, searchedText, h]
  rfl

theorem file_of_mem_linesShown {m : LineMatch} (h : m ∈ linesShown tree supplied query f) :
    m.file = f := by
  unfold linesShown at h
  cases ht : searchedText tree supplied f with
  | none => simp [ht] at h
  | some text => exact file_of_mem_scanLines (by simpa [ht] using h)

theorem apart_linesShown (tree : FileTree) (supplied : Path → Option String) (query : String) (f : Path) :
    LineMatch.Apart (linesShown tree supplied query f) := by
  unfold linesShown
  cases searchedText tree supplied f with
  | none => exact List.Pairwise.nil
  | some text => exact LineMatch.apart_scanLines f text query.toList

/-! ## The files of a scope -/

/-- What text search looks at when it does. -/
def wholeScope (i : Index) : Scope := ⟨i.records.map (·.path), i.contents⟩

theorem mem_diskFiles (i : Index) :
    f ∈ i.wholeScope.diskFiles ↔ f ∈ i.hashes.keys ∧ f ∉ i.contents.keys := by
  have hpaths : i.wholeScope.files = Path.sortByParts i.hashes.keys := path_records i
  rw [Scope.diskFiles, List.mem_filter, hpaths, Path.mem_sortByParts, OrderedMap.mem_keys,
    OrderedMap.mem_keys, Bool.not_eq_true', Bool.not_eq_true]
  rfl

/-- The recorded files are those looked at on disk and those held in memory. -/
theorem Represents.perm_diskFiles (h : i.Represents copies) :
    (i.wholeScope.diskFiles ++ i.contents.keys).Perm i.hashes.keys := by
  have hnodup : i.wholeScope.diskFiles.Nodup := by
    rw [Scope.diskFiles, wholeScope, path_records]
    exact List.Nodup.filter _ ((Path.perm_sortByParts _).nodup_iff.2 h.uniqueHashes)
  have hheld : ∀ f ∈ i.contents.keys, f ∈ i.hashes.keys := fun f hf => by
    obtain ⟨text, htext⟩ := exists_get?_iff.2 hf
    rw [h.contents] at htext
    obtain ⟨c, hc, -⟩ := Option.bind_eq_some_iff.1 htext
    exact h.mem_recorded.2 ⟨c, hc⟩
  refine (List.perm_ext_iff_of_nodup (hnodup.append h.uniqueContents fun f hd hm =>
    ((mem_diskFiles i).1 hd).2 hm) h.uniqueHashes).2 fun f => ?_
  rw [List.mem_append, mem_diskFiles]
  constructor
  · rintro (⟨hf, -⟩ | hf)
    · exact hf
    · exact hheld f hf
  · intro hf
    by_cases hm : f ∈ i.contents.keys
    · exact .inr hm
    · exact .inl ⟨hf, hm⟩

/-- The matches on disk and in memory are those of the recorded files. -/
theorem Represents.perm_linesShown (h : i.Represents copies) (tree : FileTree) (query : String) :
    (i.wholeScope.diskFiles.flatMap (fileMatches tree.read? query) ++
        searchMemory query i.contents).Perm
      (i.hashes.keys.flatMap (linesShown tree i.contents.get? query)) := by
  have hdisk : i.wholeScope.diskFiles.flatMap (fileMatches tree.read? query) =
      i.wholeScope.diskFiles.flatMap (linesShown tree i.contents.get? query) :=
    List.flatMap_congr fun f hf =>
      (linesShown_of_none (get?_eq_none_iff.2 ((mem_diskFiles i).1 hf).2)).symm
  have hmemory : searchMemory query i.contents =
      i.contents.keys.flatMap (linesShown tree i.contents.get? query) := by
    rw [searchMemory, OrderedMap.keys, List.flatMap_map]
    exact List.flatMap_congr fun e he =>
      (linesShown_of_some ((get?_eq_some_iff h.uniqueContents).2 he)).symm
  rw [hdisk, hmemory, ← List.flatMap_append]
  exact h.perm_diskFiles.flatMap_right _

/-! ## Searching for lines -/

theorem searchOn_text (i : Index) (tree : FileTree) (rg gr : Program) {query : String}
    (hquery : query.toList.all Text.isBlank = false) : i.searchOn tree rg gr query (some "text") =
      (searchLines (i.config.backends.filterMap (toolsOn tree rg gr)) i.scope i.config.maxTextResults
        query).map Hit.sort := by
  rw [searchOn, Search.search, hquery, if_neg Bool.false_ne_true]
  rfl

/-- With the scan in front, it is asked and answers. -/
theorem searchDisk_scan {names : List String} (hscan : names.head? = some "scan") (rg gr : Program)
    (files : List Path) (limit : Int) :
    searchDisk (names.filterMap (toolsOn tree rg gr)) query files limit =
      .ok (scanFrom tree.read? query limit [] files) := by
  obtain ⟨rest, rfl⟩ := List.head?_eq_some_iff.1 hscan
  rfl

/-- Searching by the scan shows the lines of the recorded files, by file and line. -/
theorem Represents.searchOn_scan (h : i.Represents copies)
    (hscope : i.searchable = false → i.hashes.keys = []) (rg gr : Program)
    (hscan : i.config.backends.head? = some "scan") (hquery : query.toList.all Text.isBlank = false)
    (hfew : ((i.hashes.keys.flatMap (linesShown tree i.contents.get? query)).length : Int) <
      i.config.maxTextResults) :
    ∃ ms : List LineMatch, i.searchOn tree rg gr query (some "text") = .ok (ms.map lineHit) ∧
      (ms.Pairwise fun a b => LineMatch.ord a b = .lt) ∧
      ∀ m, m ∈ ms ↔ ∃ f ∈ i.hashes.keys, m ∈ linesShown tree i.contents.get? query f := by
  rw [searchOn_text i tree rg gr hquery]
  cases hsearchable : i.searchable with
  | false =>
    refine ⟨[], ?_, List.Pairwise.nil, fun m => ?_⟩
    · rw [show i.scope = none by rw [scope, hsearchable]; rfl, ← sort_map_lineHit List.Pairwise.nil]
      rfl
    · rw [hscope hsearchable]; simp
  | true =>
    have hperm := h.perm_linesShown tree query
    -- files are recorded once and a line has one number, so no two lines are alike
    have hapart : LineMatch.Apart (i.hashes.keys.flatMap (linesShown tree i.contents.get? query)) :=
      LineMatch.apart_flatMap h.uniqueHashes (fun f hf => (h.recorded_resolved hf).proper)
        (fun _ _ hm => file_of_mem_linesShown hm) (apart_linesShown tree i.contents.get? query)
    have hsorted := LineMatch.pairwise_sort (LineMatch.Apart.perm hapart hperm.symm)
    refine ⟨_, ?_, hsorted, fun m => ?_⟩
    · have hlength := hperm.length_eq
      rw [List.length_append] at hlength
      -- below the limit neither the scan nor the search cuts anything
      have hfound : scanFrom tree.read? query i.config.maxTextResults [] i.wholeScope.diskFiles =
          i.wholeScope.diskFiles.flatMap (fileMatches tree.read? query) := by
        rw [scanFrom_eq (by rw [List.length_nil]; omega), List.nil_append, takeTo_of_le (by omega)]
      have hall : ((LineMatch.sort (i.wholeScope.diskFiles.flatMap (fileMatches tree.read? query) ++
          searchMemory query i.contents)).length : Int) ≤ i.config.maxTextResults := by
        rw [((LineMatch.perm_sort _).trans hperm).length_eq]; omega
      rw [show i.scope = some i.wholeScope by rw [scope, hsearchable]; rfl, searchLines,
        searchText, searchDisk_scan hscan, hfound]
      show Except.ok (Hit.sort ((takeTo _ _).map lineHit)) = _
      rw [show i.wholeScope.contents = i.contents from rfl, takeTo_of_le hall,
        sort_map_lineHit hsorted]
    · rw [((LineMatch.perm_sort _).trans hperm).mem_iff, List.mem_flatMap]

/-! ## Whose matches are shown -/

/-- A search that raises refuses the query, or fails to look at the lines. -/
theorem search_eq_error {t : Table} {bs : List Backend} {scope : Option Scope} {limit : Int}
    {mode : Option String} {e : Error} (h : Search.search t bs scope limit query mode = .error e) :
    (∃ fault, e = .query fault) ∨ searchLines bs scope limit query = .error e := by
  unfold Search.search at h
  split at h
  · cases h; exact .inl ⟨_, rfl⟩
  · cases hmode : Mode.ofWord mode with
    | error e' =>
      rw [hmode] at h
      cases h
      unfold Mode.ofWord at hmode
      split at hmode <;> cases hmode
      exact .inl ⟨_, rfl⟩
    | ok wanted =>
      rw [hmode] at h
      simp only [Bind.bind, Except.bind] at h
      generalize (if wanted = .symbols then searchSymbols t query else []) = found at h
      split at h
      · cases hlines : searchLines bs scope limit query with
        | error e' => rw [hlines] at h; cases h; exact .inr rfl
        | ok fromText => rw [hlines] at h; cases h
      · cases h

/-- A search that answers shows symbols, or lines of its scope. -/
theorem search_eq_ok {t : Table} {bs : List Backend} {scope : Option Scope} {limit : Int}
    {mode : Option String} {hits : List Hit} (h : Search.search t bs scope limit query mode = .ok hits)
    {hit : Hit} (hhit : hit ∈ hits) : hit ∈ searchSymbols t query ∨
      ∃ fromText, searchLines bs scope limit query = .ok fromText ∧ hit ∈ fromText := by
  unfold Search.search at h
  split at h
  · cases h
  · obtain ⟨wanted, -, h⟩ := Except.bind_eq_ok h
    have hsymbols : ∀ x ∈ (if wanted = .symbols then searchSymbols t query else []),
        x ∈ searchSymbols t query := fun x hx => by
      split at hx
      · exact hx
      · cases hx
    generalize (if wanted = .symbols then searchSymbols t query else []) = found at h hsymbols
    simp only at h
    split at h
    · obtain ⟨fromText, hlines, h⟩ := Except.bind_eq_ok h
      cases h
      rcases List.mem_append.1 (List.mem_mergeSort.1 hhit) with hs | ht
      · exact .inl (hsymbols _ hs)
      · exact .inr ⟨fromText, hlines, ht⟩
    · cases h
      exact .inl (hsymbols _ (List.mem_mergeSort.1 hhit))

/-- With the scan among its backends, an index is never left without one. -/
theorem searchOn_ne_noBackend (i : Index) (tree : FileTree) (rg gr : Program)
    (hscan : "scan" ∈ i.config.backends) (query : String) (mode : Option String)
    (failures : List (String × String)) :
    i.searchOn tree rg gr query mode ≠ .error (.noBackend failures) := by
  intro h
  rcases search_eq_error h with ⟨fault, hfault⟩ | hlines
  · cases hfault
  · unfold searchLines at hlines
    split at hlines
    · cases hlines
    · rename_i s _
      cases hdisk : searchDisk (i.config.backends.filterMap (toolsOn tree rg gr)) query s.diskFiles
          i.config.maxTextResults with
      | ok found => rw [searchText, hdisk] at hlines; cases hlines
      | error e =>
        rw [searchText, hdisk] at hlines
        cases hlines
        exact searchDisk_ne_noBackend hscan failures hdisk

/-- The lines shown are held in memory, or found by the backend that has answered for the disk. -/
theorem searchOn_answered {i : Index} {rg gr : Program} {mode : Option String} {hits : List Hit}
    (h : i.searchOn tree rg gr query mode = .ok hits) {hit : Hit} (hhit : hit ∈ hits)
    (htext : hit.origin = .text) :
    (∃ m ∈ searchMemory query i.contents, hit = lineHit m) ∨
      ∃ found, Answers query i.wholeScope.diskFiles i.config.maxTextResults
          (i.config.backends.filterMap (toolsOn tree rg gr)) (.ok found) ∧
        ∃ m ∈ found, hit = lineHit m := by
  rcases search_eq_ok h hhit with hsymbol | ⟨fromText, hlines, hhit⟩
  · -- a hit of a symbol is no text
    obtain ⟨s, -, hs⟩ := List.mem_filterMap.1 hsymbol
    unfold symbolHit? at hs
    simp only at hs
    split at hs
    · cases hs; cases htext
    · cases hs
  · unfold searchLines at hlines
    split at hlines
    · cases hlines; cases hhit
    · rename_i s hs
      obtain rfl : i.wholeScope = s := by
        unfold scope at hs
        split at hs
        · exact Option.some.inj hs
        · cases hs
      cases hdisk : searchDisk (i.config.backends.filterMap (toolsOn tree rg gr)) query
          i.wholeScope.diskFiles i.config.maxTextResults with
      | error e => rw [searchText, hdisk] at hlines; cases hlines
      | ok found =>
        rw [searchText, hdisk] at hlines
        cases hlines
        obtain ⟨m, hm, rfl⟩ := List.mem_map.1 hhit
        have hm := List.mem_mergeSort.1 ((prefix_takeTo _ _).subset hm)
        -- what is not held in memory was found by the first backend that answered
        rcases List.mem_append.1 hm with hm | hm
        · exact .inr ⟨found, answers_of_searchDisk hdisk, m, hm, rfl⟩
        · exact .inl ⟨m, hm, rfl⟩

end Index

namespace Workspace

variable {w : Workspace} {supplied : Path → Option String}

/-- An index that text search does not look at has no files. -/
def Watched (i : Index) : Prop := i.searchable = false → i.hashes.keys = []

theorem watched_of_searchable {i : Index} (h : i.searchable = true) : Watched i :=
  fun h' => by rw [h] at h'; cases h'

theorem watched_updateFile (h : Watched w.index) (file : Path) (content : Option String) :
    Watched (w.updateFile file content).2.index := by
  unfold Workspace.updateFile
  split
  · exact h
  · rename_i place _
    rcases Index.updateFile_cases w.index w.tree place content with ⟨e, hu, -⟩ | ⟨e, c, hu, -⟩
    · simp only [hu]; exact h
    · simp only [hu]; exact watched_of_searchable rfl

theorem watched_removeFile (h : Watched w.index) (file : Path) :
    Watched (w.removeFile file).2.index := by
  unfold Workspace.removeFile Index.removeFile
  split
  · exact h
  · simp only
    split
    · exact watched_of_searchable rfl
    · -- nothing was known of the file, and dropping it records none
      intro hs
      show (w.index.hashes.erase _).keys = []
      rw [OrderedMap.keys_erase, h hs, List.filter_nil]

theorem watched_act (h : Watched w.index) (a : Action) : Watched (w.act a).index := by
  have hgraph : Watched w.index.withGraph.2 := by
    unfold Index.withGraph
    split <;> exact h
  -- Only a new scan of the tree or a load can change which files are searched as text.
  cases a with
  | build directory stopAfter =>
    show Watched (w.build directory stopAfter).2.index
    rcases build_cases w directory stopAfter with ⟨e, hb⟩ | ⟨root, -, ⟨e, -, hb⟩ | ⟨-, hb⟩⟩
    · rw [hb]; exact h
    · rw [hb]; exact fun _ => rfl
    · rw [hb, Index.build_fst]; exact watched_of_searchable rfl
  | refresh stopAfter =>
    show Watched (w.refresh stopAfter).2.index
    rcases refresh_cases w stopAfter with ⟨e, -, hr⟩ | ⟨-, hr⟩
    · rw [hr]; exact h
    · rw [hr, Index.refresh_fst]; exact watched_of_searchable rfl
  | update file content => exact watched_updateFile h file content
  | remove file => exact watched_removeFile h file
  | query => exact hgraph
  | rebuildGraph => exact h
  | save database time => exact hgraph
  | load database =>
    show Watched (w.load database).2.index
    unfold Workspace.load
    split
    · exact watched_of_searchable rfl
    · exact h
  | close => exact fun _ => rfl

theorem Reachable.watched (h : w.Reachable) : Watched w.index :=
  (ReachableBy.holds (P := Watched) (fun _ _ hn _ => by rw [Index.eq_of_new hn]; exact fun _ => rfl)
    (fun _ a hw _ _ => watched_act hw.index a) h).index

/-- Searching by the scan shows exactly the lines of the indexed files as they were supplied or stand
on disk, each once, by file and line. With the scan among the backends some backend always answers, and
what is shown of the disk was found by the one that has answered. -/
theorem text_search_sees_index (h : w.Supplies supplied) (rg gr : Program) :
    (∀ query : String, query.toList.all Text.isBlank = false →
      w.index.config.backends.head? = some "scan" →
      ((w.index.hashes.keys.flatMap (Index.linesShown w.tree supplied query)).length : Int) <
        w.index.config.maxTextResults →
      ∃ ms : List LineMatch,
        w.index.searchOn w.tree rg gr query (some "text") = .ok (ms.map lineHit) ∧
        (ms.Pairwise fun a b => LineMatch.ord a b = .lt) ∧
        ∀ m, m ∈ ms ↔ ∃ f ∈ w.index.hashes.keys, m ∈ Index.linesShown w.tree supplied query f) ∧
    ("scan" ∈ w.index.config.backends → ∀ query mode failures,
      w.index.searchOn w.tree rg gr query mode ≠ .error (.noBackend failures)) ∧
    ∀ query mode hits, w.index.searchOn w.tree rg gr query mode = .ok hits →
      ∀ hit ∈ hits, hit.origin = .text →
        (∃ f text, supplied f = some text ∧
          ∃ m ∈ scanLines f text.toList query.toList, hit = lineHit m) ∨
        ∃ found, Answers query w.index.wholeScope.diskFiles w.index.config.maxTextResults
            (w.index.config.backends.filterMap (toolsOn w.tree rg gr)) (.ok found) ∧
          ∃ m ∈ found, hit = lineHit m := by
  obtain ⟨-, copies, hc⟩ := h.reachable.kept.index
  have hcontents := h.contents
  refine ⟨fun query hquery hscan hfew => ?_, fun hscan query mode failures =>
    Index.searchOn_ne_noBackend w.index w.tree rg gr hscan query mode failures,
    fun query mode hits hok hit hhit htext => ?_⟩
  · rw [← hcontents] at hfew ⊢
    exact hc.searchOn_scan h.reachable.watched rg gr hscan hquery hfew
  · -- A hit that the scan did not give was answered by one of the tools.
    refine (Index.searchOn_answered hok hhit htext).imp_left ?_
    rintro ⟨m, hm, rfl⟩
    obtain ⟨⟨f, text⟩, he, hm⟩ := List.mem_flatMap.1 hm
    exact ⟨f, text, by rw [← hcontents]; exact (get?_eq_some_iff hc.uniqueContents).2 he, m, hm, rfl⟩

/-- A workspace whose index is searched by the scan, with one file on disk. -/
def scanning : Workspace :=
  ⟨onDisk, { config := { root := ⟨.root, ["r"]⟩, backends := ["scan"] }, root := ⟨.root, ["r"]⟩ }⟩

/-- The file on disk is indexed. -/
def scanned : Workspace := scanning.act (.build none none)

/-- A second module is handed over in memory. -/
def overlaid : Workspace := scanned.act (.update ⟨.root, ["r", "b.v"]⟩ (some "module n; endmodule"))

theorem text_search_sees_overlaid : ∃ supplied, overlaid.Supplies supplied ∧
    overlaid.index.hashes.keys = [⟨.root, ["r", "a.v"]⟩, ⟨.root, ["r", "b.v"]⟩] ∧
    supplied ⟨.root, ["r", "a.v"]⟩ = none ∧
    supplied ⟨.root, ["r", "b.v"]⟩ = some "module n; endmodule" ∧
    ∃ ms : List LineMatch,
      overlaid.index.searchOn overlaid.tree .absent .absent "module" (some "text") =
        .ok (ms.map lineHit) ∧
      (ms.Pairwise fun a b => LineMatch.ord a b = .lt) ∧
      ∀ m, m ∈ ms ↔
        ∃ f ∈ overlaid.index.hashes.keys, m ∈ Index.linesShown overlaid.tree supplied "module" f := by
  have hstart : scanning.Supplies fun _ => none := by
    refine .start wf_onDisk (fun d hd => ?_) (rfl : Index.new scanning.index.config = _) (by decide)
    exact absurd hd (FileTree.not_holds_put (by simp) FileTree.not_holds_empty d)
  have hrun : overlaid.Supplies _ := .act (.act hstart (by decide)) (by decide)
  exact ⟨_, hrun, by decide +kernel, by decide +kernel, by decide +kernel,
    (text_search_sees_index hrun .absent .absent).1 "module" (by decide +kernel)
      (by decide +kernel) (by decide +kernel)⟩

end Workspace

end RtlAtlas
