/-
Runs of a search tool on batches of files. What the runs print is read row after row, across the batches,
until there are as many matches as the limit allows. If each row up to there can be read, the search
gives the first matches of all rows, and no run is started behind the one that reaches the limit;
otherwise the search ends with an error, and with it the matches found so far are lost.
-/
import Mathlib
import RtlAtlas.Proofs.Result
import RtlAtlas.Proofs.Search.Event
import RtlAtlas.Proofs.Search.Scan
import RtlAtlas.Search.External

namespace RtlAtlas.Search

open RtlAtlas.Text

/-! ## Batches -/

theorem flatten_batchesFrom : ∀ {fuel : Nat} {files : List Path}, files.length ≤ fuel →
    (batchesFrom fuel files).flatten = files
  | 0, files, h => by rw [List.length_eq_zero_iff.1 (Nat.le_zero.1 h)]; rfl
  | fuel + 1, files, h => by
    rw [batchesFrom]
    split
    · rename_i he
      rw [List.isEmpty_iff.1 he]; rfl
    · rename_i he
      have hpos : files.length ≠ 0 := by simpa using he
      have hdrop : (files.drop batchSize).length ≤ fuel := by
        rw [List.length_drop, batchSize]; omega
      rw [List.flatten_cons, flatten_batchesFrom hdrop, List.take_append_drop]

/-- No file is left out and none is given twice. -/
theorem flatten_batches (files : List Path) : (batches files).flatten = files :=
  flatten_batchesFrom (Nat.le_refl _)

theorem length_of_mem_batchesFrom : ∀ {fuel : Nat} {files batch : List Path},
    batch ∈ batchesFrom fuel files → 1 ≤ batch.length ∧ batch.length ≤ batchSize
  | 0, _, _, h => by cases h
  | fuel + 1, files, batch, h => by
    rw [batchesFrom] at h
    split at h
    · cases h
    · rename_i he
      rcases List.mem_cons.1 h with rfl | h
      · have hpos : files.length ≠ 0 := by simpa using he
        rw [List.length_take, batchSize]
        omega
      · exact length_of_mem_batchesFrom h

/-! ## Rows -/

section Rows

variable (tool : Tool) (query : String) (reading : Reading)

/-- What a row of output comes to: the match that it tells of, if it tells of one, or an error. -/
def rowMatch? (row : List Char) : Except Error (Option ToolMatch) := do
  match ← tool.parseLine query.toList row with
  | none => return none
  | some told => reading.matchOf? told

/-- The matches that rows tell of. -/
def rowMatches (rows : List (List Char)) : List ToolMatch :=
  rows.filterMap fun row => (rowMatch? tool query reading row).toOption.join

/-- Behind some matches, rows can be read as far as they are: a row in front of which the limit is not
reached gives no error. -/
def Readable (limit : Int) (found : List ToolMatch) (rows : List (List Char)) : Prop :=
  ∀ before row after, rows = before ++ row :: after →
    ((found ++ rowMatches tool query reading before).length : Int) < limit →
    ∃ m?, rowMatch? tool query reading row = .ok m?

end Rows

section Reading

variable {tool : Tool} {query : String} {reading : Reading} {limit : Int} {found : List ToolMatch}

theorem rowMatch?_of_parse {row : List Char} {told? : Option Told}
    (h : tool.parseLine query.toList row = .ok told?) :
    rowMatch? tool query reading row = told?.elim (.ok none) reading.matchOf? := by
  unfold rowMatch?
  rw [h]
  cases told? <;> rfl

theorem rowMatches_append (as bs : List (List Char)) :
    rowMatches tool query reading (as ++ bs) =
      rowMatches tool query reading as ++ rowMatches tool query reading bs := List.filterMap_append

theorem rowMatches_cons {row : List Char} {m? : Option ToolMatch}
    (h : rowMatch? tool query reading row = .ok m?) (rows : List (List Char)) :
    rowMatches tool query reading (row :: rows) = m?.toList ++ rowMatches tool query reading rows := by
  cases m? <;> simp [rowMatches, h, Except.toOption]

theorem readable_nil : Readable tool query reading limit found [] := by
  intro before row after h
  cases before <;> cases h

theorem readable_of_forall {rows : List (List Char)}
    (h : ∀ row ∈ rows, ∃ m?, rowMatch? tool query reading row = .ok m?) :
    Readable tool query reading limit found rows := by
  rintro before row after rfl -
  exact h row (by simp)

theorem readable_append {as bs : List (List Char)} : Readable tool query reading limit found (as ++ bs) ↔
    Readable tool query reading limit found as ∧
      Readable tool query reading limit (found ++ rowMatches tool query reading as) bs := by
  constructor
  · intro h
    constructor
    · rintro before row after rfl hfew
      exact h before row (after ++ bs) (by simp) hfew
    · rintro before row after rfl hfew
      refine h (as ++ before) row after (by simp) ?_
      rwa [rowMatches_append, ← List.append_assoc]
  · rintro ⟨ha, hb⟩ before row after heq hfew
    rcases List.append_eq_append_iff.1 heq with ⟨between, rfl, hbs⟩ | ⟨between, rfl, hafter⟩
    · refine hb between row after hbs ?_
      rwa [List.append_assoc, ← rowMatches_append]
    · cases between with
      | nil =>
        refine hb [] row after hafter.symm ?_
        simpa [rowMatches] using hfew
      | cons y between =>
        obtain ⟨rfl, -⟩ := List.cons.inj hafter
        exact ha before row between rfl hfew

/-- The first row decides how the reading goes on. -/
theorem readable_cons {row : List Char} {rows : List (List Char)} (hfew : (found.length : Int) < limit) :
    Readable tool query reading limit found (row :: rows) ↔
      ∃ m?, rowMatch? tool query reading row = .ok m? ∧
        Readable tool query reading limit (found ++ m?.toList) rows := by
  have hlone : Readable tool query reading limit found [row] ↔
      ∃ m?, rowMatch? tool query reading row = .ok m? := by
    constructor
    · intro h
      exact h [] row [] rfl (by simpa [rowMatches] using hfew)
    · rintro h before row' after heq -
      cases before with
      | nil =>
        obtain ⟨rfl, -⟩ := List.cons.inj heq
        exact h
      | cons y before => simp at heq
  have hmatches : ∀ {m? : Option ToolMatch}, rowMatch? tool query reading row = .ok m? →
      rowMatches tool query reading [row] = m?.toList := fun h =>
    (rowMatches_cons h []).trans (List.append_nil _)
  rw [← List.singleton_append, readable_append, hlone]
  constructor
  · rintro ⟨⟨m?, hm⟩, hrest⟩
    exact ⟨m?, hm, hmatches hm ▸ hrest⟩
  · rintro ⟨m?, hm, hrest⟩
    exact ⟨⟨m?, hm⟩, (hmatches hm).symm ▸ hrest⟩

/-- How one row is read. -/
theorem collectLines_cons (row : List Char) (rows : List (List Char)) :
    collectLines tool query.toList reading limit found (row :: rows) =
      match rowMatch? tool query reading row with
      | .error e => .error e
      | .ok none => collectLines tool query.toList reading limit found rows
      | .ok (some m) =>
        if limit ≤ (found ++ [m]).length then .ok (found ++ [m], true)
        else collectLines tool query.toList reading limit (found ++ [m]) rows := by
  unfold rowMatch?
  rw [collectLines]
  cases tool.parseLine query.toList row with
  | error e => rfl
  | ok told =>
    cases told with
    | none => rfl
    | some told =>
      simp only [bind, Except.bind]
      cases reading.matchOf? told with
      | error e => rfl
      | ok m => cases m <;> rfl

/-- Rows that can be read give their matches up to the limit. -/
theorem collectLines_of_readable : ∀ {rows : List (List Char)} {found : List ToolMatch},
    (found.length : Int) < limit → Readable tool query reading limit found rows →
    collectLines tool query.toList reading limit found rows =
      .ok (takeTo limit (found ++ rowMatches tool query reading rows),
        decide (limit ≤ (found ++ rowMatches tool query reading rows).length))
  | [], found, hfew, _ => by
    have hnone : rowMatches tool query reading [] = [] := rfl
    rw [collectLines, hnone, List.append_nil, takeTo_of_le (by omega), decide_eq_false (by omega)]
  | row :: rows, found, hfew, h => by
    obtain ⟨m?, hm, hrest⟩ := (readable_cons hfew).1 h
    rw [collectLines_cons, hm, rowMatches_cons hm, ← List.append_assoc]
    cases m? with
    | none =>
      rw [Option.toList_none, List.append_nil] at hrest ⊢
      exact collectLines_of_readable hfew hrest
    | some m =>
      rw [Option.toList_some] at hrest ⊢
      simp only
      split
      · rename_i hfull
        have hlen : ((found ++ [m]).length : Int) ≤ limit := by
          rw [List.length_append, List.length_singleton]; omega
        rw [takeTo_append (by omega) hfull, takeTo_of_le hlen,
          decide_eq_true (by rw [List.length_append]; omega)]
      · rename_i hroom
        exact collectLines_of_readable (Int.not_le.1 hroom) hrest

/-- Rows that cannot be read give an error. -/
theorem collectLines_of_not_readable : ∀ {rows : List (List Char)} {found : List ToolMatch},
    (found.length : Int) < limit → ¬Readable tool query reading limit found rows →
    ∃ e, collectLines tool query.toList reading limit found rows = .error e
  | [], _, _, h => absurd readable_nil h
  | row :: rows, found, hfew, h => by
    rw [readable_cons hfew] at h
    rw [collectLines_cons]
    cases hrow : rowMatch? tool query reading row with
    | error e => exact ⟨e, rfl⟩
    | ok m? =>
      have hrest : ¬Readable tool query reading limit (found ++ m?.toList) rows := fun hr =>
        h ⟨m?, hrow, hr⟩
      cases m? with
      | none =>
        rw [Option.toList_none, List.append_nil] at hrest
        exact collectLines_of_not_readable hfew hrest
      | some m =>
        -- had the limit been reached, nothing would have to be read any more
        have hroom : ¬limit ≤ (found ++ [m]).length := by
          intro hfull
          refine hrest fun before row after _ hlow => ?_
          rw [Option.toList_some, List.length_append] at hlow
          omega
        simp only [if_neg hroom]
        exact collectLines_of_not_readable (Int.not_le.1 hroom) hrest

/-! ## Runs -/

/-- The rows that are printed for some batches, where the command for the first has a given number. -/
def printedRows (outputs : Nat → List Char) (first : Nat) (bs : List (List Path)) : List (List Char) :=
  (List.range' first bs.length).flatMap fun n => lines (outputs n)

variable {outputs : Nat → List Char}

theorem printedRows_cons (first : Nat) (batch : List Path) (bs : List (List Path)) :
    printedRows outputs first (batch :: bs) =
      lines (outputs first) ++ printedRows outputs (first + 1) bs := by
  simp [printedRows, List.range'_succ]

/-- Outputs that can be read give the first matches of all rows, and tell which runs were needed. -/
theorem runBatches_of_readable : ∀ {bs : List (List Path)} {done : ToolRun},
    (done.found.length : Int) < limit →
    Readable tool query reading limit done.found (printedRows outputs done.commands.length bs) →
    ∃ used, used <+: bs ∧
      runBatches tool (fun n _ => .ok (outputs n)) query reading limit done bs =
        .ok ⟨done.commands ++ used.map (tool.command query), takeTo limit
          (done.found ++ rowMatches tool query reading (printedRows outputs done.commands.length bs))⟩ ∧
      (((done.found ++ rowMatches tool query reading
        (printedRows outputs done.commands.length bs)).length : Int) < limit → used = bs)
  | [], done, hfew, _ => by
    refine ⟨[], List.nil_prefix, ?_, fun _ => rfl⟩
    have hnone : rowMatches tool query reading (printedRows outputs done.commands.length []) = [] := rfl
    rw [runBatches, hnone, List.append_nil, takeTo_of_le (by omega), List.map_nil, List.append_nil]
  | batch :: bs, done, hfew, h => by
    rw [printedRows_cons] at h
    obtain ⟨hhere, hrest⟩ := readable_append.1 h
    rw [printedRows_cons, rowMatches_append, ← List.append_assoc]
    simp only [runBatches, collectLines_of_readable hfew hhere]
    generalize hnext : done.found ++ rowMatches tool query reading (lines (outputs done.commands.length)) =
      next at hrest
    by_cases hfull : limit ≤ next.length
    · -- the limit is reached with this batch, and no other one is run
      refine ⟨[batch], List.prefix_append [batch] bs, ?_, fun hlow => ?_⟩
      · rw [takeTo_append (by omega) hfull, if_pos (decide_eq_true hfull)]
        rfl
      · rw [List.length_append] at hlow
        omega
    · -- there is room for more: by induction, with what was found so far
      rw [if_neg (by simpa using hfull)]
      have hall : takeTo limit next = next := takeTo_of_le (by omega)
      have hroom : ((⟨done.commands ++ [tool.command query batch], next⟩ : ToolRun).found.length : Int) <
          limit := Int.not_le.1 hfull
      obtain ⟨used, hused, hrun, hlast⟩ := runBatches_of_readable hroom (by simpa using hrest)
      refine ⟨batch :: used, by simpa using hused, ?_, fun hlow => ?_⟩
      · rw [hall, hrun]
        simp
      · rw [hlast (by simpa using hlow)]

/-- Outputs that cannot be read break the search off. -/
theorem runBatches_of_not_readable : ∀ {bs : List (List Path)} {done : ToolRun},
    (done.found.length : Int) < limit →
    ¬Readable tool query reading limit done.found (printedRows outputs done.commands.length bs) →
    ∃ e, runBatches tool (fun n _ => .ok (outputs n)) query reading limit done bs = .error (.broken e)
  | [], _, _, h => absurd readable_nil h
  | batch :: bs, done, hfew, h => by
    rw [printedRows_cons, readable_append] at h
    simp only [runBatches]
    by_cases hhere : Readable tool query reading limit done.found
        (lines (outputs done.commands.length))
    · rw [collectLines_of_readable hfew hhere]
      generalize done.found ++ rowMatches tool query reading (lines (outputs done.commands.length)) =
        next at h
      have hrest : ¬Readable tool query reading limit next
          (printedRows outputs (done.commands.length + 1) bs) := fun hr => h ⟨hhere, hr⟩
      have hroom : ¬limit ≤ next.length := by
        intro hfull
        refine hrest fun before row after _ hlow => ?_
        rw [List.length_append] at hlow
        omega
      simp only [decide_eq_true_eq, if_neg hroom]
      rw [takeTo_of_le (by omega)]
      exact runBatches_of_not_readable (Int.not_le.1 hroom) (by simpa using hrest)
    · obtain ⟨e, he⟩ := collectLines_of_not_readable hfew hhere
      rw [he]
      exact ⟨e, rfl⟩

end Reading

/-! ## The search -/

/-- A row as a tool prints it: an event in its regular form, or a line that grep splits into a path without
NUL, a number that is not too long, and a text. -/
inductive Regular : Tool → List Char → Prop
  | event {row : List Char} : Event.RegularLine row → Regular ripgrep row
  | line {row : List Char} :
      (∀ path digits text, grepLine? row = some (path, digits, text) →
        Char.ofNat 0 ∉ path ∧ digits.length ≤ digitLimit) → Regular grep row

/-- A path without NUL is understood, whatever file it names. -/
theorem Naming.printed_eq_ok (naming : Naming) {path : Path} (h : path.hasNull = false) :
    ∃ file?, naming.printed path = .ok file? := by
  cases hprinted : naming.printed path with
  | ok file? => exact ⟨file?, rfl⟩
  | error e => exact absurd (naming.of_error path e hprinted).1 (by simp [h])

/-- What names a file that can be looked up, with a number that can be read, can be placed. -/
theorem matchOf?_eq_ok {told : Told} (naming : Naming) (files : List Path)
    (hline : ∃ number, told.line = .ok number) (hfile : ∀ file ∈ told.file, file.hasNull = false) :
    ∃ m?, (naming.reading files).matchOf? told = .ok m? := by
  obtain ⟨number, hnumber⟩ := hline
  unfold Reading.matchOf?
  split
  · exact ⟨none, rfl⟩
  · rename_i path hpath
    obtain ⟨file?, hnamed⟩ := naming.printed_eq_ok (hfile path hpath)
    simp only [Naming.reading, hnamed, bind, Except.bind, hnumber]
    cases file? with
    | none => exact ⟨none, rfl⟩
    | some file =>
      simp only
      split
      · exact ⟨_, rfl⟩
      · exact ⟨none, rfl⟩

/-- A regular row gives no error. -/
theorem rowMatch?_of_regular {tool : Tool} {row : List Char} (h : Regular tool row) (query : String)
    (naming : Naming) (files : List Path) :
    ∃ m?, rowMatch? tool query (naming.reading files) row = .ok m? := by
  cases h with
  | event h =>
    obtain ⟨told?, hread, hplaced⟩ := Event.read_eq_ok h
    have hparse : ripgrep.parseLine query.toList row = .ok told? := hread
    rw [rowMatch?_of_parse hparse]
    cases told? with
    | none => exact ⟨none, rfl⟩
    | some told => exact matchOf?_eq_ok naming files (hplaced told rfl).1 (hplaced told rfl).2
  | line h =>
    have hparse : grep.parseLine query.toList row = .ok ((grepLine? row).map fun parts =>
        ⟨some (Path.ofString (String.ofList parts.1)), numberOf parts.2.1,
          columnOf parts.2.2 query.toList, String.ofList (trim parts.2.2)⟩) := rfl
    rw [rowMatch?_of_parse hparse]
    cases hsplit : grepLine? row with
    | none => exact ⟨none, rfl⟩
    | some parts =>
      obtain ⟨path, digits, text⟩ := parts
      obtain ⟨hclean, hshort⟩ := h path digits text hsplit
      have hnumber : numberOf digits = .ok (Json.ofNat (decimal digits)) := if_neg (by omega)
      rw [Option.map_some, Option.elim_some]
      refine matchOf?_eq_ok naming files ⟨_, hnumber⟩ ?_
      rintro file ⟨⟩
      exact Path.hasNull_ofString (by rwa [String.toList_ofList])

theorem file_of_matchOf? {reading : Reading} {told : Told} {m : ToolMatch}
    (h : reading.matchOf? told = .ok (some m)) : m.file ∈ reading.indexed := by
  unfold Reading.matchOf? at h
  split at h
  · cases h
  · obtain ⟨file?, -, h⟩ := Except.bind_eq_ok h
    cases file? with
    | none => cases h
    | some file =>
      simp only at h
      split at h
      · rename_i hindexed
        obtain ⟨number, -, h⟩ := Except.bind_eq_ok h
        cases h
        exact List.contains_iff_mem.1 hindexed
      · cases h

/-- What is found lies in an indexed file. -/
theorem file_of_mem_rowMatches {tool : Tool} {query : String} {reading : Reading} {rows : List (List Char)}
    {m : ToolMatch} (h : m ∈ rowMatches tool query reading rows) : m.file ∈ reading.indexed := by
  obtain ⟨row, -, hrow⟩ := List.mem_filterMap.1 h
  cases hmatch : rowMatch? tool query reading row with
  | error e => simp [hmatch, Except.toOption] at hrow
  | ok m? =>
    obtain rfl : m? = some m := by simpa [hmatch, Except.toOption] using hrow
    obtain ⟨told?, -, hmatch⟩ := Except.bind_eq_ok hmatch
    cases told? with
    | none => cases hmatch
    | some told => exact file_of_matchOf? hmatch

section Search

variable {tool : Tool} {naming : Naming} {query : String} {files : List Path}
  {outputs : Nat → List Char} {limit : Nat}

theorem search_of_clean (h : ∀ f ∈ files, f.hasNull = false)
    (run : Nat → List String → Except BackendFault (List Char)) (limit : Int) :
    tool.search naming run query files limit =
      runBatches tool run query (naming.reading files) limit ⟨[], []⟩ (batches files) := by
  have hany : files.any (·.hasNull) = false := List.any_eq_false.2 fun f hf => by simp [h f hf]
  rw [Tool.search, hany, if_neg Bool.false_ne_true]

theorem search_of_not_clean (h : ¬∀ f ∈ files, f.hasNull = false)
    (run : Nat → List String → Except BackendFault (List Char)) (limit : Int) :
    tool.search naming run query files limit = .error (.broken .nullByte) := by
  have hany : files.any (·.hasNull) = true := by
    rw [← Bool.not_eq_false]
    exact fun hnone => h fun f hf => by simpa using List.any_eq_false.1 hnone f hf
  rw [Tool.search, hany, if_pos rfl]

/-- The rows of all runs, from the first on. -/
theorem printedRows_batches (outputs : Nat → List Char) (bs : List (List Path)) :
    printedRows outputs 0 bs = (List.range bs.length).flatMap fun n => lines (outputs n) := by
  rw [printedRows, List.range_eq_range']

theorem takeTo_natCast {α : Type} (limit : Nat) (xs : List α) : takeTo (limit : Int) xs = xs.take limit := by
  rw [takeTo, if_pos (Int.natCast_nonneg limit), Int.toNat_natCast]

/-- If the rows can be read, the search gives their first matches, from runs on the first batches. -/
theorem search_of_readable (hlimit : 1 ≤ limit) (hclean : ∀ f ∈ files, f.hasNull = false)
    (h : Readable tool query (naming.reading files) limit [] (printedRows outputs 0 (batches files))) :
    let found := rowMatches tool query (naming.reading files) (printedRows outputs 0 (batches files))
    ∃ used, used <+: batches files ∧
      tool.search naming (fun n _ => .ok (outputs n)) query files limit =
        .ok ⟨used.map (tool.command query), found.take limit⟩ ∧
      (found.length < limit → used = batches files) := by
  intro found
  have hfew : ((⟨[], []⟩ : ToolRun).found.length : Int) < limit := by
    rw [List.length_nil]
    omega
  obtain ⟨used, hused, hrun, hlast⟩ := runBatches_of_readable hfew h
  simp only [List.length_nil, List.nil_append, takeTo_natCast, Int.ofNat_lt] at hrun hlast
  exact ⟨used, hused, (search_of_clean hclean _ _).trans hrun, hlast⟩

/-- If they cannot be read, or if a file has NUL in its path, the search breaks off. -/
theorem search_eq_ok_iff (hlimit : 1 ≤ limit) :
    (∃ done, tool.search naming (fun n _ => .ok (outputs n)) query files limit = .ok done) ↔
      (∀ f ∈ files, f.hasNull = false) ∧
        Readable tool query (naming.reading files) limit [] (printedRows outputs 0 (batches files)) := by
  constructor
  · rintro ⟨done, hdone⟩
    by_contra hnot
    by_cases hclean : ∀ f ∈ files, f.hasNull = false
    · have hfew : ((⟨[], []⟩ : ToolRun).found.length : Int) < limit := by
        rw [List.length_nil]
        omega
      obtain ⟨e, he⟩ := runBatches_of_not_readable hfew fun hr => hnot ⟨hclean, hr⟩
      rw [search_of_clean hclean, he] at hdone
      cases hdone
    · rw [search_of_not_clean hclean] at hdone
      cases hdone
  · rintro ⟨hclean, h⟩
    obtain ⟨used, -, hanswer, -⟩ := search_of_readable hlimit hclean h
    exact ⟨_, hanswer⟩

end Search

/-- The search with ripgrep or grep, whatever the programs print and whatever files paths name. It gives an
answer exactly if no file has NUL in its path and each row in front of which the limit is not reached can
be read, which regular rows can. The answer holds the first matches of all rows, in files that were
searched. Each run names from one to 200 files; together they name the files in order, up to a batch that
reaches the limit. -/
theorem search_batches {tool : Tool} (htool : tool = ripgrep ∨ tool = grep) {limit : Nat}
    (hlimit : 1 ≤ limit) (naming : Naming) (query : String) (files : List Path)
    (outputs : Nat → List Char) :
    let reading := naming.reading files
    let rows := (List.range (batches files).length).flatMap fun n => lines (outputs n)
    let answer := tool.search naming (fun n _ => .ok (outputs n)) query files limit
    ((∃ done, answer = .ok done) ↔
      (∀ f ∈ files, f.hasNull = false) ∧ Readable tool query reading limit [] rows) ∧
    ((∀ f ∈ files, f.hasNull = false) → (∀ row ∈ rows, Regular tool row) → ∃ done, answer = .ok done) ∧
    ∀ done, answer = .ok done →
      done.found = (rowMatches tool query reading rows).take limit ∧
      (∀ m ∈ done.found, m.file ∈ files.map naming.given) ∧
      ∃ used : List (List Path),
        done.commands = used.map (fun batch => tool.command query [] ++ batch.map (·.text)) ∧
        (∀ batch ∈ used, 1 ≤ batch.length ∧ batch.length ≤ 200) ∧
        used.flatten <+: files ∧
        (done.found.length < limit → used.flatten = files) ∧
        (files = [] → used = []) := by
  intro reading rows answer
  have hrows : printedRows outputs 0 (batches files) = rows := printedRows_batches outputs _
  have hcommand : ∀ batch, tool.command query batch = tool.command query [] ++ batch.map (·.text) := by
    intro batch
    rcases htool with rfl | rfl <;> simp [ripgrep, grep]
  have hgiven : (∃ done, answer = .ok done) ↔
      (∀ f ∈ files, f.hasNull = false) ∧ Readable tool query reading limit [] rows := by
    rw [← hrows]
    exact search_eq_ok_iff hlimit
  refine ⟨hgiven, fun hclean hregular => hgiven.2 ⟨hclean, ?_⟩, fun done hdone => ?_⟩
  · exact readable_of_forall fun row hrow => rowMatch?_of_regular (hregular row hrow) query naming files
  · obtain ⟨hclean, hreadable⟩ := hgiven.1 ⟨done, hdone⟩
    obtain ⟨used, hused, hanswer, hlast⟩ := search_of_readable hlimit hclean (hrows.symm ▸ hreadable)
    rw [hrows] at hanswer hlast
    rw [show answer = _ from hanswer] at hdone
    cases hdone
    -- the batches that were used are the first ones, and all of them together are the files
    have hflat : used.flatten <+: files := by
      obtain ⟨rest, hrest⟩ := hused
      exact ⟨rest.flatten, by rw [← List.flatten_append, hrest, flatten_batches]⟩
    have hlengths : ∀ batch ∈ used, 1 ≤ batch.length ∧ batch.length ≤ 200 := fun batch hb =>
      length_of_mem_batchesFrom (hused.subset hb)
    refine ⟨rfl, fun m hm => file_of_mem_rowMatches (List.mem_of_mem_take hm), used,
      List.map_congr_left fun batch _ => hcommand batch, hlengths, hflat, fun hlow => ?_, fun hnone => ?_⟩
    · -- below the limit no batch was left out
      rw [hlast, flatten_batches]
      rw [List.length_take] at hlow
      omega
    · subst hnone
      exact List.prefix_nil.1 hused

/-! A file, and two events that tell of it: one with a line, the other with null in its place. -/

/-- The only file. -/
def eventFile : Path := ⟨.root, ["repo", "a.v"]⟩

def lineEvent : String :=
  "\x7b\"type\":\"match\",\"data\":\x7b\"path\":\x7b\"text\":\"/repo/a.v\"\x7d,\"lines\":\x7b\"text\":\"x\"\x7d,\"line_number\":1\x7d\x7d"

def nullEvent : String :=
  "\x7b\"type\":\"match\",\"data\":\x7b\"path\":\x7b\"text\":\"/repo/a.v\"\x7d,\"lines\":null,\"line_number\":1\x7d\x7d"

/-- Once the limit is reached, an event without a line is not read any more. -/
theorem search_batches_lineEvent :
    (ripgrep = ripgrep ∨ ripgrep = grep) ∧ 1 ≤ 1 ∧ ∃ done,
      ripgrep.search namedFile (fun _ _ => .ok (lineEvent ++ "\n" ++ nullEvent).toList) "x" [eventFile]
        (1 : Nat) = .ok done ∧
      done.found.map ToolMatch.lineMatch = [⟨eventFile, 1, 1, "x"⟩] ∧
      done.found = (rowMatches ripgrep "x" (namedFile.reading [eventFile])
        ((List.range (batches [eventFile]).length).flatMap fun _ =>
          lines (lineEvent ++ "\n" ++ nullEvent).toList)).take 1 := by
  have hfound : (ripgrep.search namedFile (fun _ _ => .ok (lineEvent ++ "\n" ++ nullEvent).toList) "x"
      [eventFile] (1 : Nat)).map (fun done => done.found.map ToolMatch.lineMatch) =
        .ok [⟨eventFile, 1, 1, "x"⟩] := by decide +kernel
  obtain ⟨done, hdone, hmatch⟩ := Except.map_eq_ok hfound
  exact ⟨.inl rfl, Nat.le_refl 1, done, hdone, hmatch,
    ((search_batches (.inl rfl) (Nat.le_refl 1) namedFile "x" [eventFile]
      fun _ => (lineEvent ++ "\n" ++ nullEvent).toList).2.2 done hdone).1⟩

/-- An event of a match whose data have a path and the number of a line, but null for the line itself,
breaks the search off. -/
theorem search_breaks_off_nullEvent :
    lines nullEvent.toList = [nullEvent.toList] ∧
    Json.parse nullEvent.toList = .ok (.obj [("type", .str "match"), ("data", .obj [
      ("path", .obj [("text", .str "/repo/a.v")]), ("lines", .null), ("line_number", .int 1)])]) ∧
    ripgrep.search namedFile (fun _ _ => .ok nullEvent.toList) "x" [eventFile] 10 =
      .error (.broken (.misfit (.noMember "NoneType" "get"))) := by
  refine ⟨by decide +kernel, by cbv, by cbv⟩

end RtlAtlas.Search
