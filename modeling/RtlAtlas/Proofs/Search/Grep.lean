/-
grep and the scan. grep is run on batches of files and prints path, number and text of every line that
holds the query, with colons between. Read back row by row, this gives the matches that scanning the
files gives, in the same order and cut at the same place: a path is not taken for more than it is as
long as no number between colons stands in it. A query with a NUL character cannot be handed to a
program at all; there the two differ.
-/
import RtlAtlas.Proofs.Search.Batch
import RtlAtlas.Proofs.Text.Lines
import RtlAtlas.Proofs.Text.Lower
import RtlAtlas.Proofs.Text.Utf8
import Mathlib.Data.List.Forall2
import Mathlib.Data.List.TakeWhile
import Mathlib.Data.Nat.Digits.Lemmas

namespace RtlAtlas.Text

/-! ## Numbers -/

theorem ascii_of_isDigit {c : Char} (h : c.isDigit = true) : c.toNat < 0x80 := by
  rw [Char.isDigit, Bool.and_eq_true, decide_eq_true_iff, decide_eq_true_iff] at h
  exact Nat.lt_of_le_of_lt (UInt32.le_iff_toNat_le.1 h.2) (by decide)

/-- The decimal digits of ASCII write their distance from zero and break no line. -/
theorem digit_of_isDigit {c : Char} (h : c.isDigit = true) :
    digitValue? c = some (c.toNat - '0'.toNat) ∧ isLineBreak c = false := by
  have table : ∀ n < 0x80, (Char.ofNat n).isDigit = true →
      digitValue? (Char.ofNat n) = some ((Char.ofNat n).toNat - '0'.toNat) ∧
        isLineBreak (Char.ofNat n) = false := by decide +kernel
  have := table c.toNat (ascii_of_isDigit h)
  rw [Char.ofNat_toNat] at this
  exact this h

theorem isDigit_of_mem_toString {n : Nat} {c : Char} (h : c ∈ (toString n).toList) :
    c.isDigit = true := by
  rw [Nat.toString_eq_ofList_toDigits, String.toList_ofList] at h
  exact Nat.isDigit_of_mem_toDigits (by decide) (by decide) h

theorem decimal_toString (n : Nat) : decimal (toString n).toList = n := by
  have hdigits : ∀ (cs : List Char) (start : Nat), (∀ c ∈ cs, c.isDigit = true) →
      cs.foldl (fun n c => 10 * n + (digitValue? c).getD 0) start = Nat.ofDigitChars 10 cs start := by
    intro cs
    induction cs with
    | nil => intro start _; rfl
    | cons c cs ih =>
      intro start h
      rw [List.forall_mem_cons] at h
      rw [List.foldl_cons, ih _ h.2, (digit_of_isDigit h.1).1]
      rfl
  rw [decimal, hdigits _ _ fun c => isDigit_of_mem_toString, Nat.toString_eq_ofList_toDigits,
    String.toList_ofList, Nat.ofDigitChars_ten_toDigits]

theorem length_toString_le {n k : Nat} (hk : 0 < k) : (toString n).toList.length ≤ k ↔ n < 10 ^ k := by
  rw [Nat.toString_eq_ofList_toDigits, String.toList_ofList, Nat.length_toDigits_le_iff (by decide) hk]

end RtlAtlas.Text

namespace RtlAtlas.Search

open RtlAtlas.Text

/-! ## A printed line -/

/-- A number between colons stands in a text. -/
def Marked (cs : List Char) : Prop :=
  ∃ before digits after, digits ≠ [] ∧ (∀ d ∈ digits, isDigit d = true) ∧
    cs = before ++ ':' :: (digits ++ ':' :: after)

theorem lineNumber?_eq_some {cs digits rest : List Char} : lineNumber? cs = some (digits, rest) ↔
    digits ≠ [] ∧ (∀ d ∈ digits, isDigit d = true) ∧ cs = ':' :: (digits ++ ':' :: rest) := by
  constructor
  · intro h
    unfold lineNumber? at h
    split at h
    · rename_i ds
      simp only at h
      split at h
      · rename_i d ds' _ htake hdrop
        cases h
        exact ⟨by simp [htake], fun x hx => List.mem_takeWhile_imp hx,
          by rw [← hdrop, List.takeWhile_append_dropWhile]⟩
      · cases h
    · cases h
  · rintro ⟨hne, hdigits, rfl⟩
    obtain ⟨d, ds, rfl⟩ := List.exists_cons_of_ne_nil hne
    have hcolon : isDigit ':' = false := by decide
    simp only [lineNumber?, List.takeWhile_append_of_pos hdigits, List.dropWhile_append_of_pos hdigits,
      List.takeWhile_cons, List.dropWhile_cons, hcolon, Bool.false_eq_true, if_false, List.append_nil]

/-- A printed line is split at the number behind its path. -/
theorem grepLine?_printed {digits text : List Char} (hne : digits ≠ [])
    (hdigits : ∀ d ∈ digits, isDigit d = true) : ∀ {path : List Char}, ¬Marked (path ++ [':']) →
    grepLine? (path ++ ':' :: (digits ++ ':' :: text)) = some (path, digits, text)
  | [], _ => by
    rw [List.nil_append, grepLine?, lineNumber?_eq_some.2 ⟨hne, hdigits, rfl⟩]
  | c :: cs, h => by
    have hrest : ¬Marked (cs ++ [':']) := by
      rintro ⟨before, ds, after, hds, hall, heq⟩
      exact h ⟨c :: before, ds, after, hds, hall, by rw [List.cons_append, heq, List.cons_append]⟩
    -- a number that started in the path would end in it or at the colon behind it
    have hnone : lineNumber? (c :: (cs ++ ':' :: (digits ++ ':' :: text))) = none := by
      rw [Option.eq_none_iff_forall_not_mem]
      rintro ⟨ds, rest⟩ hmem
      obtain ⟨hds, hall, heq⟩ := lineNumber?_eq_some.1 hmem
      rw [List.cons.injEq] at heq
      obtain ⟨rfl, heq⟩ := heq
      have hcolon : ':' ∉ ds := fun hm => absurd (hall _ hm) (by decide)
      rcases List.append_eq_append_iff.1 heq with ⟨a, rfl, ha⟩ | ⟨a, rfl, ha⟩
      · cases a with
        | nil => exact h ⟨[], cs, [], by simpa using hds, by simpa using hall, by simp⟩
        | cons d a =>
          obtain ⟨rfl, -⟩ := List.cons_eq_cons.1 ha
          exact hcolon (by simp)
      · cases a with
        | nil => exact h ⟨[], ds, [], hds, hall, by simp⟩
        | cons d a =>
          obtain ⟨rfl, -⟩ := List.cons_eq_cons.1 ha
          exact h ⟨[], ds, a ++ [':'], hds, hall, by simp⟩
    rw [List.cons_append, grepLine?, hnone, grepLine?_printed hne hdigits hrest]
    rfl

/-- A path without a colon can be told from what is printed behind it. -/
theorem unmarked_of_notMem {path : List Char} (h : ':' ∉ path) : ¬Marked (path ++ [':']) := by
  rintro ⟨before, digits, after, -, -, heq⟩
  have hcount := congrArg (List.count ':') heq
  simp only [List.count_append, List.count_cons, List.count_eq_zero.2 h] at hcount
  simp at hcount
  omega

/-! ## Batches -/

section Reading

variable {tool : Tool} {query : String} {reading : Reading} {limit : Int}

/-- A row of output tells of a match. -/
def Tells (tool : Tool) (query : String) (reading : Reading) (row : List Char) (m : ToolMatch) : Prop :=
  ∃ told, tool.parseLine query.toList row = .ok (some told) ∧ reading.matchOf? told = .ok (some m)

theorem Tells.rowMatch?_eq {row : List Char} {m : ToolMatch} (h : Tells tool query reading row m) :
    rowMatch? tool query reading row = .ok (some m) := by
  obtain ⟨told, hparse, hmatch⟩ := h
  rw [rowMatch?_of_parse hparse, Option.elim_some, hmatch]

/-- Where each row tells of a match, the matches are taken in order up to the limit. -/
theorem collectLines_eq {rows : List (List Char)} {ms : List ToolMatch}
    (h : List.Forall₂ (Tells tool query reading) rows ms) {found : List ToolMatch}
    (hfew : (found.length : Int) < limit) : collectLines tool query.toList reading limit found rows =
      .ok (takeTo limit (found ++ ms), decide (limit ≤ (found ++ ms).length)) := by
  obtain ⟨hmatches, hread⟩ : rowMatches tool query reading rows = ms ∧
      ∀ row ∈ rows, ∃ m?, rowMatch? tool query reading row = .ok m? := by
    induction h with
    | nil => exact ⟨rfl, List.forall_mem_nil _⟩
    | cons hrow _ ih =>
      refine ⟨?_, List.forall_mem_cons.2 ⟨⟨_, hrow.rowMatch?_eq⟩, ih.2⟩⟩
      rw [rowMatches_cons hrow.rowMatch?_eq, ih.1]
      rfl
  rw [← hmatches]
  exact collectLines_of_readable hfew (readable_of_forall hread)

/-- The matches of a tool that tells, of each batch, of certain matches. -/
theorem runBatches_eq {run : Nat → List String → Except BackendFault (List Char)}
    {ms : List Path → List ToolMatch} : ∀ {bs : List (List Path)} (done : ToolRun),
    (∀ batch ∈ bs, ∀ n, ∃ output, run n (tool.command query batch) = .ok output ∧
      List.Forall₂ (Tells tool query reading) (lines output) (ms batch)) →
    (done.found.length : Int) < limit →
    ∃ all, runBatches tool run query reading limit done bs = .ok all ∧
      all.found = takeTo limit (done.found ++ bs.flatMap ms)
  | [], done, _, hfew =>
    ⟨done, rfl, by rw [List.flatMap_nil, List.append_nil, takeTo_of_le (by omega)]⟩
  | batch :: bs, done, h, hfew => by
    rw [List.forall_mem_cons] at h
    obtain ⟨output, hrun, htells⟩ := h.1 done.commands.length
    simp only [runBatches, hrun, collectLines_eq htells hfew, List.flatMap_cons, ← List.append_assoc]
    by_cases hfull : limit ≤ (done.found ++ ms batch).length
    · rw [decide_eq_true hfull, if_pos rfl, takeTo_append (by omega) hfull]
      exact ⟨_, rfl, rfl⟩
    · have hall : takeTo limit (done.found ++ ms batch) = done.found ++ ms batch :=
        takeTo_of_le (by omega)
      rw [decide_eq_false hfull, if_neg Bool.false_ne_true, hall]
      exact runBatches_eq _ h.2 (Int.not_le.1 hfull)

end Reading

/-! ## What grep prints -/

/-- A line holds a query, where the case of letters does not count. -/
def Holds (query line : List Char) : Prop := query.map Char.toLower <:+: line.map Char.toLower

instance (query line : List Char) : Decidable (Holds query line) :=
  inferInstanceAs (Decidable (query.map Char.toLower <:+: line.map Char.toLower))

/-- A line of a file with its number. -/
structure Row where
  file : Path
  line : List Char
  number : Nat

/-- The lines of some files that hold a query, file after file. -/
def rowsOf (content : Path → List Char) (query : List Char) (files : List Path) : List Row :=
  files.flatMap fun f =>
    (((feedLines (content f)).zipIdx 1).filter fun l => Holds query l.1).map fun l => ⟨f, l.1, l.2⟩

/-- What grep prints of a line: path, number and text. -/
def Row.printed (r : Row) : List Char :=
  r.file.text.toList ++ ':' :: ((toString r.number).toList ++ ':' :: r.line)

/-- How grep ends for a query in some files with certain contents. -/
structure Greps (content : Path → List Char) (query : List Char) (files : List Path) (e : Exit) :
    Prop where
  prints : e.output = (rowsOf content query files).flatMap (·.printed ++ ['\n'])
  status : e.status = if (rowsOf content query files).isEmpty then noMatch else 0

/-- A file that grep takes for text, and whose path can be told from the number behind it. -/
structure Greppable (f : Path) (content : List Char) : Prop where
  resolved : f.Resolved
  unbroken : Unbroken f.text.toList
  unmarked : ¬Marked (f.text.toList ++ [':'])
  ascii : Ascii content
  noNull : Char.ofNat 0 ∉ content
  feedOnly : FeedOnly content
  /-- The numbers of the lines are no longer than a number that can be read back. -/
  countable : (feedLines content).length < 10 ^ digitLimit

/-- A file is named by its own path. -/
structure Naming.Fixes (naming : Naming) (f : Path) : Prop where
  given : naming.given f = f
  printed : naming.printed f = .ok (some f)

/-- Without links on the way a resolved path names itself. -/
theorem fixes_namedFile {f : Path} (h : f.Resolved) : namedFile.Fixes f := by
  have hplain := FileTree.plain_of_resolved h
  refine ⟨hplain, ?_⟩
  show (FileTree.placeOf f).map _ = _
  rw [FileTree.placeOf_eq_ok.2 ⟨h.clean, hplain.symm⟩, Except.map, if_pos h.isAbsolute]

/-- The match that a line is. -/
def Row.lineMatch (query : List Char) (r : Row) : LineMatch :=
  ⟨r.file, r.number, columnOf r.line query, String.ofList (trim r.line)⟩

/-- The same match as it is read from what grep prints. -/
def Row.toolMatch (query : List Char) (r : Row) : ToolMatch :=
  ⟨r.file, Json.ofNat r.number, columnOf r.line query, String.ofList (trim r.line)⟩

theorem Greps.answer {content : Path → List Char} {query : List Char} {files : List Path} {e : Exit}
    (h : Greps content query files e) (name : String) : e.answer name = .ok e.output := by
  unfold Exit.answer
  rw [h.prints, h.status]
  cases rowsOf content query files with
  | nil => rfl
  | cons r rows => rw [List.isEmpty_cons, if_neg (by decide), if_pos (by decide)]

section Files

variable {content : Path → List Char} {files : List Path} {query : String}

theorem mem_rowsOf {query : List Char} {r : Row} : r ∈ rowsOf content query files ↔ r.file ∈ files ∧
    (r.line, r.number) ∈ (feedLines (content r.file)).zipIdx 1 ∧ Holds query r.line := by
  simp only [rowsOf, List.mem_flatMap, List.mem_map, List.mem_filter, decide_eq_true_eq]
  constructor
  · rintro ⟨f, hf, l, ⟨hl, hh⟩, rfl⟩
    exact ⟨hf, hl, hh⟩
  · rintro ⟨hf, hl, hh⟩
    exact ⟨r.file, hf, (r.line, r.number), ⟨hl, hh⟩, rfl⟩

/-- In ASCII texts, lines are found by lower-casing as grep finds them. -/
theorem occurs_iff_holds {query line : List Char} (hq : Ascii query)
    (hl : Ascii line) : occurs (lower query) (lower line) = true ↔ Holds query line := by
  rw [occurs_iff, lower_of_ascii hq, lower_of_ascii hl, Holds]

theorem mem_lines_of_mem_zipIdx {cs line : List Char} {n : Nat} (hfeed : FeedOnly cs)
    (h : (line, n) ∈ (feedLines cs).zipIdx 1) : line ∈ lines cs := by
  rw [lines_eq_feedLines hfeed]
  exact List.fst_mem_of_mem_zipIdx h

variable (hfiles : ∀ f ∈ files, Greppable f (content f))

include hfiles

/-- Scanning a file gives the lines that hold the query. -/
theorem flatMap_fileMatches {read : Path → Option (List UInt8)}
    (hread : ∀ f ∈ files, read f = some (encode (content f)))
    (hquery : Ascii query.toList) :
    files.flatMap (fileMatches read query) =
      (rowsOf content query.toList files).map (·.lineMatch query.toList) := by
  rw [rowsOf, List.map_flatMap]
  refine List.flatMap_congr fun f hf => ?_
  have hg := hfiles f hf
  have htext : scannedText (encode (content f)) = content f := by
    rw [scannedText, decodeMarked_encode, unifyBreaks_of_notMem hg.feedOnly.notMem_return]
  rw [fileMatches, hread f hf]
  simp only [htext, scanLines, matchesIn, lines_eq_feedLines hg.feedOnly, List.map_map]
  rw [← List.filterMap_eq_map, List.filterMap_filter]
  refine List.filterMap_congr fun l hl => ?_
  have hascii : Ascii l.1 := fun c hc =>
    hg.ascii c (mem_of_mem_lines (mem_lines_of_mem_zipIdx hg.feedOnly hl) hc).1
  simp only [occurs_iff_holds hquery hascii, decide_eq_true_eq]
  rfl

/-- A printed row stays on one line. -/
theorem unbroken_printed {query : List Char} {r : Row} (h : r ∈ rowsOf content query files) :
    Unbroken r.printed := by
  obtain ⟨hf, hl, -⟩ := mem_rowsOf.1 h
  have hg := hfiles _ hf
  have hdigits : Unbroken (toString r.number).toList := fun c hc =>
    (digit_of_isDigit (isDigit_of_mem_toString hc)).2
  have hline : Unbroken r.line := fun c hc =>
    (mem_of_mem_lines (mem_lines_of_mem_zipIdx hg.feedOnly hl) hc).2
  exact hg.unbroken.append (.cons (by decide) (hdigits.append (.cons (by decide) hline)))

/-- A printed row is read back as the match that it is. -/
theorem tells_printed {naming : Naming} (hnamed : ∀ f ∈ files, naming.Fixes f) {r : Row}
    (h : r ∈ rowsOf content query.toList files) :
    Tells grep query (naming.reading files) r.printed (r.toolMatch query.toList) := by
  obtain ⟨hf, hl, -⟩ := mem_rowsOf.1 h
  have hg := hfiles _ hf
  have hnumber : r.number < 10 ^ digitLimit := by
    have hle : r.number < (feedLines (content r.file)).length + 1 := List.snd_lt_of_mem_zipIdx hl
    have := hg.countable
    omega
  have hne : (toString r.number).toList ≠ [] := by
    rw [Nat.toString_eq_ofList_toDigits, String.toList_ofList]
    exact Nat.toDigits_ne_nil
  have hdigits : ∀ d ∈ (toString r.number).toList, isDigit d = true := fun d hd => by
    rw [isDigit, (digit_of_isDigit (isDigit_of_mem_toString hd)).1]
    rfl
  have hread : numberOf (toString r.number).toList = .ok (Json.ofNat r.number) := by
    rw [numberOf, if_neg (Nat.not_lt.2 ((length_toString_le (by decide)).2 hnumber)),
      decimal_toString]
  have hindexed : r.file ∈ files.map naming.given :=
    List.mem_map.2 ⟨r.file, hf, (hnamed r.file hf).given⟩
  refine ⟨⟨some r.file, numberOf (toString r.number).toList, columnOf r.line query.toList,
    String.ofList (trim r.line)⟩, ?_, ?_⟩
  · simp only [grep, Row.printed, grepLine?_printed hne hdigits hg.unmarked, Option.map_some,
      String.ofList_toList, Path.ofString_text hg.resolved.proper]
  · simp only [Reading.matchOf?, Naming.reading, (hnamed r.file hf).printed, hread, Bind.bind,
      Except.bind, List.contains_iff_mem.2 hindexed, if_true]
    rfl

end Files

/-! ## grep and the scan -/

/-- Resolved files that grep can read, a query in ASCII on one line, and runs of grep that behave as
documented. -/
structure Comparable (naming : Naming) (content : Path → List Char) (read : Path → Option (List UInt8))
    (exec : Nat → List String → Except String Exit) (files : List Path) (query : String) : Prop where
  named : ∀ f ∈ files, naming.Fixes f
  reads : ∀ f ∈ files, read f = some (encode (content f))
  greppable : ∀ f ∈ files, Greppable f (content f)
  ascii : Ascii query.toList
  unbroken : Unbroken query.toList
  runs : ∀ batch ∈ batches files, ∀ n, ∃ e,
    exec n (grep.command query batch) = .ok e ∧ Greps content query.toList batch e

section Comparison

variable {naming : Naming} {content : Path → List Char} {read : Path → Option (List UInt8)}
  {exec : Nat → List String → Except String Exit} {files : List Path} {query : String} {limit : Int}

theorem mem_of_mem_batches {batch : List Path} {f : Path} (hb : batch ∈ batches files)
    (hf : f ∈ batch) : f ∈ files := by
  rw [← flatten_batches files]
  exact List.mem_flatten.2 ⟨batch, hb, hf⟩

/-- The rows of all batches are the rows of the files. -/
theorem flatMap_rowsOf (content : Path → List Char) (query : List Char) (files : List Path) :
    (batches files).flatMap (rowsOf content query) = rowsOf content query files := by
  conv_rhs => rw [rowsOf, ← flatten_batches files, List.flatten_eq_flatMap, List.flatMap_assoc]
  rfl

theorem scan_search (h : Comparable naming content read exec files query) (hlimit : 1 ≤ limit) :
    (scanBackend read).search query files limit =
      .ok (takeTo limit ((rowsOf content query.toList files).map (·.lineMatch query.toList))) := by
  show Except.ok (scanFrom read query limit [] files) = _
  rw [scanFrom_eq (by simp; omega), List.nil_append, flatMap_fileMatches h.greppable h.reads h.ascii]

/-- A command without NUL in its query can be handed to the program. -/
theorem command_noNull {batch : List Path} (hbatch : ∀ f ∈ batch, f.Resolved)
    (hnull : Char.ofNat 0 ∉ query.toList) :
    ((grep.command query batch).any fun a => a.toList.contains (Char.ofNat 0)) = false := by
  rw [List.any_eq_false]
  intro a ha
  rw [List.contains_iff_mem]
  rcases List.mem_append.1 ha with ha | ha
  · rcases List.mem_cons.1 ha with rfl | ha
    · decide
    · have hoptions : ∀ o ∈ ["-nHIiF", "-e", "--"], Char.ofNat 0 ∉ o.toList := by decide
      simp only [List.mem_cons, List.not_mem_nil, or_false] at ha hoptions
      rcases ha with rfl | rfl | rfl | rfl
      · exact hoptions _ (.inl rfl)
      · exact hoptions _ (.inr (.inl rfl))
      · exact hnull
      · exact hoptions _ (.inr (.inr rfl))
  · obtain ⟨f, hf, rfl⟩ := List.mem_map.1 ha
    exact (hbatch f hf).null_notMem

/-- The run on a batch prints a row for each line that holds the query. -/
theorem run_batch (h : Comparable naming content read exec files query)
    (hnull : Char.ofNat 0 ∉ query.toList) {batch : List Path} (hb : batch ∈ batches files) (n : Nat) :
    ∃ output, runProgram grep.name exec n (grep.command query batch) = .ok output ∧
      List.Forall₂ (Tells grep query (naming.reading files)) (lines output)
        ((rowsOf content query.toList batch).map (·.toolMatch query.toList)) := by
  obtain ⟨e, hexec, he⟩ := h.runs batch hb n
  have hfiles : ∀ f ∈ batch, f ∈ files := fun f hf => mem_of_mem_batches hb hf
  have hrows : ∀ r ∈ rowsOf content query.toList batch, r ∈ rowsOf content query.toList files :=
    fun r hr => mem_rowsOf.2 ((mem_rowsOf.1 hr).imp_left (hfiles r.file))
  refine ⟨e.output, ?_, ?_⟩
  · have hargs := command_noNull (fun f hf => (h.greppable f (hfiles f hf)).resolved) hnull
    rw [runProgram, hargs, if_neg Bool.false_ne_true, hexec]
    exact he.answer grep.name
  · have hlines : lines e.output = (rowsOf content query.toList batch).map Row.printed := by
      rw [he.prints, ← List.flatMap_map Row.printed (· ++ ['\n']), lines_rows]
      exact List.forall_mem_map.2 fun r hr => unbroken_printed h.greppable (hrows r hr)
    rw [hlines, List.forall₂_map_left_iff, List.forall₂_map_right_iff, List.forall₂_same]
    exact fun r hr => tells_printed h.greppable h.named (hrows r hr)

/-- Without NUL in the query, grep gives the lines that hold the query. -/
theorem grep_search (h : Comparable naming content read exec files query) (hlimit : 1 ≤ limit)
    (hnull : Char.ofNat 0 ∉ query.toList) (available : Bool) :
    (grep.backend available naming (runProgram grep.name exec)).search query files limit =
      .ok (takeTo limit ((rowsOf content query.toList files).map (·.lineMatch query.toList))) := by
  have hclean : files.any (·.hasNull) = false :=
    List.any_eq_false.2 fun f hf => by simp [(h.greppable f hf).resolved.clean]
  obtain ⟨all, hrun, hfound⟩ := runBatches_eq ⟨[], []⟩
    (fun batch hb n => run_batch h hnull hb n) (show (0 : Int) < limit by omega)
  rw [List.nil_append, ← List.map_flatMap, flatMap_rowsOf] at hfound
  show (grep.search naming (runProgram grep.name exec) query files limit).map _ = _
  rw [Tool.search, hclean, if_neg Bool.false_ne_true, hrun]
  show Except.ok (all.found.map ToolMatch.lineMatch) = _
  rw [hfound, map_takeTo, List.map_map]
  rfl

/-- A query with NUL in it is refused. -/
theorem grep_refuses (hclean : ∀ f ∈ files, f.hasNull = false) (hfiles : files ≠ [])
    (hnull : Char.ofNat 0 ∈ query.toList) (available : Bool) :
    (grep.backend available naming (runProgram grep.name exec)).search query files limit =
      .error (.broken .nullByte) := by
  have hany : files.any (·.hasNull) = false := List.any_eq_false.2 fun f hf => by simp [hclean f hf]
  obtain ⟨batch, rest, hb⟩ : ∃ batch rest, batches files = batch :: rest := by
    refine List.exists_cons_of_ne_nil fun he => hfiles ?_
    rw [← flatten_batches files, he, List.flatten_nil]
  have hargs : ((grep.command query batch).any fun a => a.toList.contains (Char.ofNat 0)) = true :=
    List.any_eq_true.2 ⟨query, by simp [grep], List.contains_iff_mem.2 hnull⟩
  show (grep.search naming (runProgram grep.name exec) query files limit).map _ = _
  rw [Tool.search, hany, if_neg Bool.false_ne_true, hb]
  simp only [runBatches, runProgram, hargs, if_true]
  rfl

/-- grep finds what the scan finds, unless the query holds NUL and there is a file to look in. -/
theorem grep_agrees_iff (h : Comparable naming content read exec files query) (hlimit : 1 ≤ limit)
    (available : Bool) :
    (grep.backend available naming (runProgram grep.name exec)).search query files limit =
        (scanBackend read).search query files limit ↔
      files = [] ∨ Char.ofNat 0 ∉ query.toList := by
  by_cases hnull : Char.ofNat 0 ∈ query.toList
  · by_cases hfiles : files = []
    · subst hfiles
      exact iff_of_true rfl (.inl rfl)
    · have hclean : ∀ f ∈ files, f.hasNull = false := fun f hf => (h.greppable f hf).resolved.clean
      rw [grep_refuses hclean hfiles hnull, scan_search h hlimit]
      simp [hfiles, hnull]
  · rw [grep_search h hlimit hnull, scan_search h hlimit]
    exact iff_of_true rfl (.inr hnull)

end Comparison

/-! A file with two lines, of which one holds a text; grep prints that line. -/

/-- The only file. -/
def lone : Path := ⟨.root, ["repo", "a.v"]⟩

def loneText : List Char := "module M;\nendmodule\n".toList

/-- grep finds the first line, whatever it is asked. -/
def firstLine (_ : Nat) (_ : List String) : Except String Exit :=
  .ok ⟨0, "/repo/a.v:1:module M;\n".toList, []⟩

/-- grep finds nothing, whatever it is asked. -/
def nothing (_ : Nat) (_ : List String) : Except String Exit := .ok ⟨noMatch, [], []⟩

theorem greppable_lone : Greppable lone loneText where
  resolved := by decide +kernel
  unbroken := by decide +kernel
  unmarked := unmarked_of_notMem (by decide +kernel)
  ascii := by decide +kernel
  noNull := by decide +kernel
  feedOnly := by decide +kernel
  countable := by decide +kernel

theorem grep_agrees_lone : Comparable namedFile (fun _ => loneText) (fun _ => some (encode loneText)) firstLine
      [lone] "m;" ∧
    (grep.backend true namedFile (runProgram grep.name firstLine)).search "m;" [lone] 500 =
      (scanBackend fun _ => some (encode loneText)).search "m;" [lone] 500 := by
  have h : Comparable namedFile (fun _ => loneText) (fun _ => some (encode loneText)) firstLine
      [lone] "m;" := {
    named := fun f hf => List.mem_singleton.1 hf ▸ fixes_namedFile greppable_lone.resolved
    reads := fun _ _ => rfl
    greppable := fun f hf => List.mem_singleton.1 hf ▸ greppable_lone
    ascii := by decide +kernel
    unbroken := by decide +kernel
    runs := fun batch hb _ => by
      obtain rfl := List.mem_singleton.1 (hb : batch ∈ [[lone]])
      exact ⟨_, rfl, by decide +kernel, by decide +kernel⟩ }
  exact ⟨h, (grep_agrees_iff h (by decide) true).2 (.inr (by decide +kernel))⟩

/-- A query with NUL in it: nothing is found by scanning, and grep cannot be asked. -/
theorem grep_differs_lone : Comparable namedFile (fun _ => loneText) (fun _ => some (encode loneText)) nothing
      [lone] (String.ofList ['m', Char.ofNat 0]) ∧
    (scanBackend fun _ => some (encode loneText)).search (String.ofList ['m', Char.ofNat 0]) [lone] 500 =
      .ok [] ∧
    (grep.backend true namedFile (runProgram grep.name nothing)).search
      (String.ofList ['m', Char.ofNat 0]) [lone] 500 = .error (.broken .nullByte) := by
  refine ⟨{
    named := fun f hf => List.mem_singleton.1 hf ▸ fixes_namedFile greppable_lone.resolved
    reads := fun _ _ => rfl
    greppable := fun f hf => List.mem_singleton.1 hf ▸ greppable_lone
    ascii := by decide +kernel
    unbroken := by decide +kernel
    runs := fun batch hb _ => ?_ }, ?_, grep_refuses (by decide +kernel) (by decide) (by decide +kernel) _⟩
  · obtain rfl := List.mem_singleton.1 (hb : batch ∈ [[lone]])
    exact ⟨_, rfl, by decide +kernel, by decide +kernel⟩
  · decide +kernel

end RtlAtlas.Search
