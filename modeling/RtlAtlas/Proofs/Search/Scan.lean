/-
What scanning files answers: the matches of the files that can be read, file after file, cut at the
limit. A line of a file matches once, so sorting by file and line leaves no two matches side by side
that are tied.
-/
import RtlAtlas.Proofs.Order
import RtlAtlas.Search.Engine
import Mathlib.Data.List.Basic

namespace RtlAtlas.Search

open RtlAtlas.Text

theorem takeTo_of_le {α : Type} {limit : Int} {xs : List α} (h : (xs.length : Int) ≤ limit) :
    takeTo limit xs = xs := by
  rw [takeTo, if_pos (by omega), List.take_of_length_le (by omega)]

/-- Behind a limit that is reached, nothing is taken. -/
theorem takeTo_append {α : Type} {limit : Int} {xs : List α} (h0 : 0 ≤ limit)
    (h : limit ≤ xs.length) (ys : List α) : takeTo limit (xs ++ ys) = takeTo limit xs := by
  rw [takeTo, if_pos h0, takeTo, if_pos h0, List.take_append_of_le_length (by omega)]

theorem map_takeTo {α β : Type} (limit : Int) (f : α → β) (xs : List α) :
    (takeTo limit xs).map f = takeTo limit (xs.map f) := by
  unfold takeTo
  split <;> simp [List.map_take]

/-- The matches in a file as it is read; none if it cannot be. -/
def fileMatches (read : Path → Option (List UInt8)) (query : String) (f : Path) : List LineMatch :=
  match read f with
  | none => []
  | some bytes => scanLines f (scannedText bytes) query.toList

theorem scanFrom_eq {read : Path → Option (List UInt8)} {query : String} {limit : Int} :
    ∀ {files : List Path} {found : List LineMatch}, (found.length : Int) < limit →
      scanFrom read query limit found files =
        takeTo limit (found ++ files.flatMap (fileMatches read query))
  | [], found, h => by
    rw [scanFrom, List.flatMap_nil, List.append_nil, takeTo_of_le (by omega)]
  | f :: fs, found, h => by
    rw [List.flatMap_cons, scanFrom]
    unfold fileMatches
    cases read f with
    | none => exact scanFrom_eq h
    | some bytes =>
      simp only [← List.append_assoc]
      split
      · -- the limit is reached in this file, so the files after it are not looked at
        rename_i hfull
        rw [takeTo_append (by omega) hfull]
      · exact scanFrom_eq (by omega)

/-! ## The order of matches -/

theorem mem_scanLines {f : Path} {content query : List Char} {m : LineMatch} :
    m ∈ scanLines f content query ↔ ∃ line number, (line, number) ∈ (lines content).zipIdx 1 ∧
      occurs (lower query) (lower line) = true ∧
      ⟨f, number, columnOf line query, String.ofList (trim line)⟩ = m := by
  simp only [scanLines, matchesIn, List.mem_filterMap, Prod.exists, Option.ite_none_right_eq_some,
    Option.some.injEq]

theorem file_of_mem_scanLines {f : Path} {content query : List Char} {m : LineMatch}
    (h : m ∈ scanLines f content query) : m.file = f := by
  obtain ⟨_, _, -, -, rfl⟩ := mem_scanLines.1 h
  rfl

/-- The matches of a text are numbered upwards. -/
theorem pairwise_scanLines (f : Path) (content query : List Char) :
    (scanLines f content query).Pairwise fun a b => a.line < b.line := by
  have hnumbers : ((lines content).zipIdx 1).Pairwise fun a b => a.2 < b.2 := by
    rw [← List.pairwise_map (R := (· < ·)), List.zipIdx_map_snd]
    exact List.pairwise_lt_range' 1
  rw [scanLines, matchesIn, List.pairwise_filterMap]
  refine hnumbers.imp ?_
  rintro ⟨_, m⟩ ⟨_, n⟩ hmn x hx y hy
  simp only [Option.ite_none_right_eq_some, Option.some.injEq] at hx hy
  rw [← hx.2, ← hy.2]
  exact Int.ofNat_lt.2 hmn

namespace LineMatch

instance : Std.TransCmp LineMatch.ord :=
  inferInstanceAs (Std.TransCmp (compareLex (compareOn fun m : LineMatch => m.file.text)
    (compareOn fun m : LineMatch => m.line)))

theorem ord_eq_iff {a b : LineMatch} :
    LineMatch.ord a b = .eq ↔ a.file.text = b.file.text ∧ a.line = b.line := by
  rw [LineMatch.ord, Ordering.then_eq_eq, Std.LawfulEqCmp.compare_eq_iff_eq,
    Std.LawfulEqCmp.compare_eq_iff_eq]

/-- Some matches, no two of which stand on one line of one file. -/
def Apart (ms : List LineMatch) : Prop := ms.Pairwise fun a b => LineMatch.ord a b ≠ .eq

theorem apart_scanLines (f : Path) (content query : List Char) :
    Apart (scanLines f content query) :=
  (pairwise_scanLines f content query).imp fun {_ _} hlt heq =>
    absurd (ord_eq_iff.1 heq).2 (Int.ne_of_lt hlt)

/-- Matches of different files are apart, if those of each file are. -/
theorem apart_flatMap {files : List Path} {shown : Path → List LineMatch} (hnodup : files.Nodup)
    (hproper : ∀ f ∈ files, f.Proper) (hfile : ∀ f, ∀ m ∈ shown f, m.file = f)
    (hshown : ∀ f, Apart (shown f)) : Apart (files.flatMap shown) := by
  refine List.pairwise_flatMap.2 ⟨fun f _ => hshown f, ?_⟩
  refine hnodup.imp_of_mem fun {f g} hf hg hne a ha b hb heq => hne ?_
  have htext := (ord_eq_iff.1 heq).1
  rw [hfile f a ha, hfile g b hb] at htext
  exact Path.text_injective (hproper f hf) (hproper g hg) htext

theorem perm_sort (ms : List LineMatch) : (sort ms).Perm ms := List.mergeSort_perm ms _

theorem Apart.perm {ms ns : List LineMatch} (h : Apart ms) (hp : ms.Perm ns) : Apart ns :=
  (hp.pairwise_iff fun {_ _} hab heq =>
    hab (ord_eq_iff.2 ((ord_eq_iff.1 heq).imp Eq.symm Eq.symm))).1 h

/-- Sorted, matches that are apart follow each other strictly. -/
theorem pairwise_sort {ms : List LineMatch} (h : Apart ms) :
    (sort ms).Pairwise fun a b => LineMatch.ord a b = .lt :=
  pairwise_lt_mergeSort LineMatch.ord h

end LineMatch

theorem ord_lineHit (a b : LineMatch) : Hit.ord (lineHit a) (lineHit b) = LineMatch.ord a b := by
  have hrank : compare Origin.text.rank Origin.text.rank = .eq := rfl
  have hscore : compare (0 : Int) 0 = .eq := rfl
  rw [Hit.ord, LineMatch.ord, lineHit, lineHit, hrank, hscore]
  rfl

/-- Hits for sorted matches stay as they are. -/
theorem sort_map_lineHit {ms : List LineMatch} (h : ms.Pairwise fun a b => LineMatch.ord a b = .lt) :
    Hit.sort (ms.map lineHit) = ms.map lineHit := by
  refine List.mergeSort_of_pairwise (List.pairwise_map.2 (h.imp fun {a b} hab => ?_))
  rw [ord_lineHit, hab]
  rfl

end RtlAtlas.Search
