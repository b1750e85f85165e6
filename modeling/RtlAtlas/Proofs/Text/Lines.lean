/-
Lines of a text. A row of characters without a line break goes into one line; a line feed ends it.
Where line feeds are the only breaks, the lines are the parts between the line feeds.
-/
import RtlAtlas.Proofs.Path.Text
import RtlAtlas.Search.Installed
import Mathlib.Data.List.Basic

namespace RtlAtlas.Text

/-- A text without a line break. -/
def Unbroken (cs : List Char) : Prop := ∀ c ∈ cs, isLineBreak c = false

instance (cs : List Char) : Decidable (Unbroken cs) :=
  List.decidableBAll (isLineBreak · = false) cs

theorem Unbroken.append {cs ds : List Char} (hc : Unbroken cs) (hd : Unbroken ds) :
    Unbroken (cs ++ ds) :=
  fun c h => (List.mem_append.1 h).elim (hc c) (hd c)

theorem Unbroken.cons {c : Char} {cs : List Char} (hc : isLineBreak c = false) (h : Unbroken cs) :
    Unbroken (c :: cs) :=
  List.forall_mem_cons.2 ⟨hc, h⟩

theorem Unbroken.notMem_feed {cs : List Char} (h : Unbroken cs) : '\n' ∉ cs :=
  fun hm => absurd (h '\n' hm) (by decide)

/-- The code points that end a line. -/
def breakCodes : List Nat := [0xA, 0xB, 0xC, 0xD, 0x1C, 0x1D, 0x1E, 0x85, 0x2028, 0x2029]

theorem mem_breakCodes {c : Char} (h : isLineBreak c = true) : c.toNat ∈ breakCodes := by
  simp only [isLineBreak, Bool.or_eq_true, Bool.and_eq_true, decide_eq_true_eq, beq_iff_eq] at h
  simp only [breakCodes, List.mem_cons, List.not_mem_nil, or_false]
  omega

/-! ## One line -/

theorem linesFrom_cons {c : Char} (hc : isLineBreak c = false) (line cs : List Char) :
    linesFrom line (c :: cs) = linesFrom (c :: line) cs := by
  rw [linesFrom, if_neg (by simp [hc])]
  rintro ds rfl -
  exact absurd hc (by decide)

theorem linesFrom_append {cs : List Char} (h : Unbroken cs) (line rest : List Char) :
    linesFrom line (cs ++ rest) = linesFrom (cs.reverse ++ line) rest := by
  induction cs generalizing line with
  | nil => rfl
  | cons c cs ih =>
    rw [Unbroken, List.forall_mem_cons] at h
    rw [List.cons_append, linesFrom_cons h.1, ih h.2, List.reverse_cons, List.append_assoc,
      List.singleton_append]

theorem linesFrom_feed (line cs : List Char) :
    linesFrom line ('\n' :: cs) = line.reverse :: lines cs := by
  rw [linesFrom, if_pos (by decide), lines]
  exact fun _ h => absurd h (by decide)

/-- A line feed ends a line and the next one starts after it. -/
theorem lines_feed {line : List Char} (h : Unbroken line) (cs : List Char) :
    lines (line ++ '\n' :: cs) = line :: lines cs := by
  rw [lines, linesFrom_append h, List.append_nil, linesFrom_feed, List.reverse_reverse]

/-- Rows that are each ended by a line feed are the lines of the whole. -/
theorem lines_rows : ∀ {rows : List (List Char)}, (∀ row ∈ rows, Unbroken row) →
    lines (rows.flatMap (· ++ ['\n'])) = rows
  | [], _ => rfl
  | row :: rows, h => by
    rw [List.forall_mem_cons] at h
    rw [List.flatMap_cons, List.append_assoc, List.singleton_append, lines_feed h.1, lines_rows h.2]

theorem mem_of_mem_linesFrom {line cs row : List Char} {c : Char} (h : row ∈ linesFrom line cs)
    (hc : c ∈ row) : c ∈ line ∨ c ∈ cs ∧ isLineBreak c = false := by
  induction line, cs using linesFrom.induct with
  | case1 line hl => simp [linesFrom, hl] at h
  | case2 line hl =>
    rw [linesFrom, if_neg hl, List.mem_singleton] at h
    exact .inl (by simpa [h] using hc)
  | case3 line cs ih =>
    rw [linesFrom, List.mem_cons] at h
    rcases h with rfl | h
    · exact .inl (by simpa using hc)
    · obtain ⟨hcs, hb⟩ := (ih h).resolve_left List.not_mem_nil
      exact .inr ⟨by simp [hcs], hb⟩
  | case4 line d cs hpair hd ih =>
    rw [linesFrom, if_pos hd, List.mem_cons] at h
    · rcases h with rfl | h
      · exact .inl (by simpa using hc)
      · obtain ⟨hcs, hb⟩ := (ih h).resolve_left List.not_mem_nil
        exact .inr ⟨List.mem_cons_of_mem d hcs, hb⟩
    · exact hpair
  | case5 line d cs hpair hd ih =>
    rw [linesFrom, if_neg hd] at h
    · rcases ih h with h | ⟨hcs, hb⟩
      · rcases List.mem_cons.1 h with rfl | h
        · exact .inr ⟨List.mem_cons_self, by simpa using hd⟩
        · exact .inl h
      · exact .inr ⟨List.mem_cons_of_mem d hcs, hb⟩
    · exact hpair

/-- A line holds characters of the text that are no breaks. -/
theorem mem_of_mem_lines {cs row : List Char} {c : Char} (h : row ∈ lines cs) (hc : c ∈ row) :
    c ∈ cs ∧ isLineBreak c = false :=
  (mem_of_mem_linesFrom h hc).resolve_left (List.not_mem_nil)

theorem unifyBreaks_of_notMem : ∀ {cs : List Char}, '\r' ∉ cs → unifyBreaks cs = cs
  | [], _ => rfl
  | c :: cs, h => by
    rw [List.mem_cons, not_or] at h
    have hc : c ≠ '\r' := fun e => h.1 e.symm
    rw [unifyBreaks, if_neg (by simpa using hc), unifyBreaks_of_notMem h.2]
    exact fun _ e => absurd e hc

/-! ## Line numbers -/

/-- How many line breaks of a text are not line feeds; a carriage return in front of a line feed is
one break with it. -/
def strayBreaks : List Char → Nat
  | [] => 0
  | '\r' :: '\n' :: cs => strayBreaks cs
  | c :: cs => (if isLineBreak c && c != '\n' then 1 else 0) + strayBreaks cs

/-- What stands in front is read into as many lines as it has breaks, unless it is cut between a
carriage return and its line feed. -/
theorem exists_linesFrom_append {rest : List Char} (hrest : rest.head? ≠ some '\n') :
    ∀ (cs line : List Char), ∃ rows line', linesFrom line (cs ++ rest) = rows ++ linesFrom line' rest ∧
      rows.length = cs.count '\n' + strayBreaks cs := by
  intro cs
  induction cs using strayBreaks.induct with
  | case1 => exact fun line => ⟨[], line, rfl, rfl⟩
  | case2 cs ih =>
    intro line
    obtain ⟨rows, line', hrows, hlength⟩ := ih []
    refine ⟨line.reverse :: rows, line', ?_, ?_⟩
    · rw [List.cons_append, List.cons_append, linesFrom, hrows, List.cons_append]
    · simp [strayBreaks, hlength]
      omega
  | case3 c cs hpair ih =>
    intro line
    -- no return is cut from its line feed, neither in the text nor at its end
    have hpair' : ∀ ds, c = '\r' → cs ++ rest = '\n' :: ds → False := by
      rintro ds rfl he
      cases cs with
      | nil => exact hrest (by rw [List.nil_append] at he; rw [he]; rfl)
      | cons d cs =>
        obtain ⟨rfl, -⟩ := List.cons.inj he
        exact hpair cs rfl rfl
    rw [List.cons_append, linesFrom]
    · cases hc : isLineBreak c with
      | true =>
        obtain ⟨rows, line', hrows, hlength⟩ := ih []
        refine ⟨line.reverse :: rows, line', by rw [if_pos rfl, hrows, List.cons_append], ?_⟩
        rw [strayBreaks, List.length_cons, hlength, List.count_cons, hc]
        · by_cases hfeed : c = '\n' <;> simp [hfeed] <;> omega
        · exact hpair
      | false =>
        obtain ⟨rows, line', hrows, hlength⟩ := ih (c :: line)
        have hfeed : c ≠ '\n' := fun e => by rw [e] at hc; exact absurd hc (by decide)
        refine ⟨rows, line', by rw [if_neg (by simp), hrows], ?_⟩
        rw [strayBreaks, hlength, List.count_cons, hc]
        · simp [hfeed]
        · exact hpair
    · exact hpair'

/-- A line that has begun goes on up to the next break. -/
theorem head?_linesFrom : ∀ {cs line : List Char}, line ≠ [] →
    (linesFrom line cs).head? = some (line.reverse ++ cs.takeWhile (! isLineBreak ·))
  | [], line, h => by simp [linesFrom, h]
  | c :: cs, line, h => by
    cases hc : isLineBreak c with
    | false =>
      rw [linesFrom_cons hc, head?_linesFrom (List.cons_ne_nil c line),
        List.takeWhile_cons_of_pos (by simp [hc]), List.reverse_cons, List.append_assoc,
        List.singleton_append]
    | true =>
      rw [List.takeWhile_cons_of_neg (by simp [hc]), List.append_nil]
      rw [linesFrom.eq_def]
      split <;> simp_all

/-- The line in which a text stands is counted by the breaks in front of it. -/
theorem getElem?_lines {name : List Char} (hne : name ≠ []) (hname : Unbroken name)
    (before after : List Char) : ∃ front,
      (lines (before ++ (name ++ after)))[before.count '\n' + strayBreaks before]? =
        some (front ++ (name ++ after.takeWhile (! isLineBreak ·))) := by
  have hhead : (name ++ after).head? ≠ some '\n' := by
    intro he
    rw [List.head?_append_of_ne_nil _ hne] at he
    exact hname.notMem_feed (List.mem_of_mem_head? he)
  -- the line that has begun when the name is reached goes on up to the next break
  obtain ⟨rows, line, hrows, hlength⟩ := exists_linesFrom_append hhead before []
  refine ⟨line.reverse, ?_⟩
  rw [lines, hrows, linesFrom_append hname, List.getElem?_append_right (by omega), hlength,
    Nat.sub_self, ← List.head?_eq_getElem?, head?_linesFrom (by simp [hne]), List.reverse_append,
    List.reverse_reverse, List.append_assoc]

/-! ## Line feeds alone -/

/-- A text whose only line breaks are line feeds. -/
def FeedOnly (cs : List Char) : Prop := ∀ c ∈ cs, isLineBreak c = true → c = '\n'

instance (cs : List Char) : Decidable (FeedOnly cs) :=
  List.decidableBAll (fun c => isLineBreak c = true → c = '\n') cs

theorem FeedOnly.notMem_return {cs : List Char} (h : FeedOnly cs) : '\r' ∉ cs :=
  fun hm => absurd (h '\r' hm (by decide)) (by decide)

end RtlAtlas.Text

namespace RtlAtlas.Search

open RtlAtlas.Text

theorem splitAt_ne_nil (sep : Char) : ∀ cs : List Char, splitAt sep cs ≠ []
  | [] => by simp [splitAt]
  | c :: cs => by
    rw [splitAt]
    split
    · simp
    · cases splitAt sep cs <;> simp

theorem feedLines_line {line : List Char} (h : '\n' ∉ line) :
    feedLines line = if line = [] then [] else [line] := by
  unfold feedLines
  rw [splitAt_of_notMem h]
  by_cases hl : line = [] <;> simp [hl]

theorem feedLines_feed {line : List Char} (h : '\n' ∉ line) (cs : List Char) :
    feedLines (line ++ '\n' :: cs) = line :: feedLines cs := by
  unfold feedLines
  rw [splitAt_append h]
  obtain ⟨part, parts, hp⟩ := List.exists_cons_of_ne_nil (splitAt_ne_nil '\n' cs)
  simp only [hp, List.getLast?_cons_cons, List.dropLast_cons_cons]
  split <;> rfl

theorem linesFrom_eq_feedLines : ∀ {cs line : List Char}, Unbroken line → FeedOnly cs →
    linesFrom line.reverse cs = feedLines (line ++ cs)
  | [], line, hl, _ => by
    rw [List.append_nil, feedLines_line hl.notMem_feed, linesFrom, List.reverse_reverse]
    cases line <;> simp
  | c :: cs, line, hl, hc => by
    rw [FeedOnly, List.forall_mem_cons] at hc
    cases hb : isLineBreak c with
    | true =>
      obtain rfl := hc.1 hb
      rw [linesFrom_feed, List.reverse_reverse, feedLines_feed hl.notMem_feed, lines,
        ← List.reverse_nil, linesFrom_eq_feedLines (List.forall_mem_nil _) hc.2, List.nil_append]
    | false =>
      have hline : Unbroken (line ++ [c]) := hl.append (.cons hb (List.forall_mem_nil _))
      rw [linesFrom_cons hb, List.append_cons, ← linesFrom_eq_feedLines hline hc.2,
        List.reverse_append, List.reverse_singleton, List.singleton_append]

/-- Where line feeds are the only breaks, the lines are those between the line feeds. -/
theorem lines_eq_feedLines {cs : List Char} (h : FeedOnly cs) : lines cs = feedLines cs := by
  have hnil : Unbroken [] := List.forall_mem_nil _
  simpa [lines] using linesFrom_eq_feedLines hnil h

end RtlAtlas.Search
