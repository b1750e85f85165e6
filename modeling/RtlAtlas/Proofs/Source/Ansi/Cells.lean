/-
The instances of a module in canonical form: each line is read back as its instance, with its module
type, its name and its connections, and the search goes on at the next line.
-/
import RtlAtlas.Proofs.Source.Ansi.Header
import RtlAtlas.Proofs.Source.ConnectionList
import RtlAtlas.Proofs.Source.Frame

namespace RtlAtlas.Source.Ansi

open RtlAtlas.Text

/-! ## Connections -/

theorem Name.identifier?_text (n : Name) (cs : List Char) (h : cs.head?.any isIdentRest = false) :
    identifier? (n.text ++ cs) = some (n.text, cs) :=
  identifier?_run n.nonempty n.start (fun x hx => isIdentRest_of_isPlain (n.plain x hx)) h

theorem Name.trim_text (n : Name) : trim n.text = n.text := trim_append_plain n.nonempty n.plain []

/-- A connection is read back. -/
theorem Binding.namedEntryOf?_text (b : Binding) :
    namedEntryOf? b.text = some ⟨b.port.text, some b.signal.text⟩ :=
  namedEntryOf?_named b.port.nonempty b.port.start
    (fun x hx => isIdentRest_of_isPlain (b.port.plain x hx)) b.signal.text

theorem Binding.collapse_text (b : Binding) : collapse b.text = b.text := by
  refine collapse_run (List.cons_ne_nil _ _) fun x hx => ?_
  simp only [Binding.text, List.mem_cons, List.mem_append, List.not_mem_nil, or_false] at hx
  rcases hx with rfl | hx | rfl | hx | rfl
  · decide
  · exact isBlank_of_all_tight b.port.tight x hx
  · decide
  · exact isBlank_of_all_tight b.signal.tight x hx
  · decide

theorem connectionsFrom_cons {s : Segment} (b : Binding) (h : collapse s.text = b.text)
    (position : Nat) (ss : List Segment) :
    connectionsFrom position (s :: ss) = b.connection :: connectionsFrom (position + 1) ss := by
  have hkept : ¬(b.text = [] ∨ b.text = ['.', '*']) := by
    rintro (hnil | hstar)
    · cases hnil
    · obtain ⟨x, cs, hport⟩ := List.exists_cons_of_ne_nil b.port.nonempty
      simp [Binding.text, hport] at hstar
  rw [connectionsFrom]
  simp only [h, if_neg hkept, b.namedEntryOf?_text, Option.map_some, Option.getD_some, b.signal.trim_text]
  rfl

theorem connectionsFrom_segmentsFrom : ∀ (bs : List Binding) (position offset : Nat),
    connectionsFrom position (segmentsFrom offset (bs.map fun b => ' ' :: b.text)) =
      bs.map Binding.connection
  | [], _, _ => rfl
  | b :: bs, position, offset => by
    have hcollapse : collapse (' ' :: b.text) = b.text := by
      rw [collapse, words_blank (by decide)]
      exact b.collapse_text
    rw [List.map_cons, segmentsFrom, connectionsFrom_cons b hcollapse, connectionsFrom_segmentsFrom bs,
      List.map_cons]

/-- The list of connections is read back. -/
theorem Cell.parseConnections_bindingList (c : Cell) :
    parseConnections c.bindingList = c.bindings.map Binding.connection := by
  unfold parseConnections Cell.bindingList
  cases c.bindings with
  | nil => rfl
  | cons b bs =>
    have hnested : ∀ u ∈ b.text :: (bs.map Binding.text).map (' ' :: ·), Nested (· ≠ ',') u := by
      have hbinding : ∀ b : Binding, Nested (· ≠ ',') b.text := fun b =>
        b.nested.mono fun _ hx => hx.1
      intro u hu
      rcases List.mem_cons.1 hu with rfl | hu
      · exact hbinding b
      · rw [List.map_map] at hu
        obtain ⟨b', -, rfl⟩ := List.mem_map.1 hu
        exact .char (by decide) (by decide) (hbinding b')
    rw [List.map_cons, intercalate_space, splitTopLevel_join hnested, segmentsFrom,
      connectionsFrom_cons b b.collapse_text, List.map_map]
    exact congrArg _ (connectionsFrom_segmentsFrom bs _ _)

/-! ## One instance -/

theorem Name.ident?_text (n : Name) (cs : List Char) (h : cs.head?.any isIdentRest = false)
    (offset : Nat) (last : Option Char) :
    (⟨offset, last, n.text ++ cs⟩ : Cursor).ident? =
      some (n.text, ⟨offset + n.text.length, n.text.getLast?.or last, cs⟩) := by
  unfold Cursor.ident?
  rw [n.identifier?_text cs h, Option.map_some]
  simp only [Cursor.advance_append]

theorem skipIndent_spaces {cs : List Char} (h : cs.head?.any isBlank = false) (offset : Nat)
    (last : Option Char) :
    skipIndent ⟨offset, last, ' ' :: ' ' :: cs⟩ = ⟨offset + 2, some ' ', cs⟩ := by
  have hrun : (' ' :: ' ' :: cs).takeWhile (fun x => x == ' ' || x == '\t') = [' ', ' '] := by
    refine takeWhile_run (a := [' ', ' ']) (List.all_eq_true.1 (by decide)) ?_
    cases cs with
    | nil => rfl
    | cons x cs =>
      have hspace : x ≠ ' ' ∧ x ≠ '\t' := by
        constructor <;> (rintro rfl; cases h)
      simpa using hspace
  unfold skipIndent
  rw [hrun]
  rfl

theorem Name.not_startsWith (n : Name) {x : Char} (hx : isPlain x = false) (offset : Nat)
    (last : Option Char) (cs : List Char) :
    (⟨offset, last, n.text ++ cs⟩ : Cursor).startsWith x = false := by
  obtain ⟨y, ys, hname⟩ := List.exists_cons_of_ne_nil n.nonempty
  have hy := n.plain y (by rw [hname]; exact List.mem_cons_self ..)
  unfold Cursor.startsWith
  rw [hname]
  simp only [List.cons_append, List.head?_cons, beq_eq_false_iff_ne, ne_eq, Option.some.injEq]
  rintro rfl
  rw [hx] at hy
  cases hy

/-- The start of an instantiation is read where its line starts. -/
theorem instanceLead?_line (c : Cell) (offset : Nat) (cs : List Char) :
    instanceLead? ⟨offset, some '\n', ' ' :: ' ' :: (c.moduleType.text ++ ' ' :: (c.name.text ++ cs))⟩ =
      some ⟨offset, c.moduleType.text, none,
        ⟨offset + 2 + c.moduleType.text.length + 1, some ' ', c.name.text ++ cs⟩⟩ := by
  unfold instanceLead?
  rw [skipIndent_spaces (c.moduleType.head?_not_blank _), c.moduleType.ident?_text _ rfl]
  simp only [skipBlank_space _ (c.name.head?_not_blank cs), c.name.not_startsWith (x := '#') (by decide),
    Bool.false_and]
  rfl

theorem skipRanges_bracket (fuel offset : Nat) (last : Option Char) (cs : List Char) :
    skipRanges fuel ⟨offset, last, '(' :: cs⟩ = ⟨offset, last, '(' :: cs⟩ := by
  cases fuel <;> rfl

/-- The rest of an instantiation is read up to its semicolon. -/
theorem instanceAfter?_cell (c : Cell) (offset : Nat) (cs : List Char) :
    instanceAfter? c.moduleType.text .empty
        ⟨offset, some ' ', c.name.text ++ ' ' :: '(' :: (c.bindingList ++ ')' :: ';' :: cs)⟩ =
      some (⟨c.name.text, c.moduleType.text, offset, c.bindings.map Binding.connection, .empty⟩,
        ⟨c.name.text, .instantiation, offset, offset + c.name.text.length + c.bindingList.length + 2,
          "module_instantiation"⟩,
        ⟨offset + c.name.text.length + c.bindingList.length + 4, some ';', cs⟩) := by
  have hname := c.name.ident?_text (' ' :: '(' :: (c.bindingList ++ ')' :: ';' :: cs)) rfl offset
    (some ' ')
  have hbracket := skipBlank_space ('(' :: (c.bindingList ++ ')' :: ';' :: cs)) rfl
    (offset + c.name.text.length) (c.name.text.getLast?.or (some ' '))
  have hclose := enclosed?_group (show closer? '(' = some ')' from rfl) c.nested_bindingList
    (offset + c.name.text.length + 1) (some ' ') (';' :: cs)
  have htail := Cursor.skipBlank_of_head (c := ⟨offset + c.name.text.length + 1 + c.bindingList.length + 2,
    some ')', ';' :: cs⟩) rfl
  have hnext : (⟨offset + c.name.text.length + 1 + c.bindingList.length + 2, some ')',
      ';' :: cs⟩ : Cursor).advance 1 =
        ⟨offset + c.name.text.length + c.bindingList.length + 4, some ';', cs⟩ := by
    rw [show offset + c.name.text.length + c.bindingList.length + 4 =
      offset + c.name.text.length + 1 + c.bindingList.length + 2 + 1 by omega]
    rfl
  have hstop : offset + c.name.text.length + 1 + c.bindingList.length + 2 - 1 =
      offset + c.name.text.length + c.bindingList.length + 2 := by omega
  unfold instanceAfter?
  simp only [Cursor.skipBlank_of_head (c := ⟨offset, some ' ', c.name.text ++ _⟩)
    (c.name.head?_not_blank _), hname, hbracket, skipRanges_bracket, hclose, htail, c.name.free_keyword]
  rw [if_neg (by simp [Cursor.startsWith]), if_pos (by simp [Cursor.startsWith]),
    c.parseConnections_bindingList, hnext, hstop]

/-! ## All instances -/

/-- The marks of the instances whose lines start at an offset. -/
def cellMarks (offset : Nat) : List Cell → List (InstanceMark × Mark)
  | [] => []
  | c :: cs =>
    let start := offset + (c.moduleType.text.length + 4)
    (⟨c.name.text, c.moduleType.text, start, c.bindings.map Binding.connection, .empty⟩,
      ⟨c.name.text, .instantiation, start, start + c.name.text.length + c.bindingList.length + 2,
        "module_instantiation"⟩) :: cellMarks (offset + c.text.length) cs

theorem Cell.length_text (c : Cell) : c.text.length =
    c.moduleType.text.length + c.name.text.length + c.bindingList.length + 8 := by
  simp only [Cell.text, List.length_cons, List.length_append, List.length_nil]
  omega

theorem cellList_cons (c : Cell) (cells : List Cell) :
    cellList (c :: cells) = '\n' :: ' ' :: ' ' :: (c.moduleType.text ++ ' ' :: (c.name.text ++
      ' ' :: '(' :: (c.bindingList ++ ')' :: ';' :: cellList cells))) := by
  simp [cellList, Cell.text]

/-- The search for instances stops behind a line break only. -/
theorem search_instanceLead? (offset : Nat) (cs : List Char) :
    (⟨offset, some ';', '\n' :: cs⟩ : Cursor).search instanceLead? =
      (⟨offset + 1, some '\n', cs⟩ : Cursor).search instanceLead? := rfl

/-- All instances are read back, one line after the other. -/
theorem instancesFrom_cellList : ∀ (cells : List Cell) {fuel : Nat} (offset : Nat),
    cells.length < fuel →
    instancesFrom [] fuel ⟨offset, some ';', cellList cells⟩ = cellMarks offset cells
  | [], fuel + 1, offset, _ => rfl
  | c :: cells, fuel + 1, offset, h => by
    have hlead := instanceLead?_line c (offset + 1)
      (' ' :: '(' :: (c.bindingList ++ ')' :: ';' :: cellList cells))
    have hfound := instanceAfter?_cell c (offset + (c.moduleType.text.length + 4)) (cellList cells)
    have hrest := instancesFrom_cellList cells (offset + c.text.length) (Nat.lt_of_succ_lt_succ h)
    have hstart : offset + 1 + 2 + c.moduleType.text.length + 1 =
        offset + (c.moduleType.text.length + 4) := by omega
    have hnext : offset + (c.moduleType.text.length + 4) + c.name.text.length + c.bindingList.length + 4 =
        offset + c.text.length := by
      rw [c.length_text]
      omega
    rw [hstart] at hlead
    rw [hnext] at hfound
    rw [instancesFrom, cellList_cons, search_instanceLead?, Cursor.search_here hlead]
    simp only [c.moduleType.free_keyword, inRoutine, List.any_nil, Bool.or_self, Bool.false_eq_true,
      if_false, InstanceLead.instance?, hfound, hrest]
    rfl

/-! ## Lines -/

/-- The instances are on the lines they are written on, behind the line that their list starts on. -/
theorem extracted_cellMarks (file : Path) : ∀ (cells : List Cell) (pre post : List Char),
    (cellMarks pre.length cells).map
        (fun i => (i.1.inst file (pre ++ (cellList cells ++ post)),
          i.2.extracted (pre ++ (cellList cells ++ post)))) =
      (cells.zipIdx (pre.count '\n' + 2)).map fun (c, l) =>
        (⟨c.name.string, c.moduleType.string, file, l, c.bindings.map Binding.connection, .empty⟩,
          ⟨c.name.string, .instantiation, l, l, "module_instantiation"⟩)
  | [], _, _ => rfl
  | c :: cells, pre, post => by
    have hrest := extracted_cellMarks file cells (pre ++ c.text) post
    have htext : pre ++ c.text ++ (cellList cells ++ post) = pre ++ (cellList (c :: cells) ++ post) := by
      simp [cellList]
    rw [List.length_append, List.count_append, c.count_text, htext] at hrest
    -- the line with its name in front, and with all up to its closing bracket
    have htype := all_inline c.moduleType.tight
    have hname : (' ' :: ' ' :: (c.moduleType.text ++ [' '])).all isInline = true := by
      simp only [List.all_cons, List.all_append, htype]
      decide
    have hline : (' ' :: ' ' :: (c.moduleType.text ++ ' ' :: (c.name.text ++ ' ' :: '(' ::
        c.bindingList))).all isInline = true := by
      simp only [List.all_cons, List.all_append, htype, all_inline c.name.tight, c.inline_bindingList]
      decide
    have hstart : lineOf (pre ++ (cellList (c :: cells) ++ post))
        (pre.length + (c.moduleType.text.length + 4)) = pre.count '\n' + 2 := by
      have h := lineOf_inline pre (c.name.text ++ ' ' :: '(' :: (c.bindingList ++
        ')' :: ';' :: (cellList cells ++ post))) hname
      rw [cellList_cons]
      simpa [Nat.add_assoc] using h
    have hstop : lineOf (pre ++ (cellList (c :: cells) ++ post)) (pre.length +
        (c.moduleType.text.length + 4) + c.name.text.length + c.bindingList.length + 2) =
        pre.count '\n' + 2 := by
      have h := lineOf_inline pre (')' :: ';' :: (cellList cells ++ post)) hline
      have hlength : pre.length + ((' ' :: ' ' :: (c.moduleType.text ++ ' ' :: (c.name.text ++
          ' ' :: '(' :: c.bindingList))).length + 1) = pre.length + (c.moduleType.text.length + 4) +
          c.name.text.length + c.bindingList.length + 2 := by
        simp only [List.length_cons, List.length_append]
        omega
      rw [hlength] at h
      rw [cellList_cons]
      simpa using h
    rw [cellMarks, List.map_cons, hrest, List.zipIdx_cons, List.map_cons]
    congr 1
    simp only [InstanceMark.inst, Mark.extracted, hstart, hstop]
    rfl

end RtlAtlas.Source.Ansi
