/-
Lines of symbols and lines of matches. A symbol's lines count line feeds, those of a text search count
every line break. So where the name of a symbol stands, searching for it gives a match whose line is
that place's line by line feeds and as much further down as other breaks stand in front of it; without
such breaks the match lies on the lines of the symbol.
-/
import RtlAtlas.Proofs.Search.Scan
import RtlAtlas.Proofs.Source.Comment
import RtlAtlas.Proofs.Source.Names
import RtlAtlas.Proofs.Text.Lines
import RtlAtlas.Proofs.Text.Lower

namespace RtlAtlas.Source

open RtlAtlas.Text RtlAtlas.Search

/-! ## Lines of names -/

theorem IsName.space_notMem {name : List Char} (h : IsName name) : ' ' ∉ name := fun hm =>
  absurd (h ' ' hm) (by decide)

theorem IsName.unbroken {name : List Char} (h : IsName name) : Unbroken name := by
  have table : ∀ n ∈ breakCodes, isIdentRest (Char.ofNat n) = false := by decide +kernel
  intro c hc
  cases hb : isLineBreak c with
  | false => rfl
  | true =>
    have hrest := table c.toNat (mem_breakCodes hb)
    rw [Char.ofNat_toNat, h c hc] at hrest
    cases hrest

/-- A line break is not ignored and has no case, so a line leads on as the text after it does. -/
theorem leadsCased_takeWhile : ∀ cs : List Char,
    leadsCased (cs.takeWhile (! isLineBreak ·)) = leadsCased cs
  | [] => rfl
  | c :: cs => by
    have table : ∀ n ∈ breakCodes, inRanges caseIgnorableRanges n = false ∧
        inRanges casedRanges n = false := by decide +kernel
    cases hb : isLineBreak c with
    | false =>
      rw [List.takeWhile_cons_of_pos (by simp [hb]), leadsCased_cons, leadsCased_cons,
        leadsCased_takeWhile cs]
    | true =>
      obtain ⟨hignorable, hcased⟩ := table c.toNat (mem_breakCodes hb)
      rw [List.takeWhile_cons_of_neg (by simp [hb]), leadsCased_cons, hignorable, hcased]
      rfl

/-- An identifier that stands at a place is found on the line that the breaks in front of it count. -/
theorem exists_match {text name : List Char} {k : Nat} (hstarts : name.head?.any isIdentStart = true)
    (hname : IsName name) (hhere : name <+: text.drop k)
    (hsigma : sigma ∈ name → leadsCased (text.drop (k + name.length)) = false) (file : Path) :
    ∃ m ∈ scanLines file text name, m.line = lineOf text k + strayBreaks (text.take k) := by
  obtain ⟨after, hafter⟩ := hhere
  cases name with
  | nil => cases hstarts
  | cons c cs =>
    have hrest : text.drop (k + (c :: cs).length) = after := by
      rw [← List.drop_drop, ← hafter, List.drop_left]
    obtain ⟨front, hline⟩ := getElem?_lines (List.cons_ne_nil c cs) hname.unbroken (text.take k) after
    rw [hafter, List.take_append_drop] at hline
    have hfound : occurs (lower (c :: cs))
        (lower (front ++ (c :: cs ++ after.takeWhile (! isLineBreak ·)))) = true := by
      rw [occurs_iff]
      refine lower_infix_of_isIdentStart (by simpa using hstarts) fun hs => ?_
      rw [leadsCased_takeWhile, ← hrest]
      exact hsigma hs
    refine ⟨_, mem_scanLines.2 ⟨_, lineOf text k + strayBreaks (text.take k),
      List.mk_mem_zipIdx_iff_le_and_getElem?_sub.2 ⟨?_, ?_⟩, hfound, rfl⟩, ?_⟩
    · unfold lineOf
      omega
    · rw [← hline]
      congr 1
      unfold lineOf
      omega
    · exact Int.natCast_add _ _

/-! ## Symbols -/

/-- Every symbol of a text is named at some place on its lines, and searching the text for its name
gives a match for that place: on the line the symbol counts, and further down by the breaks in front
that are no line feeds. A name with a capital sigma is found unless what follows it gives that letter
another small form than it has at the end of a word. -/
theorem symbol_found (file : Path) {content : List Char} (h : Char.ofNat 0 ∉ content) :
    ∃ r, extract file content = .ok r ∧ ∀ s ∈ r.symbols, ∃ k,
      s.name.toList <+: content.drop k ∧ s.line ≤ lineOf content k ∧ lineOf content k ≤ s.endLine ∧
      ((sigma ∈ s.name.toList → leadsCased (content.drop (k + s.name.toList.length)) = false) →
        ∃ m ∈ scanLines file content s.name.toList,
          m.line = lineOf content k + strayBreaks (content.take k) ∧
          (strayBreaks (content.take k) = 0 → s.line ≤ m.line ∧ m.line ≤ s.endLine)) := by
  refine ⟨_, extract_eq_ok h file, fun s hs => ?_⟩
  obtain ⟨part, hpart, hs⟩ := List.mem_flatMap.1 hs
  obtain ⟨mark, hmark, rfl⟩ := List.mem_map.1 hs
  -- the name is found in the text without comments, and holds nothing that a comment is blanked with
  obtain ⟨k, hstart, hstop, hstarts, hname, hshown⟩ := (found_scanFrom hpart hmark).named
  have hhere : mark.name <+: content.drop k :=
    prefix_of_stripComments hname.space_notMem (hshown.prefix_drop (Cursor.in_start _))
  have hlow : lineOf (stripComments content) mark.start ≤ lineOf content k :=
    lineOf_stripComments content k ▸ lineOf_mono _ hstart
  have hhigh : lineOf content k ≤ lineOf (stripComments content) mark.stop :=
    lineOf_stripComments content k ▸ lineOf_mono _ hstop
  simp only [Mark.extracted, String.toList_ofList]
  refine ⟨k, hhere, hlow, hhigh, fun hsigma => ?_⟩
  obtain ⟨m, hm, hline⟩ := exists_match hstarts hname hhere hsigma file
  refine ⟨m, hm, hline, fun hnone => ?_⟩
  rw [hnone] at hline
  omega

/-- A module whose lines end with a return or not, and a page break at the end of the second line. -/
def pageBreak : List Char := "module top;\r\n  wire v;\x0c\n  wire w;\nendmodule\n".toList

/-- The signal in front of the page break is found on its line, the one behind it one line further
down. -/
theorem symbol_found_pageBreak : Char.ofNat 0 ∉ pageBreak ∧
    ∃ r, extract ⟨.root, ["a.v"]⟩ pageBreak = .ok r ∧
      r.symbols.map (fun s => (s.name, s.line, s.endLine)) = [("top", 1, 4), ("v", 2, 2), ("w", 3, 3)] ∧
      (∃ m ∈ scanLines ⟨.root, ["a.v"]⟩ pageBreak "v".toList, m.line = 2) ∧
      ∃ m ∈ scanLines ⟨.root, ["a.v"]⟩ pageBreak "w".toList, m.line = 4 := by
  have hclean : Char.ofNat 0 ∉ pageBreak := by decide
  -- the form feed stands between the two wires
  have hplaces : ∀ k < pageBreak.length,
      ("v".toList <+: pageBreak.drop k → strayBreaks (pageBreak.take k) = 0) ∧
      ("w".toList <+: pageBreak.drop k → 3 ≤ lineOf pageBreak k → strayBreaks (pageBreak.take k) = 1) := by
    decide +kernel
  have hinside : ∀ {name : List Char} {k : Nat}, name ≠ [] → name <+: pageBreak.drop k →
      k < pageBreak.length := by
    intro name k hne hhere
    by_contra hge
    rw [List.drop_eq_nil_of_le (by omega)] at hhere
    exact hne (List.prefix_nil.1 hhere)
  obtain ⟨r, hr, hfound⟩ := symbol_found ⟨.root, ["a.v"]⟩ hclean
  have hsymbols : r.symbols = [⟨"top", .module, 1, 4, "module_declaration"⟩,
      ⟨"v", .signal, 2, 2, "net_declaration"⟩, ⟨"w", .signal, 3, 3, "net_declaration"⟩] := by
    rw [extract_eq_ok hclean] at hr
    cases hr
    decide +kernel
  simp only [hsymbols, List.forall_mem_cons] at hfound
  obtain ⟨-, ⟨kv, hv, hvlow, hvhigh, hvmatch⟩, ⟨kw, hw, hwlow, hwhigh, hwmatch⟩, -⟩ := hfound
  refine ⟨hclean, r, hr, by rw [hsymbols]; rfl, ?_, ?_⟩
  · obtain ⟨m, hm, hline, -⟩ := hvmatch fun hs => absurd hs (by decide)
    rw [(hplaces kv (hinside (by decide) hv)).1 hv] at hline
    exact ⟨m, hm, by omega⟩
  · obtain ⟨m, hm, hline, -⟩ := hwmatch fun hs => absurd hs (by decide)
    rw [(hplaces kw (hinside (by decide) hw)).2 hw hwlow] at hline
    exact ⟨m, hm, by omega⟩

/-- A page break in front of a module puts all its matches behind the line it is said to be on. -/
theorem symbol_not_found_behind_pageBreak :
    let text := "\x0cmodule m; endmodule\n".toList
    Char.ofNat 0 ∉ text ∧ ∃ r, extract ⟨.root, ["a.v"]⟩ text = .ok r ∧
      ∃ s ∈ r.symbols, ¬∃ m ∈ scanLines ⟨.root, ["a.v"]⟩ text s.name.toList,
        s.line ≤ m.line ∧ m.line ≤ s.endLine := by
  intro text
  have hclean : Char.ofNat 0 ∉ text := by decide
  have hscan : scanLines ⟨.root, ["a.v"]⟩ text "m".toList =
      [⟨⟨.root, ["a.v"]⟩, 2, 1, "module m; endmodule"⟩] := by decide +kernel
  refine ⟨hclean, _, extract_eq_ok hclean _,
    ⟨"m", .module, 1, 1, "module_declaration"⟩, by decide +kernel, ?_⟩
  rintro ⟨m, hm, -, hline⟩
  rw [hscan, List.mem_singleton] at hm
  rw [hm] at hline
  exact absurd hline (by decide)

end RtlAtlas.Source
