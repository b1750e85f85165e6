/-
Where the things of a module stand. Everything that is found while a module is scanned lies between
its keyword and its end, modules follow one another, and an instance starts on a later line than its
module, since it is looked for at the start of a line behind the header. So lines alone lead from an
instance back to the module it was found in, whatever the text.
-/
import RtlAtlas.Graph.Build
import RtlAtlas.Proofs.Source.Comment
import RtlAtlas.Proofs.Source.Names
import RtlAtlas.Proofs.Text.Token

namespace RtlAtlas.Source

open RtlAtlas.Text Cursor

/-! ## Modules -/

/-- A mark lies between two offsets. -/
def Mark.Within (low high : Nat) (m : Mark) : Prop := low ≤ m.start ∧ m.start ≤ m.stop ∧ m.stop ≤ high

theorem Mark.Found.within {c : Cursor} {m : Mark} (h : m.Found c) :
    m.Within c.offset (c.offset + c.rest.length) := by
  obtain ⟨k, hstart, hstop, -⟩ := h.named
  exact ⟨h.low, Nat.le_trans hstart hstop, h.high⟩

/-- A module and all that was found in it lie inside a text; an instance lies behind a line break
that follows the keyword of the module. -/
structure ModuleMark.Placed (text : List Char) (m : ModuleMark) : Prop where
  start : m.start ≤ m.stop
  stop : m.stop ≤ text.length
  marks : ∀ k ∈ m.marks, k.Within m.start m.stop
  instances : ∀ i ∈ m.instances, i.start ≤ m.stop ∧
    ∃ p, m.start ≤ p ∧ p < i.start ∧ text[p]? = some '\n'

theorem getElem?_of_atLineStart {text : List Char} {c : Cursor} (h : c.In text)
    (hline : c.atLineStart = true) (hpos : 0 < c.offset) : text[c.offset - 1]? = some '\n' := by
  obtain ⟨before, ht, ho, hl⟩ := h
  have hne : before ≠ [] := fun he => by simp [he] at ho; omega
  have hlast : before.getLast? = some '\n' := by
    unfold atLineStart at hline
    rw [hl] at hline
    cases hb : before.getLast? with
    | none => exact absurd (List.getLast?_eq_none_iff.1 hb) hne
    | some x => simpa [hb] using hline
  rw [ht, ho, List.getElem?_append_left (by have := List.length_pos_iff.2 hne; omega),
    ← List.getLast?_eq_getElem?]
  exact hlast

theorem placed_scanModule {text : List Char} {head : ModuleHead} {stop : Nat}
    (hin : head.next.In text) (hstart : head.start < head.next.offset)
    (hle : head.next.offset ≤ stop) (hstop : stop ≤ text.length) :
    (scanModule head stop).Placed text := by
  have htake : (head.next.upTo stop).In (text.take stop) := hin.upTo hle
  have hend : (head.next.upTo stop).offset + (head.next.upTo stop).rest.length = stop := by
    rw [htake.length_eq, List.length_take]
    omega
  have hoffset : (head.next.upTo stop).offset = head.next.offset := rfl
  refine ⟨?_, hstop, fun m hm => ?_, fun i hi => ?_⟩
  · show head.start ≤ stop
    omega
  · show m.Within head.start stop
    rcases found_scanModule hm with rfl | hfound
    · exact ⟨Nat.le_refl _, by simp only; omega, Nat.le_refl _⟩
    · obtain ⟨hlow, hspan, hhigh⟩ := hfound.within
      exact ⟨by omega, hspan, by omega⟩
  · rw [scanModule_eq] at hi
    obtain ⟨⟨i', m⟩, hf, rfl⟩ := List.mem_map.1 hi
    obtain ⟨d, hd, hline, hfound, hsame⟩ := found_instancesFrom hf
    have hreach := (found_header head stop).1.trans hd
    have hlow := hreach.offset_le
    have hhigh := hreach.stop_eq
    obtain ⟨hfrom, hspan, hto⟩ := hfound.within
    -- the line of the instance starts behind the name of the module, so a line break lies between
    have hbreak := getElem?_of_atLineStart (htake.reaches hreach) hline (by omega)
    refine ⟨?_, d.offset - 1, ?_, ?_, ?_⟩
    · show i'.start ≤ stop
      omega
    · show head.start ≤ d.offset - 1
      omega
    · show d.offset - 1 < i'.start
      omega
    · rw [List.getElem?_take] at hbreak
      split at hbreak
      · exact hbreak
      · cases hbreak

theorem placed_of_mem_scanFrom {text : List Char} {fuel : Nat} {c : Cursor} (hin : c.In text)
    {m : ModuleMark} (hm : m ∈ scanFrom fuel c) : c.offset ≤ m.start ∧ m.Placed text := by
  obtain ⟨d, head, stop, hd, hhead, rfl, hle, hstop⟩ := mem_scanFrom hm
  obtain ⟨hstart, hnext, hlt, -⟩ := names_moduleHead? hhead
  refine ⟨?_, placed_scanModule (hin.reaches (hd.trans hnext)) (hstart ▸ hlt) hle ?_⟩
  · show c.offset ≤ head.start
    exact hstart ▸ hd.offset_le
  · rw [← hin.length_eq]
    exact hstop

theorem pairwise_scanFrom {text : List Char} : ∀ (fuel : Nat) {c : Cursor}, c.In text →
    (scanFrom fuel c).Pairwise fun a b => a.stop ≤ b.start
  | 0, _, _ => List.Pairwise.nil
  | fuel + 1, c, hin => by
    unfold scanFrom
    split
    · exact List.Pairwise.nil
    · rename_i head hhead
      obtain ⟨d, hd, hp⟩ := search_eq_some hhead
      split
      · -- a module without an end is the last one
        exact List.pairwise_singleton _ _
      · rename_i stop next hend
        obtain ⟨e, he, hword⟩ := search_eq_some hend
        obtain ⟨⟨word, next'⟩, hw, heq⟩ := Option.map_eq_some_iff.1 hword
        obtain ⟨rfl, rfl⟩ := Prod.mk.inj heq
        have hnext' := reaches_word? hw
        have hafter := hin.reaches ((hd.trans (names_moduleHead? hp).2.1).trans (he.trans hnext'))
        refine List.pairwise_cons.2 ⟨fun m hm => ?_, pairwise_scanFrom fuel hafter⟩
        exact Nat.le_trans hnext'.offset_le (placed_of_mem_scanFrom hafter hm).1

/-- Modules follow one another, and each lies inside the text with all that was found in it. -/
theorem placed_scanFrom {text : List Char} (fuel : Nat) {c : Cursor} (hin : c.In text) :
    (scanFrom fuel c).Pairwise (fun a b => a.stop ≤ b.start) ∧
      ∀ m ∈ scanFrom fuel c, c.offset ≤ m.start ∧ m.Placed text :=
  ⟨pairwise_scanFrom fuel hin, fun _ hm => placed_of_mem_scanFrom hin hm⟩

/-! ## Lines -/

/-- An instance is on a line of its own module and of no earlier one. -/
theorem findIdx?_containsLine (file : Path) {text : List Char} {ms : List ModuleMark}
    (hpairs : ms.Pairwise fun a b => a.stop ≤ b.start) (hplaced : ∀ m ∈ ms, m.Placed text) {k : Nat}
    (hk : k < ms.length) {i : InstanceMark} (hi : i ∈ ms[k].instances) :
    (ms.map (·.definition file text)).findIdx? (·.containsLine (i.inst file text).line) = some k := by
  obtain ⟨hstop, p, hp, hlt, hbreak⟩ := (hplaced _ (List.getElem_mem hk)).instances i hi
  have hline := lineOf_lt hp hlt hbreak
  rw [List.findIdx?_eq_some_iff_getElem]
  refine ⟨by simpa using hk, ?_, fun j hj => ?_⟩
  -- the module holds the line; an earlier one ends where this one starts, above that line
  · have hend := lineOf_mono text hstop
    simp only [List.getElem_map, ModuleDef.containsLine, ModuleMark.definition, InstanceMark.inst,
      Bool.and_eq_true, decide_eq_true_eq]
    omega
  · have hbefore := lineOf_mono text (List.pairwise_iff_getElem.1 hpairs j k (by omega) hk hj)
    simp only [List.getElem_map, ModuleDef.containsLine, ModuleMark.definition, InstanceMark.inst,
      Bool.and_eq_true, decide_eq_true_eq]
    omega

/-- The module that an instance belongs to by its line is the first one that holds the line. -/
theorem enclosing?_of_findIdx? {i : Instance} {ms : List ModuleDef} {k : Nat}
    (h : ms.findIdx? (·.containsLine i.line) = some k) : Graph.enclosing? i ms = ms[k]? := by
  obtain ⟨hk, hhere, hbefore⟩ := List.findIdx?_eq_some_iff_getElem.1 h
  have hfind : ms.find? (·.containsLine i.line) = some ms[k] :=
    List.find?_eq_some_iff_getElem.2 ⟨hhere, k, hk, rfl, fun j hj => by simpa using hbefore j hj⟩
  unfold Graph.enclosing?
  rw [hfind, List.getElem?_eq_getElem hk]

/-- What a text declares, module by module: the modules come in the order of their lines, all symbols
that a module gives rise to lie on its lines, and the module that an instance belongs to by its line
is the one it was found in. -/
theorem enclosing_of_extract (file : Path) (content : List Char) (h : Char.ofNat 0 ∉ content) :
    let text := stripComments content
    let parts := scan text
    ∃ r, extract file content = .ok r ∧
      r.modules = parts.map (·.definition file text) ∧
      r.symbols = parts.flatMap (fun m => m.marks.map (·.extracted text)) ∧
      r.instances = parts.flatMap (fun m => m.instances.map (·.inst file text)) ∧
      r.modules.Pairwise (fun a b => a.endLine ≤ b.line) ∧
      ∀ (k : Nat) (hk : k < parts.length),
        let m := parts[k].definition file text
        (∀ s ∈ parts[k].marks.map (·.extracted text),
          m.line ≤ s.line ∧ s.line ≤ s.endLine ∧ s.endLine ≤ m.endLine) ∧
        m.endLine ≤ 1 + content.count '\n' ∧
        ∀ i ∈ parts[k].instances.map (·.inst file text),
          Graph.enclosing? i r.modules = some m ∧
          r.modules.findIdx? (·.containsLine i.line) = some k := by
  intro text parts
  obtain ⟨hpairs, hall⟩ : parts.Pairwise (fun a b => a.stop ≤ b.start) ∧
      ∀ m ∈ parts, _ ≤ m.start ∧ m.Placed text := placed_scanFrom (text.length + 1) (in_start text)
  have hplaced : ∀ m ∈ parts, m.Placed text := fun m hm => (hall m hm).2
  refine ⟨_, extract_eq_ok h file, rfl, rfl, rfl, ?_, fun k hk => ⟨fun s hs => ?_, ?_, fun i hi => ?_⟩⟩
  · -- modules do not overlap in the text, so they do not in lines but for the shared one
    refine List.pairwise_map.2 (hpairs.imp fun {a b} hab => ?_)
    exact Int.ofNat_le.2 (lineOf_mono _ hab)
  · -- marks lie between the start and the stop of their module
    obtain ⟨mark, hmark, rfl⟩ := List.mem_map.1 hs
    obtain ⟨hstart, hle, hstop⟩ := (hplaced _ (List.getElem_mem hk)).marks mark hmark
    exact ⟨Int.ofNat_le.2 (lineOf_mono _ hstart), lineOf_mono _ hle,
      Int.ofNat_le.2 (lineOf_mono _ hstop)⟩
  · -- taking comments out leaves every line break
    have hle := lineOf_le text parts[k].stop
    have hcount : text.count '\n' = content.count '\n' := count_stripFrom .code content
    show (lineOf text parts[k].stop : Int) ≤ _
    omega
  · -- no earlier module has the line, as its last one is above the mark's
    obtain ⟨mark, hmark, rfl⟩ := List.mem_map.1 hi
    have hfind := findIdx?_containsLine file hpairs hplaced hk hmark
    refine ⟨(enclosing?_of_findIdx? hfind).trans ?_, hfind⟩
    rw [List.getElem?_map, List.getElem?_eq_getElem hk]
    rfl

/-- Two modules of one name that share a line, the second of them without an end. -/
def sharedLine : List Char := "module m; endmodule module m;\n  leaf u (.a(x));\n".toList

/-- The instance of the second module is led back to it, though both have the same name. -/
theorem enclosing_of_extract_sharedLine : Char.ofNat 0 ∉ sharedLine ∧
    ∃ r, extract ⟨.root, ["a.v"]⟩ sharedLine = .ok r ∧
      r.modules.map (fun m => (m.name, m.line, m.endLine)) = [("m", 1, 1), ("m", 1, 3)] ∧
      ∀ i ∈ r.instances, r.modules.findIdx? (·.containsLine i.line) = some 1 := by
  have hclean : Char.ofNat 0 ∉ sharedLine := by decide
  obtain ⟨r, hr, hmodules, -, hinstances, -, hparts⟩ :=
    enclosing_of_extract ⟨.root, ["a.v"]⟩ sharedLine hclean
  have hnone : (scan (stripComments sharedLine)).map (·.instances.length) = [0, 1] := by
    decide +kernel
  refine ⟨hclean, r, hr, ?_, fun i hi => ?_⟩
  · rw [hmodules]
    decide +kernel
  · rw [hinstances, List.mem_flatMap] at hi
    obtain ⟨m, hm, hi⟩ := hi
    obtain ⟨k, hk, rfl⟩ := List.getElem_of_mem hm
    match k, hk, hi with
    | 0, hk, hi =>
      have hzero : (scan (stripComments sharedLine))[0].instances.length = 0 := by
        have := congrArg (·[0]?) hnone
        simpa [List.getElem?_eq_getElem hk] using this
      rw [List.length_eq_zero_iff.1 hzero] at hi
      cases hi
    | 1, hk, hi => exact ((hparts 1 hk).2.2 i hi).2
    | k + 2, hk, _ =>
      have := congrArg List.length hnone
      simp only [List.length_map, List.length_cons, List.length_nil] at this
      omega

end RtlAtlas.Source
