/-
Extraction undoes rendering. A file in canonical form is scanned module by module: the start of a module
is where the text of the module starts, its end is the next `endmodule`, and nothing in its body but the
instances is found. So what is extracted is what the modules describe.
-/
import RtlAtlas.Proofs.Source.Ansi.Cells
import RtlAtlas.Proofs.Source.LineRange

namespace RtlAtlas.Source.Ansi

open RtlAtlas.Text

/-! ## The text of a module -/

/-- What stands between the name of a module and the word that ends it. -/
def Module.inside (m : Module) : List Char :=
  ' ' :: '(' :: (portList m.ports ++ ')' :: ';' :: cellList m.cells)

theorem Module.text_eq (m : Module) : m.text =
    spell "module" ++ ' ' :: (m.name.text ++ (m.inside ++ (spell "endmodule" ++ ['\n']))) := by
  simp [Module.text, Module.inside]

theorem Module.without_inside (m : Module) : Without isClosing m.inside :=
  .mark (by decide) (.mark (by decide) ((without_portList m.ports).append (.mark (by decide)
    (.mark (by decide) (without_cellList reserved_of_isClosing m.cells)))))

theorem Name.starts (n : Name) : n.text.head?.any isIdentStart = true := by
  obtain ⟨x, name, hname⟩ := List.exists_cons_of_ne_nil n.nonempty
  have hstart := n.start
  rwa [hname] at hstart ⊢

/-! ## What is found in a module -/

/-- The offset of the port list of a module that starts at an offset. -/
def Module.portsAt (offset : Nat) (m : Module) : Nat := offset + (m.name.text.length + 9)

/-- The offset of the lines of its instances. -/
def Module.cellsAt (offset : Nat) (m : Module) : Nat :=
  m.portsAt offset + ((portList m.ports).length + 2)

/-- The offset of the word that ends it. -/
def Module.stopAt (offset : Nat) (m : Module) : Nat := m.cellsAt offset + (cellList m.cells).length

/-- All that a scan finds of a module that starts at an offset. -/
def Module.mark (offset : Nat) (m : Module) : ModuleMark where
  name := m.name.text
  start := offset
  stop := m.stopAt offset
  ports := portsOf noHead m.ports
  marks := (headerPortsOf (m.portsAt offset) noHead m.ports).map portMark ++
    [⟨m.name.text, .module, offset, m.stopAt offset, "module_declaration"⟩] ++
    (cellMarks (m.cellsAt offset) m.cells).map (·.2)
  instances := (cellMarks (m.cellsAt offset) m.cells).map (·.1)

theorem Module.length_inside (m : Module) : m.inside.length =
    (portList m.ports).length + (cellList m.cells).length + 4 := by
  simp only [Module.inside, List.length_cons, List.length_append]
  omega

theorem Module.stopAt_eq (offset : Nat) (m : Module) :
    offset + (m.name.text.length + 7) + m.inside.length = m.stopAt offset := by
  rw [m.length_inside, Module.stopAt, Module.cellsAt, Module.portsAt]
  omega

/-- The start of a module, as a scan finds it. -/
def Module.head (offset : Nat) (m : Module) (cs : List Char) : ModuleHead :=
  ⟨m.name.text, offset, ⟨offset + (m.name.text.length + 7), m.name.text.getLast?.or (some ' '),
    m.inside ++ cs⟩⟩

variable (m : Module) (offset : Nat) (cs : List Char)

theorem Module.parameters_head : (m.head offset cs).parameters (m.stopAt offset) =
    ([], ⟨offset + (m.name.text.length + 8), some ' ',
      '(' :: (portList m.ports ++ ')' :: ';' :: cellList m.cells)⟩) := by
  have hupTo : (m.head offset cs).next.upTo (m.stopAt offset) =
      ⟨offset + (m.name.text.length + 7), m.name.text.getLast?.or (some ' '), m.inside⟩ := by
    rw [← m.stopAt_eq]
    exact upTo_inside _ _ cs
  unfold ModuleHead.parameters
  rw [hupTo, Module.inside, skipBlank_space _ rfl]
  rfl

theorem Module.portList_head : (m.head offset cs).portList (m.stopAt offset) =
    (headerPortsOf (m.portsAt offset) noHead m.ports,
      ⟨offset + (m.name.text.length + 8) + (portList m.ports).length + 2, some ')',
        ';' :: cellList m.cells⟩) := by
  unfold ModuleHead.portList
  rw [m.parameters_head, headerPortList_portList]
  rfl

/-- The body of a module starts behind the semicolon of its header. -/
theorem Module.body_head : (m.head offset cs).body (m.stopAt offset) =
    ⟨m.cellsAt offset, some ';', cellList m.cells⟩ := by
  have hoffset : offset + (m.name.text.length + 8) + (portList m.ports).length + 2 + 1 =
      m.cellsAt offset := by
    rw [Module.cellsAt, Module.portsAt]
    omega
  unfold ModuleHead.body
  rw [m.portList_head, ← hoffset]
  rfl

/-- No reserved word stands in the body of a module. -/
theorem not_atWordOf_body (cells : List Cell) {d : Cursor}
    (hd : (⟨offset, some ';', cellList cells⟩ : Cursor).Reaches d) :
    d.atWordOf isReserved = false :=
  Cursor.not_atWordOf_of_reaches isReserved_nil (without_cellList (fun _ h => h) cells)
    (fun h => absurd h (by decide)) hd

theorem statements_body (cells : List Cell) {pattern : Cursor → Option Statement}
    (hpattern : ∀ d, (⟨offset, some ';', cellList cells⟩ : Cursor).Reaches d → pattern d = none) :
    (⟨offset, some ';', cellList cells⟩ : Cursor).statements pattern = [] := by
  unfold Cursor.statements
  rw [Cursor.searchAll_eq_nil hpattern, List.filter_nil]

/-- In the body of a module nothing but its instances is found. -/
theorem found_body (cells : List Cell) :
    let body : Cursor := ⟨offset, some ';', cellList cells⟩
    body.routines = [] ∧ body.declaredPorts = [] ∧ body.declaredSignals = [] ∧
      body.declaredParameters = [] ∧ body.declaredInstances = cellMarks offset cells := by
  intro body
  -- the cells hold no reserved word, so nothing else is declared among them
  have hclear : ∀ {d : Cursor}, body.Reaches d → d.atWordOf isReserved = false :=
    not_atWordOf_body offset cells
  have hroutines : body.routines = [] := Cursor.searchAll_eq_nil fun d hd =>
    not_routine? (isReserved_of_keywords (by decide)) (hclear hd)
  refine ⟨hroutines, ?_, ?_, ?_, ?_⟩
  · unfold Cursor.declaredPorts
    have hreserved : ∀ w ∈ ["input", "output", "inout"], isReserved w.toList = true :=
      isReserved_of_keywords (by decide)
    rw [statements_body offset cells fun d hd => not_statement? hreserved hreserved (hclear hd)]
    rfl
  · unfold Cursor.declaredSignals
    rw [statements_body offset cells fun d hd =>
      not_lineStatement? (isReserved_of_keywords (by decide)) (hclear (hd.trans (Cursor.reaches_advance _ _)))]
    rfl
  · unfold Cursor.declaredParameters
    have hreserved : ∀ w ∈ ["parameter", "localparam"], isReserved w.toList = true :=
      isReserved_of_keywords (by decide)
    rw [statements_body offset cells fun d hd => not_statement? hreserved hreserved (hclear hd)]
    rfl
  · -- every cell ends its line, so the fuel is enough for all of them
    have hfuel : cells.length < (cellList cells).length + 1 := by
      have hcount := count_cellList cells
      have hle : (cellList cells).count '\n' ≤ (cellList cells).length := List.count_le_length
      omega
    unfold Cursor.declaredInstances
    rw [hroutines]
    exact instancesFrom_cellList cells offset hfuel

theorem Module.scanModule_head : scanModule (m.head offset cs) (m.stopAt offset) = m.mark offset := by
  obtain ⟨hroutines, hports, hsignals, hparameters, hinstances⟩ := found_body (m.cellsAt offset) m.cells
  rw [scanModule_eq]
  simp only [m.body_head, m.portList_head, m.parameters_head, hroutines, hports, hsignals, hparameters,
    hinstances, modulePorts_headerPortsOf, List.filterMap_nil, List.nil_append, List.append_nil]
  rfl

/-! ## All modules -/

/-- All that a scan finds of modules that follow one another. -/
def marksOf (offset : Nat) : List Module → List ModuleMark
  | [] => []
  | m :: ms => m.mark offset :: marksOf (offset + m.text.length) ms

theorem Module.length_text : m.text.length = m.name.text.length + m.inside.length + 17 := by
  rw [m.text_eq]
  simp only [List.length_append, List.length_cons, List.length_nil]
  rw [show (spell "module").length = 6 by decide, show (spell "endmodule").length = 9 by decide]
  omega

/-- A scan finds the modules one after the other. -/
theorem scanFrom_render : ∀ (ms : List Module) {fuel offset : Nat} {last : Option Char},
    ms.length < fuel → last.any isWord = false →
    scanFrom fuel ⟨offset, last, render ms⟩ = marksOf offset ms
  | [], fuel + 1, offset, last, _, _ => by
    have hnone : moduleHead? ⟨offset, last, []⟩ = none :=
      not_moduleHead? (by rw [Cursor.atWordOf, List.takeWhile_nil, isReserved_nil, Bool.and_false])
    unfold scanFrom
    rw [show (⟨offset, last, render []⟩ : Cursor).search moduleHead? = none from hnone]
    rfl
  | m :: ms, fuel + 1, offset, last, hfuel, hlast => by
    have hmodule := scanFrom_module (by decide) (by decide) m.name.starts m.name.plain m.name.free_keyword
      m.without_inside (List.cons_ne_nil _ _) rfl fuel offset hlast (render ms)
    have hrest : scanFrom fuel ⟨offset + m.text.length, some '\n', render ms⟩ =
        marksOf (offset + m.text.length) ms :=
      scanFrom_render ms (Nat.lt_of_succ_lt_succ hfuel) (by decide)
    have hnext : offset + m.text.length = m.stopAt offset + 10 := by
      rw [← m.stopAt_eq, m.length_text]
      omega
    have htext : render (m :: ms) = spell "module" ++ ' ' :: (m.name.text ++ (m.inside ++
        (spell "endmodule" ++ '\n' :: render ms))) := by
      rw [show render (m :: ms) = m.text ++ render ms from List.flatMap_cons, m.text_eq]
      simp
    have hscan := m.scanModule_head offset (spell "endmodule" ++ '\n' :: render ms)
    rw [hnext] at hrest
    simp only [m.stopAt_eq] at hmodule
    rw [htext, marksOf, hnext, ← hrest, ← hscan]
    exact hmodule

/-! ## Lines -/

/-- The text of a module up to its port list, up to its instances, and up to the word that ends it. -/
def Module.toPorts : List Char := spell "module" ++ ' ' :: (m.name.text ++ [' ', '('])

def Module.toCells : List Char := m.toPorts ++ (portList m.ports ++ [')', ';'])

def Module.toEnd : List Char := m.toCells ++ cellList m.cells

theorem Module.length_toPorts (pre : List Char) : (pre ++ m.toPorts).length = m.portsAt pre.length := by
  simp only [Module.toPorts, Module.portsAt, List.length_append, List.length_cons, List.length_nil]
  rw [show (spell "module").length = 6 by decide]
  omega

theorem Module.length_toCells (pre : List Char) : (pre ++ m.toCells).length = m.cellsAt pre.length := by
  rw [Module.toCells, Module.cellsAt, ← m.length_toPorts, ← List.append_assoc, List.length_append,
    @List.length_append _ (portList m.ports)]
  rfl

theorem Module.length_toEnd (pre : List Char) : (pre ++ m.toEnd).length = m.stopAt pre.length := by
  rw [Module.toEnd, Module.stopAt, ← m.length_toCells, ← List.append_assoc, List.length_append]

theorem Module.count_toPorts : m.toPorts.count '\n' = 0 := by
  refine count_inline ?_
  simp only [Module.toPorts, List.all_append, List.all_cons, all_inline m.name.tight]
  decide

theorem Module.count_toCells : m.toCells.count '\n' = m.ports.length + 1 := by
  rw [Module.toCells, List.count_append, m.count_toPorts, List.count_append, count_portList, Nat.zero_add]
  rfl

theorem Module.count_toEnd : m.toEnd.count '\n' = m.ports.length + m.cells.length + 2 := by
  rw [Module.toEnd, List.count_append, m.count_toCells, count_cellList]
  omega

theorem Module.text_toEnd : m.text = m.toEnd ++ (spell "endmodule" ++ ['\n']) := by
  simp [Module.text, Module.toEnd, Module.toCells, Module.toPorts]

theorem Module.count_text : m.text.count '\n' = m.ports.length + m.cells.length + 3 := by
  rw [m.text_toEnd, List.count_append, m.count_toEnd]
  rfl

/-- What is found in a module is on the lines that it is written on. -/
theorem Module.extracted_mark (file : Path) (pre post : List Char) :
    let text := pre ++ (m.text ++ post)
    let line := pre.count '\n' + 1
    (m.mark pre.length).definition file text = m.definition file line ∧
      (m.mark pre.length).marks.map (·.extracted text) = m.symbols line ∧
      (m.mark pre.length).instances.map (·.inst file text) = m.instances file line := by
  intro text line
  have hstart : lineOf text pre.length = line := lineOf_append pre (m.text ++ post)
  have hstop : lineOf text (m.stopAt pre.length) = m.lastLine line := by
    have h := lineOf_append (pre ++ m.toEnd) (spell "endmodule" ++ '\n' :: post)
    rw [m.length_toEnd, List.count_append, m.count_toEnd] at h
    rw [show text = pre ++ m.toEnd ++ (spell "endmodule" ++ '\n' :: post) by
      simp [text, m.text_toEnd], h, Module.lastLine]
    omega
  -- ports and cells are read in the middle of the text, which has to be cut in front of them
  have hports := extracted_headerPortsOf m.ports noHead (pre ++ m.toPorts)
    (')' :: ';' :: (cellList m.cells ++ (spell "endmodule" ++ '\n' :: post)))
  have hcells := extracted_cellMarks file m.cells (pre ++ m.toCells) (spell "endmodule" ++ '\n' :: post)
  rw [m.length_toPorts, List.count_append, m.count_toPorts, show pre ++ m.toPorts ++ (portList m.ports ++
    ')' :: ';' :: (cellList m.cells ++ (spell "endmodule" ++ '\n' :: post))) = text by
      simp [text, Module.text, Module.toPorts]] at hports
  rw [m.length_toCells, List.count_append, m.count_toCells, show pre ++ m.toCells ++ (cellList m.cells ++
    (spell "endmodule" ++ '\n' :: post)) = text by
      simp [text, Module.text, Module.toPorts, Module.toCells],
    show pre.count '\n' + (m.ports.length + 1) + 2 = line + m.ports.length + 2 by omega] at hcells
  refine ⟨?_, ?_, ?_⟩
  · simp only [ModuleMark.definition, Module.mark, hstart, hstop]
    rfl
  · -- the symbols are those of the ports, of the module and of the cells
    have hcells' := congrArg (List.map Prod.snd) hcells
    rw [List.map_map, List.map_map] at hcells'
    simp only [Module.mark, List.map_append, List.map_map, List.map_cons, List.map_nil]
    refine congrArg₂ _ (congrArg₂ _ hports ?_) hcells'
    simp only [Mark.extracted, hstart, hstop]
    rfl
  · have hcells' := congrArg (List.map Prod.fst) hcells
    rw [List.map_map, List.map_map] at hcells'
    simp only [Module.mark, List.map_map]
    exact hcells'

/-- What is found in modules that follow one another is on the lines they are written on. -/
theorem extracted_marksOf (file : Path) : ∀ (ms : List Module) (pre : List Char),
    let text := pre ++ render ms
    (marksOf pre.length ms).map (fun m => (m.definition file text, m.marks.map (·.extracted text),
        m.instances.map (·.inst file text))) =
      (numbered (pre.count '\n' + 1) ms).map fun (m, line) =>
        (m.definition file line, m.symbols line, m.instances file line)
  | [], _ => rfl
  | m :: ms, pre => by
    obtain ⟨hdefinition, hmarks, hinstances⟩ := m.extracted_mark file pre (render ms)
    have hrest := extracted_marksOf file ms (pre ++ m.text)
    have hline : pre.count '\n' + (m.ports.length + m.cells.length + 3) + 1 =
        m.lastLine (pre.count '\n' + 1) + 1 := by
      rw [Module.lastLine]
      omega
    simp only [List.length_append, List.count_append, m.count_text, hline, List.append_assoc] at hrest
    intro text
    rw [marksOf, numbered, List.map_cons, List.map_cons]
    exact congrArg₂ _ (congrArg₂ _ hdefinition (congrArg₂ _ hmarks hinstances)) hrest

/-! ## Extraction -/

theorem length_le_render : ∀ ms : List Module, ms.length ≤ (render ms).length
  | [] => Nat.le_refl _
  | m :: ms => by
    have hrest := length_le_render ms
    rw [show render (m :: ms) = m.text ++ render ms from List.flatMap_cons, List.length_append,
      m.length_text, List.length_cons]
    omega

/-- Extraction undoes rendering: from the canonical text of any modules come exactly these modules, in
order, with their ports, their instances and the symbols of all three, each on its line. -/
theorem extract_render (file : Path) (ms : List Module) :
    extract file (render ms) = .ok (extraction file ms) := by
  have hwritten : ∀ x ∈ render ms, isWritten x = true := List.all_eq_true.1 (written_render ms)
  have hne : ∀ x ∈ render ms, ∀ y, isWritten y = false → x ≠ y := fun x hx y hy he => by
    rw [he] at hx
    rw [hwritten y hx] at hy
    cases hy
  have hbare : Bare (render ms) := .of_all (List.all_eq_true.2 fun x hx => by
    simp [isBare, hne x hx '/' (by decide), hne x hx '"' (by decide), hne x hx (Char.ofNat 0) (by decide)])
  have hscan : scan (render ms) = marksOf 0 ms :=
    scanFrom_render ms (Nat.lt_succ_of_le (length_le_render ms)) rfl
  have hlines : (marksOf 0 ms).map (fun m => (m.definition file (render ms),
      m.marks.map (·.extracted (render ms)), m.instances.map (·.inst file (render ms)))) =
      (numbered 1 ms).map fun (m, line) =>
        (m.definition file line, m.symbols line, m.instances file line) := extracted_marksOf file ms []
  have hmodules := congrArg (List.map (·.1)) hlines
  have hsymbols := congrArg (List.flatMap (·.2.1)) hlines
  have hinstances := congrArg (List.flatMap (·.2.2)) hlines
  simp only [List.map_map, List.flatMap_map] at hmodules hsymbols hinstances
  rw [hbare.extract_eq, hscan, extraction, hsymbols, hinstances]
  exact congrArg (fun modules => Except.ok (Extraction.mk file _ modules _)) hmodules

example :
    let plain {w : List Char} (h : w.all isPlain = true) := List.all_eq_true.1 h
    let a : Name := ⟨⟨"a".toList, by decide, plain (by decide), by decide +kernel⟩, by decide⟩
    let top : Name := ⟨⟨"top".toList, by decide, plain (by decide), by decide +kernel⟩, by decide⟩
    let seven : Bound := ⟨⟨"7".toList, by decide, plain (by decide), by decide +kernel⟩, []⟩
    let ports : List PortEntry := [⟨some ⟨.input, some .reg, some ⟨seven, seven⟩⟩, a⟩, ⟨none, top⟩]
    render [⟨top, ports, [⟨a, a, [⟨a, a⟩, ⟨a, top⟩]⟩], by decide⟩] =
      "module top (\n  input reg [7:7] a,\n  top\n);\n  a a (.a(a), .a(top));\nendmodule\n".toList := by
  decide +kernel

end RtlAtlas.Source.Ansi
