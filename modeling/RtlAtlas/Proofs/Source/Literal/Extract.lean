/-
What a text declares, and the text of its literals. Comments are looked for around literals, but
declarations are looked for within them as well, so the text of a literal matters as soon as it holds a
word or a mark that a declaration is read by. If it holds none and no symbol is placed in it, it
matters only where it is repeated: in what connections and parameters are bound to and in the types of
ports.
-/
import RtlAtlas.Proofs.Source.Literal.Mode
import RtlAtlas.Proofs.Source.Literal.Scan
import RtlAtlas.Proofs.Source.Names

namespace RtlAtlas.Source

open RtlAtlas.Text

variable {text text' : List Char}

/-! ## Results that differ in literals at most -/

/-- Two modules on the same lines whose ports differ in literals at most. -/
structure ModuleDef.UpToLiterals (m m' : ModuleDef) : Prop where
  name_eq : m.name = m'.name
  file_eq : m.file = m'.file
  line_eq : m.line = m'.line
  endLine_eq : m.endLine = m'.endLine
  ports : List.Forall₂ Port.UpToLiterals m.ports m'.ports

/-- Two instances on the same line whose connections and parameters differ in literals at most. -/
structure Instance.UpToLiterals (i i' : Instance) : Prop where
  name_eq : i.name = i'.name
  type_eq : i.moduleType = i'.moduleType
  file_eq : i.file = i'.file
  line_eq : i.line = i'.line
  connections : List.Forall₂ Connection.UpToLiterals i.connections i'.connections
  parameters : List.Forall₂ (OrderedMap.SameKey SameExpression) i.parameters.entries
    i'.parameters.entries

/-- Two results with the same symbols, whose modules and instances differ in literals at most. -/
structure Extraction.UpToLiterals (e e' : Extraction) : Prop where
  file_eq : e.file = e'.file
  symbols_eq : e.symbols = e'.symbols
  modules : List.Forall₂ ModuleDef.UpToLiterals e.modules e'.modules
  instances : List.Forall₂ Instance.UpToLiterals e.instances e'.instances

/-! ## Quiet literals -/

/-- What is marked in a text. -/
def marks (text : List Char) : List Mark := (scan (stripComments text)).flatMap (·.marks)

/-- A place between the quotes of a quiet literal in which no symbol of the text is placed. -/
def QuietAt (text : List Char) (i : Nat) : Prop :=
  ∃ j w, LiteralAt text j w ∧ (j < i ∧ i ≤ j + w.length) ∧ Quiet w ∧
    ∀ m ∈ marks text, m.start ≤ j ∨ j + w.length < m.start

/-- The places at which symbols of two texts start. -/
def StartOf (text text' : List Char) (o : Nat) : Prop := ∃ m ∈ marks text ++ marks text', m.start = o

/-- Texts that differ in quiet literals have the same literals there, and those may stand for one
another. -/
theorem exchangedAt_of_quiet {i : Nat} (h : DifferInLiterals text text') (hi : QuietAt text i)
    (hi' : QuietAt text' i) :
    ∃ j w w', ExchangedAt (StartOf text text') text text' j w w' ∧ j < i ∧ i ≤ j + w.length := by
  obtain ⟨j, w, hat, hin, hquiet, hout⟩ := hi
  obtain ⟨j', w', hat', hin', hquiet', hout'⟩ := hi'
  obtain ⟨rfl, hlength⟩ := hat.unique hat' h.modes_eq hin hin'
  refine ⟨j, w, w', ⟨hat, hat', hlength, hquiet, hquiet', ?_⟩, hin⟩
  rintro o ⟨m, hm, rfl⟩
  rcases List.mem_append.1 hm with hm | hm
  · have := hout m hm
    omega
  · have := hout' m hm
    omega

/-- The modules of two texts that differ in quiet literals. -/
theorem scan_upToLiterals (h : DifferInLiterals text text')
    (hquiet : ∀ i : Nat, text[i]? ≠ text'[i]? → QuietAt text i ∧ QuietAt text' i) :
    List.Forall₂ ModuleMark.UpToLiterals (scan (stripComments text)) (scan (stripComments text')) := by
  have hexchange : Exchange (Swap (StartOf text text')) 0 (stripComments text) (stripComments text') :=
    h.exchange fun i hi => exchangedAt_of_quiet h (hquiet i hi).1 (hquiet i hi).2
  refine scan_alike hexchange (fun part hpart m hm => ?_) fun part hpart m hm => ?_
  · exact ⟨m, List.mem_append_left _ (List.mem_flatMap.2 ⟨part, hpart, hm⟩), rfl⟩
  · exact ⟨m, List.mem_append_right _ (List.mem_flatMap.2 ⟨part, hpart, hm⟩), rfl⟩

/-! ## Extraction -/

theorem DifferInLiterals.lineOf_eq (h : DifferInLiterals text text') (k : Nat) :
    lineOf (stripComments text) k = lineOf (stripComments text') k := by
  rw [lineOf_stripComments, lineOf_stripComments, lineOf, lineOf, h.count_take_eq]

/-- What a text declares does not depend on the text of its quiet literals, but for what repeats it. -/
theorem extract_upToLiterals (file : Path) (hclean : Char.ofNat 0 ∉ text)
    (hclean' : Char.ofNat 0 ∉ text') (h : DifferInLiterals text text')
    (hquiet : ∀ i : Nat, text[i]? ≠ text'[i]? → QuietAt text i ∧ QuietAt text' i) :
    ∃ e e', extract file text = .ok e ∧ extract file text' = .ok e' ∧ e.UpToLiterals e' := by
  have hscan := scan_upToLiterals h hquiet
  have hextracted : ∀ m : Mark, m.extracted (stripComments text) = m.extracted (stripComments text') := by
    intro m
    rw [Mark.extracted, Mark.extracted, h.lineOf_eq, h.lineOf_eq]
  refine ⟨_, _, extract_eq_ok hclean file, extract_eq_ok hclean' file, rfl, ?_, ?_, ?_⟩
  · simp only [hextracted]
    exact flatMap_eq_of_forall₂ (fun m m' hm => by rw [hm.marks_eq]) hscan
  · refine List.forall₂_map_left_iff.2 <| List.forall₂_map_right_iff.2 <| hscan.imp fun m m' hm => ?_
    refine ⟨congrArg String.ofList hm.name_eq, rfl, ?_, ?_, hm.ports⟩
    · simp only [ModuleMark.definition, h.lineOf_eq, hm.start_eq]
    · simp only [ModuleMark.definition, h.lineOf_eq, hm.stop_eq]
  · refine List.rel_flatMap hscan fun m m' hm => ?_
    refine List.forall₂_map_left_iff.2 <| List.forall₂_map_right_iff.2 <|
      hm.instances.imp fun i i' hi => ?_
    refine ⟨congrArg String.ofList hi.name_eq, congrArg String.ofList hi.type_eq, rfl, ?_,
      hi.connections, hi.parameters⟩
    simp only [InstanceMark.inst, h.lineOf_eq, hi.start_eq]

/-- A module that binds a port to a literal and declares a signal behind it. -/
def wired (w : String) : List Char :=
  "module m;\nsub u (.a(\"".toList ++ w.toList ++ "\"));\nwire w;\nendmodule\n".toList

/-- Which of two words a port is bound to matters for that connection alone. -/
theorem extract_upToLiterals_wired :
    Char.ofNat 0 ∉ wired "one" ∧ Char.ofNat 0 ∉ wired "two" ∧
      DifferInLiterals (wired "one") (wired "two") ∧
      (∀ i : Nat, (wired "one")[i]? ≠ (wired "two")[i]? →
        QuietAt (wired "one") i ∧ QuietAt (wired "two") i) ∧
      ∃ e e', extract ⟨.root, ["a.v"]⟩ (wired "one") = .ok e ∧
        extract ⟨.root, ["a.v"]⟩ (wired "two") = .ok e' ∧ e.UpToLiterals e' ∧
        e.instances.map (·.connections) = [[⟨"a", "\"one\"", none, none⟩]] ∧
        e'.instances.map (·.connections) = [[⟨"a", "\"two\"", none, none⟩]] := by
  have hclean : Char.ofNat 0 ∉ wired "one" := by decide +kernel
  have hclean' : Char.ofNat 0 ∉ wired "two" := by decide +kernel
  have hdiffer : DifferInLiterals (wired "one") (wired "two") := by decide +kernel
  have hplace : ∀ i < (wired "one").length, (wired "one")[i]? ≠ (wired "two")[i]? →
      20 < i ∧ i ≤ 20 + 3 := by decide +kernel
  have hone : LiteralAt (wired "one") 20 "one".toList :=
    ⟨by decide +kernel, by decide +kernel, by decide +kernel⟩
  have htwo : LiteralAt (wired "two") 20 "two".toList :=
    ⟨by decide +kernel, by decide +kernel, by decide +kernel⟩
  have hquiet : Quiet "one".toList ∧ Quiet "two".toList := by decide +kernel
  -- The differing positions all lie in the three characters behind position 20.
  have hat : ∀ i : Nat, (wired "one")[i]? ≠ (wired "two")[i]? →
      QuietAt (wired "one") i ∧ QuietAt (wired "two") i := by
    intro i hi
    have hin := hplace i (lt_of_getElem?_ne hdiffer.length_eq hi) hi
    exact ⟨⟨20, _, hone, hin, hquiet.1, by decide +kernel⟩,
      ⟨20, _, htwo, hin, hquiet.2, by decide +kernel⟩⟩
  obtain ⟨e, e', he, he', halike⟩ := extract_upToLiterals ⟨.root, ["a.v"]⟩ hclean hclean' hdiffer hat
  refine ⟨hclean, hclean', hdiffer, hat, e, e', he, he', halike, ?_, ?_⟩
  · rw [extract_eq_ok hclean] at he
    cases he
    decide +kernel
  · rw [extract_eq_ok hclean'] at he'
    cases he'
    decide +kernel

/-- A module that displays a literal and declares a signal behind it. -/
def displaying (w : String) : List Char :=
  "module m;\ninitial $display(\"".toList ++ w.toList ++ "\");\nwire w;\nendmodule\n".toList

/-- A literal that holds the word that ends a module ends it: what is declared behind it is lost. -/
theorem literal_ends_module :
    Char.ofNat 0 ∉ displaying "endmodule" ∧ Char.ofNat 0 ∉ displaying "endmodulx" ∧
      DifferInLiterals (displaying "endmodule") (displaying "endmodulx") ∧
      ∃ e e', extract ⟨.root, ["a.v"]⟩ (displaying "endmodule") = .ok e ∧
        extract ⟨.root, ["a.v"]⟩ (displaying "endmodulx") = .ok e' ∧
        e.symbols = [⟨"m", .module, 1, 2, "module_declaration"⟩] ∧
        e'.symbols = [⟨"m", .module, 1, 4, "module_declaration"⟩,
          ⟨"w", .signal, 3, 3, "net_declaration"⟩] := by
  have hclean : Char.ofNat 0 ∉ displaying "endmodule" := by decide +kernel
  have hclean' : Char.ofNat 0 ∉ displaying "endmodulx" := by decide +kernel
  refine ⟨hclean, hclean', by decide +kernel, _, _, extract_eq_ok hclean _, extract_eq_ok hclean' _, ?_, ?_⟩
  · decide +kernel
  · decide +kernel

end RtlAtlas.Source
