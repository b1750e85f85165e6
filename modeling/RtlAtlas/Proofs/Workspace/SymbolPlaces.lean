/-
Symbols of an index are told apart by file, name and line. Their identifiers are made of these three, and
different ones give different identifiers, whether a file is shown relative to the root or in full and
whatever colons stand in its name. So no two symbols of an index agree in all three, and symbols that come
in for one file take the place of no symbol of another.
-/
import RtlAtlas.Proofs.Workspace.Coherence

namespace RtlAtlas

/-- What a symbol is told apart by: its file, its name and its line. -/
def Symbol.place (s : Symbol) : Path × String × Int := (s.file, s.name, s.line)

namespace Index

variable {i : Index} {copies : Path → Option Copy}

/-- No two symbols of an index that represents copies have one place. -/
theorem Represents.nodup_places (h : i.Represents copies) :
    (i.table.symbols.values.map Symbol.place).Nodup := by
  refine List.Nodup.map_on (fun a ha b hb hab => h.apart a ha b hb ?_) h.table.nodup_values
  obtain ⟨hfile, hname, hline⟩ : a.file = b.file ∧ a.name = b.name ∧ a.line = b.line := by
    simpa [Symbol.place] using hab
  exact Symbol.ord_eq_iff.2 ⟨congrArg Path.text hfile, hline, hname⟩

/-- Putting new symbols in place of those of a file leaves the symbols of the other files. -/
theorem Represents.mem_replaceFile (h : i.Represents copies) {file : Path} {text : List Char}
    {e : Source.Extraction} (hfile : file.Resolved) (he : Source.extract file text = .ok e) {s : Symbol}
    (hs : s.file ≠ file) :
    s ∈ (i.table.replaceFile file (symbolsOf i.root file e)).2.symbols.values ↔
      s ∈ i.table.symbols.values := by
  have htaken := h.take (c := ⟨text, true⟩) hfile he
  have htable : s ∈ (i.table.replaceFile file (symbolsOf i.root file e)).2.symbols.values ↔
      s ∈ symbolsHeld i.root s.file (Function.update copies file (some ⟨text, true⟩) s.file) :=
    htaken.mem_values
  rw [htable, Function.update_of_ne hs, h.mem_values]

end Index

namespace Workspace

/-- An update of a file, also one that fails, leaves the symbols of the other files. -/
theorem mem_updateFile {w : Workspace} (hw : w.tree.WF) (hk : Kept w.index) {file : Path}
    (hp : file.Proper) (content : Option String) {s : Symbol} (hs : s.file ≠ w.tree.place file) :
    s ∈ (w.updateFile file content).2.index.table.symbols.values ↔ s ∈ w.index.table.symbols.values := by
  obtain ⟨-, copies, h⟩ := hk
  unfold Workspace.updateFile
  split
  · exact Iff.rfl
  · rename_i place hplace
    have hresolved : place.Resolved := (FileTree.isPlace_of_resolve hw hp hplace).resolved
    obtain ⟨-, rfl⟩ := FileTree.resolve_eq_ok.1 hplace
    have hupdated := h.updateFile w.tree hresolved content
    rw [hupdated.mem_values, (Index.stays_updateFile w.index w.tree _ content).root,
      Function.update_of_ne hs, h.mem_values]

/-- Identifiers made from one root tell file, name and line apart. Hence the table of an index that a run
leads to never holds two symbols that agree in all three, and taking the symbols of a text in for one file
takes no symbol of another file away, as part of an update or on its own. -/
theorem symbols_identified :
    (∀ (root f f' : Path) (n n' : String) (l l' : Int), f.Proper → f'.Proper →
      f.isAbsolute = true → f'.isAbsolute = true → ':' ∉ n.toList → ':' ∉ n'.toList →
      (Symbol.idOf root f n l = Symbol.idOf root f' n' l' ↔ f = f' ∧ n = n' ∧ l = l')) ∧
    ∀ w : Workspace, w.Reachable →
      (w.index.table.symbols.values.map Symbol.place).Nodup ∧
      (∀ file text e, file.Resolved → Source.extract file text = .ok e → ∀ s : Symbol, s.file ≠ file →
        (s ∈ (w.index.table.replaceFile file (Index.symbolsOf w.index.root file e)).2.symbols.values ↔
          s ∈ w.index.table.symbols.values)) ∧
      ∀ (file : Path) content, file.Proper → ∀ s : Symbol, s.file ≠ w.tree.place file →
        (s ∈ (w.updateFile file content).2.index.table.symbols.values ↔
          s ∈ w.index.table.symbols.values) := by
  constructor
  · intro root f f' n n' l l' hf hf' ha ha' hn hn'
    exact Symbol.idOf_inj hf hf' ha ha' hn hn'
  · intro w hw
    have hkept := hw.kept.index
    have ⟨_, copies, h⟩ := hkept
    refine ⟨h.nodup_places, ?_, ?_⟩
    · intro file text e hfile he s hs
      exact h.mem_replaceFile hfile he hs
    · intro file content hp s hs
      exact mem_updateFile hw.kept.wf hkept hp content hs

/-- A file in the root and one outside of it with the same module at the same line: their identifiers
differ, as does that of a file whose name looks like an identifier, and taking the second file in leaves the
symbol of the first. -/
theorem symbols_identified_sameName :
    Symbol.idOf ⟨.root, ["r"]⟩ ⟨.root, ["r", "a.v"]⟩ "m" 1 ≠
        Symbol.idOf ⟨.root, ["r"]⟩ ⟨.root, ["a.v"]⟩ "m" 1 ∧
      Symbol.idOf ⟨.root, ["r"]⟩ ⟨.root, ["r", "a.v"]⟩ "m" 1 ≠
        Symbol.idOf ⟨.root, ["r"]⟩ ⟨.root, ["r", "a.v:m:1"]⟩ "m" 1 ∧
      oneModule.Reachable ∧ (oneModule.index.table.symbols.values.map Symbol.place).Nodup ∧
      ∃ s ∈ oneModule.index.table.symbols.values, s.id = "a.v:m:1" ∧
        (∃ e, Source.extract ⟨.root, ["a.v"]⟩ "module m; endmodule".toList = .ok e ∧
          s ∈ (oneModule.index.table.replaceFile ⟨.root, ["a.v"]⟩
            (Index.symbolsOf oneModule.index.root ⟨.root, ["a.v"]⟩ e)).2.symbols.values) ∧
        s ∈ (oneModule.updateFile ⟨.root, ["a.v"]⟩
          (some "module m; endmodule")).2.index.table.symbols.values := by
  obtain ⟨hid, hruns⟩ := symbols_identified
  obtain ⟨hplaces, hreplaced, hupdated⟩ := hruns oneModule reachable_oneModule
  obtain ⟨e, he⟩ : ∃ e, Source.extract ⟨.root, ["a.v"]⟩ "module m; endmodule".toList = .ok e :=
    Source.extract_isOk_iff.2 (by decide)
  have hheld : oneModule.index.table.symbols.values.map (fun s => (s.id, s.file)) =
      [("a.v:m:1", ⟨.root, ["r", "a.v"]⟩)] := by decide +kernel
  obtain ⟨s, hs, hshown⟩ := List.mem_map.1 (hheld ▸ List.mem_singleton_self _)
  obtain ⟨hsid, hsfile⟩ := Prod.mk.inj hshown
  refine ⟨?_, ?_, reachable_oneModule, hplaces, s, hs, hsid, ⟨e, he, ?_⟩, ?_⟩
  · rw [Ne, hid _ _ _ _ _ _ _ (by decide) (by decide) (by decide) (by decide) (by decide) (by decide)]
    decide
  · rw [Ne, hid _ _ _ _ _ _ _ (by decide) (by decide) (by decide) (by decide) (by decide) (by decide)]
    decide
  · exact (hreplaced ⟨.root, ["a.v"]⟩ _ e (by decide) he s (by rw [hsfile]; decide)).2 hs
  · exact (hupdated ⟨.root, ["a.v"]⟩ _ (by decide) s (by rw [hsfile]; decide +kernel)).2 hs

end Workspace

end RtlAtlas
