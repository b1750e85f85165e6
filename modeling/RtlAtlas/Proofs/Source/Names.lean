/-
What holds of every extraction, whatever the text: it is refused only for a NUL character, all that
it reports belongs to the file it was asked for, and every name it reports consists of the characters
of identifiers, so that no name holds a colon.
-/
import RtlAtlas.Proofs.Source.Found

namespace RtlAtlas.Source

open RtlAtlas.Text

theorem extract_eq_ok {content : List Char} (h : Char.ofNat 0 ∉ content) (file : Path) :
    extract file content = .ok {
      file := file
      symbols := (scan (stripComments content)).flatMap fun m =>
        m.marks.map (·.extracted (stripComments content))
      modules := (scan (stripComments content)).map (·.definition file (stripComments content))
      instances := (scan (stripComments content)).flatMap fun m =>
        m.instances.map (·.inst file (stripComments content)) } :=
  if_neg fun hc => h (List.contains_iff_mem.1 hc)

/-- A text is refused exactly when it holds a NUL character. -/
theorem extract_isOk_iff {file : Path} {content : List Char} :
    (∃ e, extract file content = .ok e) ↔ Char.ofNat 0 ∉ content := by
  unfold extract
  split
  · rename_i h
    simpa using List.contains_iff_mem.1 h
  · rename_i h
    simpa using fun hm => h (List.contains_iff_mem.2 hm)

theorem extract_eq_error {file : Path} {content : List Char} {error : Error}
    (h : extract file content = .error error) :
    error = .source file .binary ∧ Char.ofNat 0 ∈ content := by
  unfold extract at h
  split at h
  · rename_i hc
    cases h
    exact ⟨rfl, List.contains_iff_mem.1 hc⟩
  · cases h

/-- What is reported of a file belongs to that file. -/
theorem file_of_extract {file : Path} {content : List Char} {e : Extraction}
    (h : extract file content = .ok e) :
    e.file = file ∧ (∀ m ∈ e.modules, m.file = file) ∧ ∀ i ∈ e.instances, i.file = file := by
  unfold extract at h
  split at h
  · cases h
  · cases h
    refine ⟨rfl, fun m hm => ?_, fun i hi => ?_⟩
    · obtain ⟨mm, -, rfl⟩ := List.mem_map.1 hm
      rfl
    · obtain ⟨mm, -, hi⟩ := List.mem_flatMap.1 hi
      obtain ⟨im, -, rfl⟩ := List.mem_map.1 hi
      rfl

/-- No reported name holds a colon. -/
theorem colon_notMem_of_extract {file : Path} {content : List Char} {e : Extraction}
    (h : extract file content = .ok e) : ∀ s ∈ e.symbols, ':' ∉ s.name.toList := by
  unfold extract at h
  split at h
  · cases h
  · cases h
    intro s hs
    obtain ⟨mm, hmm, hs⟩ := List.mem_flatMap.1 hs
    obtain ⟨m, hm, rfl⟩ := List.mem_map.1 hs
    unfold Mark.extracted
    rw [String.toList_ofList]
    obtain ⟨k, -, -, hnames⟩ := (found_scanFrom hmm hm).named
    exact hnames.isName.colon_notMem

end RtlAtlas.Source
