/-
What a run that indexes shows. The markup of its own lines is never refused, so the output breaks off
only where a name or a message brings markup along.
-/
import RtlAtlas.Command.Show
import RtlAtlas.Proofs.Console.Marked
import RtlAtlas.Proofs.Symbol.Identity

namespace RtlAtlas.Command

open Markup

/-! ## Lines -/

/-- A line that can be shown. -/
def Line.Shown (l : Line) : Prop := ∃ text, l.render = .ok text

theorem Line.shown_marked {text : String} (h : Marked [] text.toList) : (Line.marked text).Shown := by
  obtain ⟨cs, hcs⟩ := h.plain Emoji.replace
  refine ⟨String.ofList cs ++ "\n", ?_⟩
  unfold render
  simp only [hcs]

theorem renderLines_shown : ∀ {ls : List Line}, (∀ l ∈ ls, l.Shown) → (renderLines ls).2 = none
  | [], _ => rfl
  | l :: ls, h => by
    obtain ⟨text, ht⟩ := h l List.mem_cons_self
    unfold renderLines
    rw [ht]
    exact renderLines_shown fun k hk => h k (List.mem_cons_of_mem _ hk)

/-- A report of lines that can be shown ends well. -/
theorem exit_ofLines {ls : List Line} (h : ∀ l ∈ ls, l.Shown) : (Report.ofLines ls).outcome.exit = 0 := by
  have hnone : (renderLines ls).2 = none := renderLines_shown h
  unfold Report.outcome Report.ofLines
  simp only
  split
  · rename_i output e he
    rw [he] at hnone
    cases hnone
  · rfl

/-! ## The lines of a run -/

theorem bare_nat (n : Nat) : Bare (toString n).toList := by
  have hdigit (c : Char) (hc : c ∈ (toString n).toList) : c.isDigit = true := by
    rw [show toString n = n.repr from rfl, Nat.repr, String.toList_ofList] at hc
    exact Nat.isDigit_of_mem_toDigits (by decide) (by decide) hc
  exact ⟨fun h => absurd (hdigit _ h) (by decide), fun h => absurd (hdigit _ h) (by decide)⟩

/-- The line of a directory is shown if its name brings no markup along. -/
theorem marked_progressAtFirst {directory : Path} (h : Bare directory.name.toList) :
    Marked [] (progressAtFirst directory).toList := by
  have hline : (progressAtFirst directory).toList = '[' :: "progress.description".toList ++ ']' ::
      ("Indexing ".toList ++ ('[' :: "cyan".toList ++ ']' :: (directory.name.toList ++
        '[' :: '/' :: ']' :: []))) := by
    unfold progressAtFirst
    simp only [String.toList_append, toString, List.append_assoc]
    rfl
  rw [hline]
  exact .opening fine_progress (.text (by decide) (.opening fine_cyan (.text h (.closing .done))))

/-- The line of the last file is shown if its name brings no markup along. -/
theorem marked_progressAtLast {directory : Path} {reports : List Progress}
    (h : Bare directory.name.toList)
    (hlast : ∀ r ∈ reports.getLast?, Bare (r.file.shownFrom directory).toList) :
    Marked [] (progressAtLast directory reports).toList := by
  unfold progressAtLast
  split
  · exact marked_progressAtFirst h
  · rename_i r hr
    have hline : (s!"[progress.description][cyan]{r.file.shownFrom directory}[/]").toList =
        '[' :: "progress.description".toList ++ ']' :: ('[' :: "cyan".toList ++ ']' ::
          ((r.file.shownFrom directory).toList ++ '[' :: '/' :: ']' :: [])) := by
      simp only [String.toList_append, toString, List.append_assoc]
      rfl
    rw [hline]
    exact .opening fine_progress (.opening fine_cyan (.text (hlast r hr) (.closing .done)))

theorem mem_ifAny {n : Nat} {ls : List Line} {l : Line} (h : l ∈ ifAny n ls) : n ≠ 0 ∧ l ∈ ls := by
  unfold ifAny at h
  split at h
  · cases h
  · rename_i hn
    exact ⟨hn, h⟩

theorem Line.shown_count (lead : String) (h : Bare lead.toList) (n : Nat) :
    (Line.marked (lead ++ toString n)).Shown := by
  refine shown_marked ?_
  rw [String.toList_append]
  exact (h.append (bare_nat n)).marked

theorem Line.shown_dim (lead : String) (h : Bare lead.toList) (n : Nat) :
    (Line.marked ("  [dim]" ++ lead ++ toString n ++ "[/]")).Shown := by
  have hline : ("  [dim]" ++ lead ++ toString n ++ "[/]").toList = "  ".toList ++
      ('[' :: "dim".toList ++ ']' :: (lead.toList ++ ((toString n).toList ++ '[' :: '/' :: ']' :: []))) := by
    simp only [String.toList_append, List.append_assoc]
    rfl
  refine shown_marked ?_
  rw [hline]
  exact .text (by decide) (.opening fine_dim (.text h (.text (bare_nat n) (.closing .done))))

/-- What a run without errors has counted is shown. -/
theorem shown_statsLines {counted : Stats} (herrors : counted.errors = []) (g : Graph) :
    ∀ l ∈ statsLines counted g, l.Shown := by
  have hdone : Marked [] "[green]Done![/green]".toList :=
    .opening fine_green (.text (u := "Done!".toList) (by decide) (.closingName .done))
  have hsizes : Bare (s!"  Graph: {g.nodes.size} modules, {g.edgeCount} edges").toList := by
    simp only [String.toList_append]
    exact ((((by decide : Bare "  Graph: ".toList).append (bare_nat _)).append (by decide)).append
      (bare_nat _)).append (by decide)
  intro l hl
  unfold statsLines at hl
  rw [herrors] at hl
  simp only [List.mem_append, List.mem_cons, List.not_mem_nil, or_false] at hl
  rcases hl with ((((rfl | rfl | rfl | rfl | rfl | rfl) | hl) | hl) | hl) | hl
  · exact Line.shown_marked hdone
  · exact Line.shown_count "  Files indexed: " (by decide) _
  · exact Line.shown_count "  Symbols found: " (by decide) _
  · exact Line.shown_count "  Modules: " (by decide) _
  · exact Line.shown_count "  Instances: " (by decide) _
  · exact Line.shown_marked hsizes.marked
  · rw [List.mem_singleton.1 (mem_ifAny hl).2]
    exact Line.shown_dim "Skipped: " (by decide) _
  · rw [List.mem_singleton.1 (mem_ifAny hl).2]
    exact Line.shown_dim "Unchanged: " (by decide) _
  · rw [List.mem_singleton.1 (mem_ifAny hl).2]
    exact Line.shown_dim "Removed: " (by decide) _
  · exact absurd rfl (mem_ifAny hl).1

end RtlAtlas.Command
