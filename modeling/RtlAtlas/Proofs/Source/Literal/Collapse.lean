/-
Collapsing the white space of a text that holds literals. White space within a literal collapses like
any other, but what collapses there stays between the quotes of the literal.
-/
import RtlAtlas.Proofs.Source.Literal.Exchange

namespace RtlAtlas.Source

open RtlAtlas.Text

variable {x : Char} {w cs : List Char}

/-! ## Character by character -/

theorem words_eq_nil_iff : ∀ {cs : List Char}, words cs = [] ↔ cs.all isBlank = true
  | [] => by simp [words]
  | c :: cs => by
    cases hc : isBlank c with
    | true => rw [words_blank hc, words_eq_nil_iff, List.all_cons, hc, Bool.true_and]
    | false =>
      rw [List.all_cons, hc, Bool.false_and, words.eq_def]
      simp only [hc, Bool.false_eq_true, if_false, iff_false]
      split
      · simp
      · split
        · simp
        · cases words (_ :: _) <;> simp

/-- What collapsing makes of a text that goes on behind a character of a word. -/
def resume (cs : List Char) : List Char :=
  if cs.head?.any isBlank && !cs.all isBlank then ' ' :: collapse cs else collapse cs

theorem collapse_blank (hx : isBlank x = true) (cs : List Char) : collapse (x :: cs) = collapse cs := by
  rw [collapse, words_blank hx, collapse]

theorem collapse_cons (hx : isBlank x = false) (cs : List Char) :
    collapse (x :: cs) = x :: resume cs := by
  unfold resume collapse
  cases cs with
  | nil => simp [words, hx]
  | cons d ds =>
    rw [words.eq_def (x :: d :: ds)]
    simp only [hx, List.head?_cons, Option.any_some, Bool.false_eq_true, if_false]
    by_cases hd : isBlank d = true
    · rw [if_pos hd]
      cases hw : words (d :: ds) with
      | nil => simp [words_eq_nil_iff.1 hw]
      | cons u us =>
        have hsome : (d :: ds).all isBlank = false := by
          rw [← Bool.not_eq_true, ← words_eq_nil_iff, hw]
          exact List.cons_ne_nil _ _
        simp [hd, hsome, List.intercalate_cons_cons]
    · rw [if_neg hd]
      cases hw : words (d :: ds) with
      | nil => simp [hd]
      | cons u us => cases us <;> simp [hd, List.intercalate_cons_cons]

/-! ## Literals -/

/-- A text with one space for every run of white space. -/
def squeeze : List Char → List Char
  | [] => []
  | c :: cs =>
    if isBlank c then if cs.head?.any isBlank then squeeze cs else ' ' :: squeeze cs
    else c :: squeeze cs

/-- Collapsing keeps the quotes of a literal and squeezes what stands between them. -/
theorem resume_literal (w cs : List Char) :
    resume (w ++ '"' :: cs) = squeeze w ++ '"' :: resume cs := by
  have hquote : isBlank '"' = false := by decide
  induction w with
  | nil =>
    have hhere : resume ('"' :: cs) = collapse ('"' :: cs) := by
      rw [resume, List.head?_cons, Option.any_some, hquote, Bool.false_and]
      rfl
    rw [List.nil_append, hhere, collapse_cons hquote]
    rfl
  | cons c w ih =>
    have hmore : (w ++ '"' :: cs).all isBlank = false := by simp [hquote]
    rw [List.cons_append, squeeze]
    cases hc : isBlank c with
    | false =>
      have hhere : resume (c :: (w ++ '"' :: cs)) = collapse (c :: (w ++ '"' :: cs)) := by
        rw [resume, List.head?_cons, Option.any_some, hc, Bool.false_and]
        rfl
      rw [hhere, collapse_cons hc, ih]
      rfl
    | true =>
      have hhere : resume (c :: (w ++ '"' :: cs)) = ' ' :: collapse (w ++ '"' :: cs) := by
        rw [resume, List.head?_cons, Option.any_some, List.all_cons, hc, hmore, collapse_blank hc]
        rfl
      have hnext : (w ++ '"' :: cs).head?.any isBlank = w.head?.any isBlank := by
        cases w with
        | nil => exact hquote
        | cons d w => rfl
      -- the space is written at the last character of a run of white space
      rw [hhere, if_pos rfl]
      rw [resume, hnext, hmore] at ih
      cases hd : w.head?.any isBlank with
      | true =>
        rw [hd] at ih
        exact ih
      | false =>
        rw [hd] at ih
        rw [if_neg Bool.false_ne_true, List.cons_append, ← ih]
        rfl

theorem squeeze_of_head : ∀ {cs : List Char}, cs.head?.any isBlank = true →
    ∃ rest, squeeze cs = ' ' :: rest
  | [], h => by cases h
  | c :: cs, h => by
    have hc : isBlank c = true := h
    rw [squeeze, if_pos hc]
    cases hnext : cs.head?.any isBlank with
    | true => exact squeeze_of_head hnext
    | false => exact ⟨_, rfl⟩

/-- What is squeezed can still stand between the quotes of a literal. -/
theorem literalText_squeeze (h : literalText w = true) : literalText (squeeze w) = true := by
  have hspace : ∀ cs, literalText (' ' :: cs) = literalText cs := fun cs => by
    rw [literalText_cons (by decide)]
    rfl
  fun_induction literalText w with
  | case1 => rfl
  | case2 c cs ih =>
    have hback : isBlank '\\' = false := by decide
    rw [squeeze, hback, if_neg Bool.false_ne_true, squeeze]
    cases hc : isBlank c with
    | false => simpa [literalText] using ih h
    | true =>
      cases hnext : cs.head?.any isBlank with
      | false => simpa [literalText] using ih h
      | true =>
        -- the run of white space behind the backslash leaves one space
        obtain ⟨rest, hrest⟩ := squeeze_of_head hnext
        have := ih h
        rw [hrest, hspace] at this
        simpa [hrest, literalText] using this
  | case3 c cs hescape ih =>
    simp only [Bool.and_eq_true, bne_iff_ne] at h
    obtain ⟨⟨⟨hquote, hbreak⟩, hback⟩, hcs⟩ := h
    rw [squeeze]
    cases hc : isBlank c with
    | false =>
      rw [if_neg Bool.false_ne_true, literalText_cons hback]
      simpa [hquote, hbreak] using ih hcs
    | true =>
      rw [if_pos rfl]
      split
      · exact ih hcs
      · rw [hspace]
        exact ih hcs

/-! ## Texts up to literals -/

/-- Texts that are equal up to literals are so when their white space is collapsed. -/
theorem UpToLiterals.collapse {t t' : List Char} (h : UpToLiterals t t') :
    UpToLiterals (collapse t) (collapse t') := by
  have hresume : ∀ {cs cs' : List Char} {k : Nat},
      Exchange (fun _ w w' => literalText w = true ∧ literalText w' = true) k cs cs' →
      UpToLiterals (Text.collapse cs) (Text.collapse cs') → UpToLiterals (resume cs) (resume cs') := by
    intro cs cs' k h hcs
    unfold resume
    rw [h.head?_eq, h.all_eq (p := isBlank) (by decide)]
    split
    · exact .same (hcs.shift _)
    · exact hcs
  unfold UpToLiterals at h
  generalize 0 = k at h
  induction h with
  | nil => exact .nil
  | @same _ x cs cs' h ih =>
    cases hx : isBlank x with
    | true => rwa [collapse_blank hx, collapse_blank hx]
    | false =>
      rw [collapse_cons hx, collapse_cons hx]
      exact .same ((hresume h ih).shift _)
  | literal hw h ih =>
    have hquote : isBlank '"' = false := by decide
    rw [collapse_cons hquote, collapse_cons hquote, resume_literal, resume_literal]
    exact .literal ⟨literalText_squeeze hw.1, literalText_squeeze hw.2⟩ ((hresume h ih).shift _)

end RtlAtlas.Source
