/-
Brackets and separators around literals. A quiet literal holds none of them and none of the words that
a scan looks for, so exchanging the text of quiet literals keeps what closes a bracket, where a text
is split and where it is cut.
-/
import Mathlib.Data.List.Forall2
import RtlAtlas.Proofs.Source.Literal.Exchange
import RtlAtlas.Proofs.Source.Nesting

namespace RtlAtlas.Source

open RtlAtlas.Text

/-- The words that a scan looks for anywhere in a text. -/
def scannedWords : List String := [
  "module", "macromodule", "endmodule", "function", "task", "endfunction", "endtask", "input",
  "output", "inout", "parameter", "localparam"]

/-- The marks that a scan reads by: brackets, separators, the sign in front of a value, the line feed. -/
def scannedMarks : List Char := ['(', ')', '[', ']', '{', '}', ',', ';', '=', '\n']

/-- The text of a literal that holds nothing a scan looks for: no bracket, no separator, no line feed
and no word that it searches for. -/
structure Quiet (w : List Char) : Prop where
  isText : literalText w = true
  unmarked : ∀ x ∈ w, x ∉ scannedMarks
  wordless : (⟨0, some '"', w⟩ : Cursor).search (·.word? scannedWords) = none

instance (w : List Char) : Decidable (Quiet w) :=
  decidable_of_iff (literalText w = true ∧ w.all (fun x => x ∉ scannedMarks) = true ∧
      ((⟨0, some '"', w⟩ : Cursor).search (·.word? scannedWords)).isNone = true)
    ⟨fun ⟨h₁, h₂, h₃⟩ => ⟨h₁, by simpa using h₂, Option.isNone_iff_eq_none.1 h₃⟩,
      fun h => ⟨h.isText, by simpa using h.unmarked, Option.isNone_iff_eq_none.2 h.wordless⟩⟩

/-- Two quiet texts of one length that may stand for one another at an offset, because none of the
given places lies in them. -/
structure Swap (places : Nat → Prop) (k : Nat) (w w' : List Char) : Prop where
  length_eq : w.length = w'.length
  left : Quiet w
  right : Quiet w'
  outside : ∀ o, places o → o < k ∨ k + w.length ≤ o

variable {places : Nat → Prop} {k : Nat} {w t t' cs : List Char} {x : Char}

namespace Quiet

theorem notMem (h : Quiet w) (hx : x ∈ scannedMarks) : x ∉ w := fun hm => h.unmarked x hm hx

theorem nesting_eq (h : Quiet w) (hx : x ∈ w) : nesting x = 0 := by
  refine nesting_of_notMem fun hm => h.unmarked x hx ?_
  revert hm
  simp only [scannedMarks, List.mem_cons, List.not_mem_nil, or_false]
  tauto

/-- A reader that stops at one of the marks goes past the text. -/
theorem forall_ne (h : Quiet w) (hx : x ∈ scannedMarks) : ∀ y ∈ w, (y != x) = true := by
  intro y hy
  rw [bne_iff_ne]
  rintro rfl
  exact h.notMem hx hy

/-- A literal as a whole holds no bracket and no separator. -/
theorem neutral (h : Quiet w) (hx : x ∈ [',', '=']) :
    ∀ y ∈ '"' :: (w ++ ['"']), nesting y = 0 ∧ y ≠ x := by
  have hquote : nesting '"' = 0 ∧ '"' ∉ [',', '='] := by decide
  have hmark : x ∈ scannedMarks := by
    revert hx
    simp only [scannedMarks, List.mem_cons, List.not_mem_nil, or_false]
    tauto
  intro y hy
  rcases List.mem_cons.1 hy with rfl | hy
  · exact ⟨hquote.1, fun he => hquote.2 (he ▸ hx)⟩
  rcases List.mem_append.1 hy with hy | hy
  · exact ⟨h.nesting_eq hy, fun he => h.notMem hmark (he ▸ hy)⟩
  · rw [List.mem_singleton.1 hy]
    exact ⟨hquote.1, fun he => hquote.2 (he ▸ hx)⟩

end Quiet

theorem Swap.lengths (k : Nat) (w w' : List Char) (h : Swap places k w w') : w.length = w'.length :=
  h.length_eq

/-- What holds of every character of a quiet text holds of both. -/
theorem Swap.both {p : Char → Bool} (hp : ∀ {w : List Char}, Quiet w → ∀ y ∈ w, p y = true) (k : Nat)
    (w w' : List Char) (h : Swap places k w w') : (∀ y ∈ w, p y = true) ∧ ∀ y ∈ w', p y = true :=
  ⟨hp h.left, hp h.right⟩

theorem Swap.symm {w' : List Char} (h : Swap places k w w') : Swap places k w' w :=
  ⟨h.length_eq.symm, h.right, h.left, h.length_eq ▸ h.outside⟩

theorem Exchange.symm (h : Exchange (Swap places) k t t') : Exchange (Swap places) k t' t := by
  induction h with
  | nil => exact .nil
  | same _ ih => exact .same ih
  | literal hw _ ih => exact .literal hw.symm (hw.length_eq ▸ ih)

/-- Where places do not matter, any offset will do. -/
theorem Exchange.free (h : Exchange (Swap places) k t t') (j : Nat) :
    Exchange (Swap fun _ => False) j t t' := by
  have hfree : Exchange (fun _ w w' => w.length = w'.length ∧ Quiet w ∧ Quiet w') k t t' :=
    h.mono fun _ _ _ hw => ⟨hw.length_eq, hw.left, hw.right⟩
  exact (hfree.shift j).mono fun _ _ _ hw => ⟨hw.1, hw.2.1, hw.2.2, fun _ hn => hn.elim⟩

/-- Exchanged texts are equal up to literals. -/
theorem Exchange.upToLiterals (h : Exchange (Swap places) k t t') : UpToLiterals t t' := by
  have htext : Exchange (fun _ w w' => literalText w = true ∧ literalText w' = true) k t t' :=
    h.mono fun _ _ _ hw => ⟨hw.left.isText, hw.right.isText⟩
  exact htext.shift 0

/-! ## Closing brackets -/

theorem closeFrom_plain : ∀ {w : List Char}, (∀ x ∈ w, nesting x = 0) → ∀ (owed cs : List Char),
    closeFrom owed (w ++ cs) = (closeFrom owed cs).map (· + w.length)
  | [], _, owed, cs => by simp
  | x :: w, h, owed, cs => by
    rw [List.cons_append, closeFrom_char (h x (List.mem_cons_self ..)),
      closeFrom_plain fun y hy => h y (List.mem_cons_of_mem _ hy), Option.map_map]
    rfl

/-- A literal is passed over on the way to a closing bracket. -/
theorem closeFrom_literal (h : Quiet w) (owed cs : List Char) :
    closeFrom owed ('"' :: (w ++ '"' :: cs)) = (closeFrom owed cs).map (· + (w.length + 2)) := by
  have hpass := closeFrom_plain (fun x hx => (h.neutral (x := ',') (by decide) x hx).1) owed cs
  simpa using hpass

theorem Exchange.closeFrom_eq (h : Exchange (Swap places) k t t') :
    ∀ owed : List Char, closeFrom owed t = closeFrom owed t' := by
  induction h with
  | nil => exact fun _ => rfl
  | same _ ih =>
    intro owed
    rw [closeFrom.eq_def, closeFrom.eq_def]
    simp only [ih]
  | literal hw _ ih =>
    intro owed
    rw [closeFrom_literal hw.left, closeFrom_literal hw.right, ih, hw.length_eq]

theorem getElem?_of_closeFrom : ∀ {cs owed : List Char} {n : Nat}, closeFrom owed cs = some n →
    ∃ x, cs[n]? = some x ∧ isCloser x = true
  | [], _, _, h => by simp [closeFrom] at h
  | x :: cs, owed, n, h => by
    have hstep : ∀ {owed' : List Char}, (closeFrom owed' cs).map (· + 1) = some n →
        ∃ y, (x :: cs)[n]? = some y ∧ isCloser y = true := by
      intro owed' h
      obtain ⟨m, hm, rfl⟩ := Option.map_eq_some_iff.1 h
      rw [List.getElem?_cons_succ]
      exact getElem?_of_closeFrom hm
    unfold closeFrom at h
    split at h
    · exact hstep h
    · split at h
      · rename_i hcloser
        split at h
        · cases h
        · split at h
          · cases h
          · split at h
            · cases h
              exact ⟨x, rfl, hcloser⟩
            · exact hstep h
      · exact hstep h

theorem getElem?_of_closing? {n : Nat} (h : closing? t = some n) :
    ∃ x, t[n]? = some x ∧ isCloser x = true := by
  cases t with
  | nil => cases h
  | cons y t =>
    obtain ⟨d, -, hd⟩ := Option.bind_eq_some_iff.1 h
    obtain ⟨m, hm, rfl⟩ := Option.map_eq_some_iff.1 hd
    rw [List.getElem?_cons_succ]
    exact getElem?_of_closeFrom hm

/-- Brackets close at the same place, and it lies in no exchanged text. -/
theorem Exchange.closing? (h : Exchange (Swap places) k t t') :
    closing? t = closing? t' ∧ ∀ n, closing? t = some n → Parts (Swap places) k t t' n := by
  constructor
  · cases h with
    | nil => rfl
    | same h => simp only [Source.closing?, h.closeFrom_eq]
    | literal => rfl
  · intro n hn
    obtain ⟨x, hx, hcloser⟩ := getElem?_of_closing? hn
    have hmark : x = ')' ∨ x = ']' ∨ x = '}' := by
      simpa [isCloser, or_assoc] using hcloser
    refine .of_getElem? Swap.lengths h hx ?_ fun _ _ _ hw _ _ => hw.left.notMem ?_
    · rintro rfl
      revert hcloser
      decide
    · rcases hmark with rfl | rfl | rfl <;> decide

/-! ## Segments -/

/-- Two segments at one offset with exchanged texts. -/
structure Segment.Alike (places : Nat → Prop) (s s' : Segment) : Prop where
  offset_eq : s.offset = s'.offset
  text : Exchange (Swap places) s.offset s.text s'.text

theorem splitFrom_eq_cons : ∀ (cs : List Char) (offset : Nat) (depth : Int),
    ∃ text ss, splitFrom offset depth cs = ⟨text, offset⟩ :: ss
  | [], _, _ => ⟨_, _, rfl⟩
  | c :: cs, offset, depth => by
    unfold splitFrom
    split
    · exact ⟨_, _, rfl⟩
    · split <;> exact ⟨_, _, rfl⟩

theorem splitFrom_plain {depth : Int} {text : List Char} {ss : List Segment} : ∀ {w : List Char},
    (∀ x ∈ w, nesting x = 0 ∧ x ≠ ',') → ∀ {offset : Nat},
      splitFrom (offset + w.length) depth cs = ⟨text, offset + w.length⟩ :: ss →
      splitFrom offset depth (w ++ cs) = ⟨w ++ text, offset⟩ :: ss
  | [], _, _, h => h
  | x :: w, hw, offset, h => by
    obtain ⟨hx, hcomma⟩ := hw x (List.mem_cons_self ..)
    rw [List.length_cons, Nat.add_comm w.length, ← Nat.add_assoc] at h
    have hrest := splitFrom_plain (fun y hy => hw y (List.mem_cons_of_mem _ hy)) h
    refine splitFrom_cons (s := ⟨_, offset + 1⟩) (fun he => absurd he hcomma) ?_
    rwa [hx, Int.add_zero]

/-- A literal stays in one segment. -/
theorem splitFrom_literal (h : Quiet w) {offset : Nat} {depth : Int} {text : List Char}
    {ss : List Segment}
    (hcs : splitFrom (offset + w.length + 2) depth cs = ⟨text, offset + w.length + 2⟩ :: ss) :
    splitFrom offset depth ('"' :: (w ++ '"' :: cs)) = ⟨'"' :: (w ++ '"' :: text), offset⟩ :: ss := by
  have hlength : ('"' :: (w ++ ['"'])).length = w.length + 2 := by simp
  rw [Nat.add_assoc, ← hlength] at hcs
  simpa using splitFrom_plain (h.neutral (by decide)) hcs

theorem Exchange.splitFrom (h : Exchange (Swap places) k t t') : ∀ depth : Int,
    List.Forall₂ (Segment.Alike places) (splitFrom k depth t) (splitFrom k depth t') := by
  induction h with
  | nil => exact fun _ => .cons ⟨rfl, .nil⟩ .nil
  | @same k x cs cs' h ih =>
    intro depth
    by_cases hcut : x = ',' ∧ depth = 0
    · obtain ⟨rfl, rfl⟩ := hcut
      exact .cons ⟨rfl, .nil⟩ (ih 0)
    · have hkeep : x = ',' → depth ≠ 0 := fun hx hd => hcut ⟨hx, hd⟩
      obtain ⟨text, ss, hs⟩ := splitFrom_eq_cons cs (k + 1) (depth + nesting x)
      obtain ⟨text', ss', hs'⟩ := splitFrom_eq_cons cs' (k + 1) (depth + nesting x)
      have hsegments := ih (depth + nesting x)
      rw [hs, hs', List.forall₂_cons] at hsegments
      rw [splitFrom_cons hkeep hs, splitFrom_cons hkeep hs']
      exact .cons ⟨rfl, .same hsegments.1.text⟩ hsegments.2
  | @literal k w w' cs cs' hw h ih =>
    intro depth
    obtain ⟨text, ss, hs⟩ := splitFrom_eq_cons cs (k + w.length + 2) depth
    obtain ⟨text', ss', hs'⟩ := splitFrom_eq_cons cs' (k + w.length + 2) depth
    have hsegments := ih depth
    rw [hs, hs', List.forall₂_cons] at hsegments
    rw [splitFrom_literal hw.left hs, splitFrom_literal hw.right (hw.length_eq ▸ hs')]
    exact .cons ⟨rfl, .literal hw hsegments.1.text⟩ hsegments.2

/-! ## Cutting at a separator -/

theorem cutFrom_plain {sep : Char} {depth : Int} : ∀ {w : List Char},
    (∀ x ∈ w, nesting x = 0 ∧ x ≠ sep) → ∀ cs : List Char,
    cutFrom sep depth (w ++ cs) = w ++ cutFrom sep depth cs
  | [], _, _ => rfl
  | x :: w, hw, cs => by
    obtain ⟨hx, hsep⟩ := hw x (List.mem_cons_self ..)
    rw [List.cons_append, cutFrom, if_neg (by simp [hsep]), hx, Int.add_zero,
      cutFrom_plain fun y hy => hw y (List.mem_cons_of_mem _ hy), List.cons_append]

/-- A text is cut at the same place: what is left in front is exchanged. -/
theorem Exchange.cutFrom (h : Exchange (Swap places) k t t') : ∀ depth : Int,
    Exchange (Swap places) k (cutFrom '=' depth t) (cutFrom '=' depth t') := by
  induction h with
  | nil => exact fun _ => .nil
  | same h ih =>
    intro depth
    rw [Source.cutFrom, Source.cutFrom]
    split
    · exact .nil
    · exact .same (ih _)
  | @literal k w w' cs cs' hw h ih =>
    intro depth
    have hpass : ∀ {v : List Char}, Quiet v → ∀ cs, Source.cutFrom '=' depth ('"' :: (v ++ '"' :: cs)) =
        '"' :: (v ++ '"' :: Source.cutFrom '=' depth cs) := fun hv cs => by
      simpa using cutFrom_plain (hv.neutral (by decide)) cs
    rw [hpass hw.left, hpass hw.right]
    exact .literal hw (ih depth)

theorem Exchange.cut (h : Exchange (Swap places) k t t') :
    Exchange (Swap places) k (cutTopLevel t '=') (cutTopLevel t' '=') := h.cutFrom 0

end RtlAtlas.Source
