/-
Marked-up texts that are never refused: plain stretches without brackets and backslashes, between tags
that look like names, each closed by its own name or by a bare slash, if it is closed at all. Whatever
pictures stand for names between colons, such a text is read to its end and shown.
-/
import Mathlib.Data.List.TakeWhile
import RtlAtlas.Console.Markup

namespace RtlAtlas

open Text

namespace Console

/-- A colour that is not written as three numbers is one, or is none at all. -/
theorem readColour_cases {cs : List Char} (h : inBrackets? "rgb(" cs = none) :
    readColour cs = .ok () ∨ readColour cs = .error .noStyle := by
  unfold readColour
  split
  · exact Or.inl rfl
  · rw [h]
    split
    · split
      · exact Or.inl rfl
      · exact Or.inr rfl
    · split
      · exact Or.inl rfl
      · exact Or.inr rfl
    · contradiction
    · exact Or.inr rfl

end Console

namespace Markup

open Console

/-! ## Tags -/

/-- A tag under which text is shown without fault: it goes by the name that is written, and is no style
with a broken number. -/
structure Fine (w : List Char) : Prop where
  /-- It starts with a small letter. -/
  starts : w.head?.any (fun c => 'a' ≤ c && c ≤ 'z') = true
  clean : '[' ∉ w ∧ ']' ∉ w ∧ '=' ∉ w
  trimmed : trim w = w
  name : tagName w = .ok (String.ofList w)
  shown : ∀ text, Style.parse w ≠ .error (.noNumber text)

/-- A word in small letters that is neither a look nor a part of the language of styles is fine. -/
theorem fine_of_word {w : List Char} (hwords : words w = [w]) (hsmall : lower w = w)
    (htrim : trim w = w) (hkeys : w ∉ ["on".toList, "not".toList, "link".toList, "none".toList])
    (hlook : look? w = none) (hmixed : inBrackets? "rgb(" w = none)
    (hstarts : w.head?.any (fun c => 'a' ≤ c && c ≤ 'z') = true)
    (hclean : '[' ∉ w ∧ ']' ∉ w ∧ '=' ∉ w) : Fine w := by
  have hparse : Style.parse w = .ok { colour := some (String.ofList w) } ∨
      Style.parse w = .error .noStyle := by
    simp only [List.mem_cons, List.not_mem_nil, or_false, not_or] at hkeys
    obtain ⟨hon, hnot, hlink, hnone⟩ := hkeys
    unfold Style.parse
    rw [htrim, hwords, if_neg (by simpa using hnone)]
    unfold Style.addWords
    simp only [hsmall, beq_iff_eq, hon, hnot, hlink, if_false, hlook]
    unfold Console.colour
    simp only [hsmall]
    rcases readColour_cases hmixed with hc | hc <;> rw [hc]
    · exact Or.inl rfl
    · exact Or.inr rfl
  refine ⟨hstarts, hclean, htrim, ?_, fun text he => ?_⟩
  · unfold tagName styleName
    rcases hparse with hp | hp <;> rw [hp]
    · rfl
    · simp only [htrim, hsmall]
  · rcases hparse with hp | hp <;> rw [hp] at he <;> cases he

theorem fine_green : Fine "green".toList := by
  refine fine_of_word ?_ ?_ ?_ ?_ ?_ ?_ ?_ ?_ <;> decide

theorem fine_cyan : Fine "cyan".toList := by
  refine fine_of_word ?_ ?_ ?_ ?_ ?_ ?_ ?_ ?_ <;> decide

theorem fine_progress : Fine "progress.description".toList := by
  refine fine_of_word ?_ ?_ ?_ ?_ ?_ ?_ ?_ ?_ <;> decide

theorem fine_dim : Fine "dim".toList := by
  refine ⟨by decide, by decide, by decide, by rfl, fun text h => ?_⟩
  rw [show Style.parse "dim".toList = .ok { looks := [("dim", true)] } by rfl] at h
  cases h

/-- The first letter of a tag is small. -/
theorem Fine.exists_cons {w : List Char} (h : Fine w) :
    ∃ c v, w = c :: v ∧ 'a' ≤ c ∧ c ≤ 'z' := by
  have hstarts := h.starts
  cases w with
  | nil => cases hstarts
  | cons c v => exact ⟨c, v, rfl, by simpa using hstarts⟩

theorem Fine.ne_cons {w v : List Char} (h : Fine w) {c : Char} (hc : ¬ ('a' ≤ c ∧ c ≤ 'z')) :
    w ≠ c :: v := by
  obtain ⟨d, u, rfl, hd⟩ := h.exists_cons
  rintro ⟨⟩
  exact hc hd

/-! ## Texts -/

/-- Characters that are shown as they stand, whatever comes before and after them. -/
def Bare (cs : List Char) : Prop := '[' ∉ cs ∧ '\\' ∉ cs

instance : DecidablePred Bare := fun cs => inferInstanceAs (Decidable ('[' ∉ cs ∧ '\\' ∉ cs))

theorem Bare.append {u v : List Char} (hu : Bare u) (hv : Bare v) : Bare (u ++ v) :=
  ⟨fun h => (List.mem_append.1 h).elim hu.1 hv.1, fun h => (List.mem_append.1 h).elim hu.2 hv.2⟩

/-- The rest of a marked-up text after some tags, the innermost first, have been opened. -/
inductive Marked : List (List Char) → List Char → Prop
  | done {opened : List (List Char)} : Marked opened []
  | text {opened : List (List Char)} {u cs : List Char} : Bare u → Marked opened cs →
    Marked opened (u ++ cs)
  | opening {opened : List (List Char)} {w cs : List Char} : Fine w → Marked (w :: opened) cs →
    Marked opened ('[' :: w ++ ']' :: cs)
  | closing {opened : List (List Char)} {w cs : List Char} : Marked opened cs →
    Marked (w :: opened) ('[' :: '/' :: ']' :: cs)
  | closingName {opened : List (List Char)} {w cs : List Char} : Marked opened cs →
    Marked (w :: opened) ('[' :: '/' :: w ++ ']' :: cs)

theorem Bare.marked {opened : List (List Char)} {cs : List Char} (h : Bare cs) : Marked opened cs :=
  List.append_nil cs ▸ .text h .done

/-! ## Pieces -/

theorem toClosing?_append {w : List Char} (hopen : '[' ∉ w) (hclose : ']' ∉ w) (cs : List Char) :
    toClosing? (w ++ ']' :: cs) = some (w, cs) := by
  induction w with
  | nil => rfl
  | cons c w ih =>
    rw [List.mem_cons, not_or] at hopen hclose
    rw [List.cons_append, toClosing?, ih hopen.2 hclose.2]
    simp [Ne.symm hopen.1, Ne.symm hclose.1]

/-- A tag ends the text before it. -/
theorem piecesFrom_tag {c : Char} {w : List Char} (hc : startsTag c = true)
    (hopen : '[' ∉ w) (hclose : ']' ∉ w) (fuel : Nat) (before cs : List Char) :
    piecesFrom (fuel + 1) before ('[' :: c :: w ++ ']' :: cs) =
      textPiece before.reverse ++ .tag (c :: w) :: piecesFrom fuel [] cs := by
  rw [List.cons_append, piecesFrom]
  have htag : tag? ('[' :: (c :: w ++ ']' :: cs)) = some (c :: w, cs) := by
    rw [List.cons_append, tag?, if_pos hc, toClosing?_append hopen hclose]
    rfl
  simp only [List.takeWhile_cons, show ('[' == '\\') = false by decide, Bool.false_eq_true, if_false,
    List.length_nil, List.drop_zero, htag]
  rw [List.append_assoc]
  rfl

/-- Bare text is taken up character by character. -/
theorem piecesFrom_bare {u : List Char} (h : Bare u) (fuel : Nat) (before cs : List Char) :
    piecesFrom (u.length + fuel) before (u ++ cs) = piecesFrom fuel (u.reverse ++ before) cs := by
  induction u generalizing before with
  | nil => simp
  | cons c u ih =>
    obtain ⟨hopen, hslash⟩ := h
    rw [List.mem_cons, not_or] at hopen hslash
    have htag : tag? (c :: (u ++ cs)) = none := by
      unfold tag?
      split
      · rename_i heq
        exact absurd (List.cons.inj heq).1.symm hopen.1
      · rfl
    rw [List.length_cons, Nat.add_right_comm, List.cons_append, piecesFrom]
    simp only [List.takeWhile_cons, beq_eq_false_iff_ne.2 (Ne.symm hslash.1), Bool.false_eq_true, if_false,
      List.length_nil, List.drop_zero, htag]
    rw [ih ⟨hopen.2, hslash.2⟩]
    simp

/-! ## Reading -/

/-- A reading with given tags open and nothing that must not be shown. -/
structure Reading.Keeps (r : Reading) (opened : List (List Char)) : Prop where
  names : r.opened.map (·.name) = opened.map String.ofList
  bare : ∀ t ∈ r.opened, t.parameters = none
  fine : ∀ w ∈ opened, Fine w
  bad : r.bad = []

variable {replace : List Char → List Char} {r : Reading} {opened : List (List Char)} {w cs : List Char}

theorem keeps_start : Reading.Keeps {} [] := ⟨rfl, by simp, by simp, rfl⟩

theorem Reading.Keeps.show (h : r.Keeps opened) (cs : List Char) : (r.show cs).Keeps opened :=
  ⟨h.names, h.bare, h.fine, h.bad⟩

/-- Opening a fine tag. -/
theorem Reading.Keeps.open (h : r.Keeps opened) (hw : Fine w) :
    ∃ r', r.tag w = .ok r' ∧ r'.Keeps (w :: opened) := by
  have hplain : ∀ c ∈ w, (c != '=') = true := fun c hc =>
    bne_iff_ne.2 fun he => hw.clean.2.2 (he ▸ hc)
  have hname : bareName w = w := List.takeWhile_eq_self_iff.2 hplain
  have hparameters : parametersOf w = none := by
    unfold parametersOf
    rw [List.dropWhile_eq_nil_iff.2 hplain]
  refine ⟨{ r with opened := ⟨String.ofList w, none, r.length⟩ :: r.opened }, ?_, ?_⟩
  · unfold Reading.tag
    rw [hname]
    split
    · exact absurd rfl (hw.ne_cons (by decide))
    · rw [hw.name, hparameters]
  · refine ⟨congrArg (String.ofList w :: ·) h.names, fun t ht => ?_, fun v hv => ?_, h.bad⟩
    · rcases List.mem_cons.1 ht with rfl | ht
      · rfl
      · exact h.bare t ht
    · rcases List.mem_cons.1 hv with rfl | hv
      · exact hw
      · exact h.fine v hv

/-- The style of an open tag can be shown. -/
theorem Reading.style_eq {t : OpenTag} (hw : Fine w) (hname : t.name = String.ofList w)
    (hp : t.parameters = none) (r : Reading) : r.style t = r := by
  have hstyle : t.style = w := by
    unfold OpenTag.style
    rw [hp, hname, String.toList_ofList]
  unfold Reading.style
  rw [hstyle]
  split
  · rename_i text he
    exact absurd he (hw.shown text)
  · rfl

/-- The innermost tag, and the ones around it. -/
theorem Reading.Keeps.cases (h : r.Keeps (w :: opened)) :
    ∃ t ts, r.opened = t :: ts ∧ t.name = String.ofList w ∧
      r.close t ts = .ok { r with opened := ts } ∧ Reading.Keeps { r with opened := ts } opened := by
  cases ho : r.opened with
  | nil =>
    have hn := h.names
    rw [ho] at hn
    cases hn
  | cons t ts =>
    have hn := h.names
    rw [ho, List.map_cons, List.map_cons] at hn
    obtain ⟨hname, hrest⟩ := List.cons.inj hn
    have hw := h.fine w List.mem_cons_self
    have hbare := h.bare
    rw [ho] at hbare
    refine ⟨t, ts, rfl, hname, ?_, hrest, fun u hu => hbare u (List.mem_cons_of_mem _ hu),
      fun v hv => h.fine v (List.mem_cons_of_mem _ hv), h.bad⟩
    have hclick : t.isAction = false := by
      unfold OpenTag.isAction
      rw [hname, String.toList_ofList, decide_eq_false_iff_not]
      obtain ⟨c, v, rfl, hc⟩ := hw.exists_cons
      rintro ⟨⟩
      exact absurd hc (by decide)
    unfold Reading.close
    rw [if_neg (by rw [hclick]; decide), Reading.style_eq hw hname (hbare t List.mem_cons_self)]

/-- Closing the innermost tag by a slash. -/
theorem Reading.Keeps.close (h : r.Keeps (w :: opened)) :
    ∃ r', r.tag ['/'] = .ok r' ∧ r'.Keeps opened := by
  obtain ⟨t, ts, ho, -, hclose, hkeeps⟩ := h.cases
  refine ⟨_, ?_, hkeeps⟩
  rw [← hclose]
  unfold Reading.tag
  rw [show bareName ['/'] = ['/'] by decide]
  simp only [show (trim []).isEmpty = true by decide, if_true, ho]

/-- Closing the innermost tag by its name. -/
theorem Reading.Keeps.closeName (h : r.Keeps (w :: opened)) :
    ∃ r', r.tag ('/' :: w) = .ok r' ∧ r'.Keeps opened := by
  obtain ⟨t, ts, ho, hname, hclose, hkeeps⟩ := h.cases
  have hw := h.fine w List.mem_cons_self
  have hbare : bareName ('/' :: w) = '/' :: w := by
    refine List.takeWhile_eq_self_iff.2 fun c hc => ?_
    rcases List.mem_cons.1 hc with rfl | hc
    · decide
    · exact bne_iff_ne.2 fun he => hw.clean.2.2 (he ▸ hc)
  have hsome : w.isEmpty = false := by
    obtain ⟨c, v, rfl, -⟩ := hw.exists_cons
    rfl
  refine ⟨_, ?_, hkeeps⟩
  rw [← hclose]
  unfold Reading.tag
  rw [hbare]
  simp only [hw.trimmed, hsome, Bool.false_eq_true, if_false, hw.name, ho]
  rw [List.find?_cons_of_pos (by simpa using hname), List.eraseP_cons_of_pos (by simpa using hname)]

theorem foldlM_textPiece (h : r.Keeps opened) (replace : List Char → List Char) (cs : List Char)
    (ps : List Piece) : ∃ r', (textPiece cs ++ ps).foldlM (Reading.piece replace) r =
      ps.foldlM (Reading.piece replace) r' ∧ r'.Keeps opened := by
  unfold textPiece
  split
  · exact ⟨r, rfl, h⟩
  · exact ⟨_, rfl, h.show _⟩

/-- A tag that can be read, after some text. -/
theorem foldlM_tag {c : Char} {rest : List (List Char)} (h : r.Keeps opened) (hc : startsTag c = true)
    (hopen : '[' ∉ w) (hclose : ']' ∉ w)
    (htag : ∀ r : Reading, r.Keeps opened → ∃ r', r.tag (c :: w) = .ok r' ∧ r'.Keeps rest)
    (replace : List Char → List Char) (fuel : Nat) (before cs : List Char) :
    ∃ r', (piecesFrom (fuel + 1) before ('[' :: c :: w ++ ']' :: cs)).foldlM (Reading.piece replace) r =
      (piecesFrom fuel [] cs).foldlM (Reading.piece replace) r' ∧ r'.Keeps rest := by
  obtain ⟨r₁, hfold, hr₁⟩ := foldlM_textPiece h replace before.reverse
    (.tag (c :: w) :: piecesFrom fuel [] cs)
  obtain ⟨r₂, hr, hr₂⟩ := htag r₁ hr₁
  refine ⟨r₂, ?_, hr₂⟩
  rw [piecesFrom_tag hc hopen hclose, hfold, List.foldlM_cons, Reading.piece, hr]
  rfl

/-- A marked-up text is read to its end. -/
theorem Marked.foldlM (h : Marked opened cs) (replace : List Char → List Char) :
    ∀ {r : Reading} {fuel : Nat} (before : List Char), r.Keeps opened → cs.length ≤ fuel →
      ∃ r' rest, (piecesFrom fuel before cs).foldlM (Reading.piece replace) r = .ok r' ∧
        r'.Keeps rest := by
  induction h with
  | done =>
    intro r fuel before hr _
    -- what has been read since the last tag is one more stretch of text
    have hpieces : piecesFrom fuel before [] = textPiece before.reverse ++ [] := by
      cases fuel <;> rw [piecesFrom, List.append_nil]
      rw [List.append_nil]
    obtain ⟨r', hfold, hr'⟩ := foldlM_textPiece hr replace before.reverse []
    exact ⟨r', _, by rw [hpieces, hfold]; rfl, hr'⟩
  | @text opened u cs hu _ ih =>
    intro r fuel before hr hfuel
    rw [List.length_append] at hfuel
    obtain ⟨more, rfl⟩ := Nat.exists_eq_add_of_le (Nat.le_of_add_right_le hfuel)
    -- characters outside tags wait in `before` until a tag or the end comes
    rw [piecesFrom_bare hu]
    exact ih _ hr (by omega)
  | @opening opened w cs hw _ ih =>
    intro r fuel before hr hfuel
    obtain ⟨c, v, rfl, hc⟩ := hw.exists_cons
    -- a tag takes one unit of fuel and more than one character
    cases fuel with
    | zero => simp at hfuel
    | succ fuel =>
      have hstarts : startsTag c = true := by
        unfold startsTag
        simp [hc]
      have hopen : '[' ∉ v := fun h => hw.clean.1 (List.mem_cons_of_mem _ h)
      have hclose : ']' ∉ v := fun h => hw.clean.2.1 (List.mem_cons_of_mem _ h)
      obtain ⟨r', hfold, hr'⟩ := foldlM_tag hr hstarts hopen hclose (fun r h => h.open hw) replace fuel
        before cs
      have hle : cs.length ≤ fuel := by
        rw [List.length_append, List.length_cons, List.length_cons, List.length_cons] at hfuel
        omega
      rw [hfold]
      exact ih [] hr' hle
  | @closing opened w cs _ ih =>
    intro r fuel before hr hfuel
    cases fuel with
    | zero => simp at hfuel
    | succ fuel =>
      obtain ⟨r', hfold, hr'⟩ := foldlM_tag hr (c := '/') (w := []) (by decide) (by simp) (by simp)
        (fun r h => h.close) replace fuel before cs
      have hle : cs.length ≤ fuel := by
        rw [List.length_cons, List.length_cons, List.length_cons] at hfuel
        omega
      rw [show '[' :: '/' :: ']' :: cs = '[' :: '/' :: [] ++ ']' :: cs from rfl, hfold]
      exact ih [] hr' hle
  | @closingName opened w cs _ ih =>
    intro r fuel before hr hfuel
    cases fuel with
    | zero => simp at hfuel
    | succ fuel =>
      -- the name is the one that was opened last, so what is known of opened names holds of it
      have hw := hr.fine w List.mem_cons_self
      obtain ⟨r', hfold, hr'⟩ := foldlM_tag hr (c := '/') (by decide) hw.clean.1 hw.clean.2.1
        (fun r h => h.closeName) replace fuel before cs
      have hle : cs.length ≤ fuel := by
        rw [List.length_append, List.length_cons, List.length_cons, List.length_cons] at hfuel
        omega
      rw [hfold]
      exact ih [] hr' hle

/-- A marked-up text is read, and holds nothing that must not be shown. -/
theorem Marked.read (h : Marked [] cs) (replace : List Char → List Char) :
    ∃ r, Markup.read replace cs = .ok r ∧ r.bad = [] := by
  obtain ⟨r, rest, hfold, hr⟩ := h.foldlM replace [] keeps_start (Nat.le_refl _)
  -- the tags that are still open go on to the end
  have hstyles : ∀ {ts : List OpenTag} {ws : List (List Char)}, ts.map (·.name) = ws.map String.ofList →
      (∀ t ∈ ts, t.parameters = none) → (∀ w ∈ ws, Fine w) →
      ts.foldl Reading.style { r with opened := [] } = { r with opened := [] } := by
    intro ts
    induction ts with
    | nil => intros; rfl
    | cons t ts ih =>
      intro ws hn hp hf
      cases ws with
      | nil => cases hn
      | cons w ws =>
        obtain ⟨hname, hrest⟩ := List.cons.inj hn
        rw [List.foldl_cons, Reading.style_eq (hf w List.mem_cons_self) hname (hp t List.mem_cons_self)]
        exact ih hrest (fun u hu => hp u (List.mem_cons_of_mem _ hu))
          fun v hv => hf v (List.mem_cons_of_mem _ hv)
  refine ⟨{ r with opened := [] }, ?_, hr.bad⟩
  unfold Markup.read pieces
  rw [hfold]
  exact congrArg Except.ok (hstyles hr.names hr.bare hr.fine)

/-- A marked-up text is shown. -/
theorem Marked.plain (h : Marked [] cs) (replace : List Char → List Char) :
    ∃ text, Markup.plain replace cs = .ok text := by
  obtain ⟨r, hread, hbad⟩ := h.read replace
  refine ⟨Console.layOut r.shown.reverse, ?_⟩
  unfold Markup.plain
  simp only [hread, hbad, List.find?_nil]

end Markup

end RtlAtlas
