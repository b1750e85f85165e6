/-
Where the literals of a text stand. Every character is read inside of something: code, a literal or a
comment. If two texts differ in plain characters of literals only, their characters are read inside of
the same; so the literals in which they differ stand at the same places, and without their comments
the texts are equal but for those literals.
-/
import RtlAtlas.Proofs.Source.Comment
import RtlAtlas.Proofs.Source.Literal.Bracket

namespace RtlAtlas.Source

variable {places : Nat → Prop} {mode : Mode} {text text' w w' v cs : List Char} {i j k n : Nat}

/-! ## What characters are read inside of -/

/-- What each character is read inside of, when the reader begins inside of `mode`. The marks around a
comment are read inside of the comment, the opening quote of a literal is read inside of code. -/
def modesFrom : Mode → List Char → List Mode
  | _, [] => []
  | .code, '/' :: '/' :: cs => .lineComment :: .lineComment :: modesFrom .lineComment cs
  | .code, '/' :: '*' :: cs => .blockComment :: .blockComment :: modesFrom .blockComment cs
  | .code, c :: cs => .code :: modesFrom (if c == '"' then .literal else .code) cs
  | .literal, '\\' :: _ :: cs => .literal :: .literal :: modesFrom .literal cs
  | .literal, c :: cs =>
    .literal :: modesFrom (if c == '"' || c == '\n' then .code else .literal) cs
  | .lineComment, c :: cs =>
    .lineComment :: modesFrom (if c == '\n' then .code else .lineComment) cs
  | .blockComment, '*' :: '/' :: cs => .blockComment :: .blockComment :: modesFrom .code cs
  | .blockComment, _ :: cs => .blockComment :: modesFrom .blockComment cs

/-- What each character of a text is read inside of. -/
def modes (text : List Char) : List Mode := modesFrom .code text

/-- How a character shows in the text without comments. -/
def Mode.shown : Mode → Char → Char
  | .lineComment, c | .blockComment, c => blanked c
  | _, c => c

@[simp] theorem length_modesFrom (mode : Mode) (text : List Char) :
    (modesFrom mode text).length = text.length := by
  fun_induction modesFrom mode text <;> simp_all

/-- Comments are what is read inside of a comment. -/
theorem stripFrom_eq (mode : Mode) (text : List Char) :
    stripFrom mode text = List.zipWith Mode.shown (modesFrom mode text) text := by
  fun_induction stripFrom mode text <;> simp_all [modesFrom, Mode.shown, blanked]

theorem stripComments_eq (text : List Char) :
    stripComments text = List.zipWith Mode.shown (modes text) text := stripFrom_eq .code text

theorem zipWith_shown_literal : ∀ w : List Char,
    List.zipWith Mode.shown (List.replicate w.length .literal) w = w
  | [] => rfl
  | x :: w => congrArg (x :: ·) (zipWith_shown_literal w)

/-- Code and comments do not begin inside of a literal. -/
theorem eq_literal_of_head? (h : (modesFrom mode text).head? = some .literal) : mode = .literal := by
  unfold modesFrom at h
  split at h <;> first | rfl | cases h

/-- A reader can start anew at a character that is code. -/
theorem drop_modesFrom (h : (modesFrom mode text)[k]? = some .code) :
    (modesFrom mode text).drop k = modesFrom .code (text.drop k) := by
  fun_induction modesFrom mode text generalizing k with
  | case1 => cases h
  | case2 _ ih | case3 _ ih | case5 _ _ ih | case8 _ ih =>
    -- two characters at once, neither of them code
    rcases k with _ | _ | k
    · cases h
    · cases h
    · exact ih h
  | case4 c cs hline hblock ih =>
    cases k with
    | zero => rw [List.drop_zero, List.drop_zero, modesFrom] <;> assumption
    | succ k => exact ih h
  | case6 _ _ _ ih | case7 _ _ ih | case9 _ _ _ ih =>
    cases k with
    | zero => cases h
    | succ k => exact ih h

/-- The text of a literal is read inside of the literal, up to the quote that closes it. -/
theorem modesFrom_literal : ∀ {w : List Char}, literalText w = true → ∀ cs : List Char,
    modesFrom .literal (w ++ '"' :: cs) =
      List.replicate (w.length + 1) .literal ++ modesFrom .code cs
  | [], _, _ => rfl
  | x :: w, hw, cs => by
    by_cases hx : x = '\\'
    · subst hx
      cases w with
      | nil => cases hw
      | cons c w =>
        have hrest : literalText w = true := hw
        rw [List.cons_append, List.cons_append, modesFrom, modesFrom_literal hrest cs]
        rfl
    · rw [literalText_cons hx, Bool.and_eq_true, Bool.and_eq_true, bne_iff_ne, bne_iff_ne] at hw
      obtain ⟨⟨hquote, hfeed⟩, hw⟩ := hw
      rw [List.cons_append, modesFrom]
      · simp [hquote, hfeed, modesFrom_literal hw cs, List.replicate_succ]
      · exact fun _ _ hback => absurd hback hx

/-! ## Literals of a text -/

/-- A literal that stands in a text at an offset, with the given text between its quotes. -/
structure LiteralAt (text : List Char) (j : Nat) (w : List Char) : Prop where
  code : (modes text)[j]? = some .code
  isText : literalText w = true
  here : '"' :: (w ++ ['"']) <+: text.drop j

namespace LiteralAt

theorem drop_eq (h : LiteralAt text j w) :
    text.drop j = '"' :: (w ++ '"' :: text.drop (j + w.length + 2)) := by
  obtain ⟨cs, hcs⟩ := h.here
  have hback := congrArg (List.drop (w.length + 2)) hcs
  rw [List.drop_drop, List.drop_left' (by simp), ← Nat.add_assoc] at hback
  rw [← hback, ← hcs]
  simp

theorem drop_modes (h : LiteralAt text j w) :
    (modes text).drop j =
      .code :: (List.replicate (w.length + 1) .literal ++
        modesFrom .code (text.drop (j + w.length + 2))) := by
  have hdrop : (modes text).drop j = modesFrom .code (text.drop j) := drop_modesFrom h.code
  rw [hdrop, h.drop_eq, modesFrom]
  · exact congrArg _ (modesFrom_literal h.isText _)
  · simp
  · simp

theorem getElem?_modes (h : LiteralAt text j w) (n : Nat) : (modes text)[j + 1 + n]? =
    (List.replicate (w.length + 1) .literal ++
      modesFrom .code (text.drop (j + w.length + 2)))[n]? := by
  have hn : ((modes text).drop j)[n + 1]? = (modes text)[j + (n + 1)]? := List.getElem?_drop
  rw [h.drop_modes, List.getElem?_cons_succ] at hn
  rw [hn, Nat.add_assoc, Nat.add_comm 1]

theorem mode_eq (h : LiteralAt text j w) (hlow : j < n) (hhigh : n ≤ j + w.length + 1) :
    (modes text)[n]? = some .literal := by
  obtain ⟨m, rfl⟩ := Nat.exists_eq_add_of_lt hlow
  rw [Nat.add_right_comm, h.getElem?_modes, List.getElem?_append_left (by simp; omega),
    List.getElem?_replicate_of_lt (by omega)]

theorem mode_ne (h : LiteralAt text j w) : (modes text)[j + w.length + 2]? ≠ some .literal := by
  rw [show j + w.length + 2 = j + 1 + (w.length + 1) by omega, h.getElem?_modes,
    List.getElem?_append_right (by simp), List.length_replicate, Nat.sub_self, ← List.head?_eq_getElem?]
  exact fun hmode => absurd (eq_literal_of_head? hmode) (by decide)

/-- A literal stays as it is when comments are blanked. -/
theorem drop_stripComments (h : LiteralAt text j w) :
    (stripComments text).drop j =
      '"' :: (w ++ '"' :: (stripComments text).drop (j + w.length + 2)) := by
  have hlater := congrArg (List.drop (w.length + 2)) h.drop_modes
  rw [List.drop_drop, List.drop_succ_cons, List.drop_left' (by simp), ← Nat.add_assoc] at hlater
  rw [stripComments_eq, List.drop_zipWith, List.drop_zipWith, h.drop_modes, hlater, h.drop_eq,
    List.replicate_succ', List.append_assoc, List.zipWith_cons_cons, List.zipWith_append (by simp),
    zipWith_shown_literal]
  simp [Mode.shown]

/-- No literal begins within a literal. -/
theorem outside (h : LiteralAt text j w) (h' : LiteralAt text' k w') (hmodes : modes text = modes text') :
    k ≤ j ∨ j + w.length + 1 < k := by
  by_contra hin
  rw [not_or, Nat.not_le, Nat.not_lt] at hin
  have hmode := h.mode_eq hin.1 hin.2
  rw [hmodes, h'.code] at hmode
  cases hmode

theorem length_le (h : LiteralAt text j w) (h' : LiteralAt text' j w') (hmodes : modes text = modes text') :
    w'.length ≤ w.length := by
  by_contra hlt
  refine h.mode_ne ?_
  rw [hmodes, h'.mode_eq (by omega) (by omega)]

/-- Literals do not overlap: those that hold the same place are the same. -/
theorem unique (h : LiteralAt text j w) (h' : LiteralAt text' k w') (hmodes : modes text = modes text')
    (hi : j < i ∧ i ≤ j + w.length) (hi' : k < i ∧ i ≤ k + w'.length) :
    j = k ∧ w.length = w'.length := by
  obtain rfl : j = k := by
    have := h.outside h' hmodes
    have := h'.outside h hmodes.symm
    omega
  exact ⟨rfl, Nat.le_antisymm (h'.length_le h hmodes.symm) (h.length_le h' hmodes)⟩

end LiteralAt

/-! ## Texts that differ in literals -/

/-- A character that neither ends a literal nor begins an escape. -/
def Plain (c : Char) : Prop := c ∉ ['"', '\\', '\n']

instance : DecidablePred Plain := fun c => inferInstanceAs (Decidable (c ∉ ['"', '\\', '\n']))

/-- Two texts of one length that differ only in plain characters that are read inside of literals, in
both texts. -/
structure DifferInLiterals (text text' : List Char) : Prop where
  length_eq : text.length = text'.length
  inLiteral : ∀ i : Nat, text[i]? ≠ text'[i]? →
    (modes text)[i]? = some .literal ∧ (modes text')[i]? = some .literal
  plain : ∀ i : Nat, text[i]? ≠ text'[i]? → (∀ c ∈ text[i]?, Plain c) ∧ ∀ c ∈ text'[i]?, Plain c

theorem lt_of_getElem?_ne {i : Nat} (hlength : text.length = text'.length) (h : text[i]? ≠ text'[i]?) :
    i < text.length := by
  by_contra hge
  rw [Nat.not_lt] at hge
  exact h <| by rw [List.getElem?_eq_none hge, List.getElem?_eq_none (hlength ▸ hge)]

instance (text text' : List Char) : Decidable (DifferInLiterals text text') :=
  decidable_of_iff (text.length = text'.length ∧ ∀ i < text.length, text[i]? ≠ text'[i]? →
      ((modes text)[i]? = some .literal ∧ (modes text')[i]? = some .literal) ∧
        text[i]?.all (fun c => Plain c) = true ∧ text'[i]?.all (fun c => Plain c) = true)
    ⟨fun h => ⟨h.1, fun i hi => (h.2 i (lt_of_getElem?_ne h.1 hi) hi).1,
        fun i hi => by simpa [Option.all_eq_true] using (h.2 i (lt_of_getElem?_ne h.1 hi) hi).2⟩,
      fun h => ⟨h.length_eq, fun i _ hi => ⟨h.inLiteral i hi, by simpa [Option.all_eq_true] using h.plain i hi⟩⟩⟩

/-- Two texts that are equal character by character, but for plain characters with the mode of a
literal. -/
inductive AlikeBy : List Mode → List Char → List Char → Prop
  | nil : AlikeBy [] [] []
  | same {m : Mode} {ms : List Mode} {c : Char} {cs cs' : List Char} : AlikeBy ms cs cs' →
      AlikeBy (m :: ms) (c :: cs) (c :: cs')
  | plain {ms : List Mode} {c c' : Char} {cs cs' : List Char} : Plain c → Plain c' →
      AlikeBy ms cs cs' → AlikeBy (.literal :: ms) (c :: cs) (c' :: cs')

theorem alikeBy : ∀ {ms : List Mode} {text text' : List Char}, ms.length = text.length →
    text.length = text'.length →
    (∀ i : Nat, text[i]? ≠ text'[i]? → ms[i]? = some .literal ∧ (∀ c ∈ text[i]?, Plain c) ∧
      ∀ c ∈ text'[i]?, Plain c) → AlikeBy ms text text'
  | [], [], [], _, _, _ => .nil
  | m :: ms, c :: cs, c' :: cs', hms, hlength, h => by
    have hrest : AlikeBy ms cs cs' :=
      alikeBy (Nat.succ.inj hms) (Nat.succ.inj hlength) fun i => h (i + 1)
    by_cases hc : c = c'
    · exact hc ▸ .same hrest
    · obtain ⟨hm, hplain, hplain'⟩ := h 0 fun he => hc (Option.some.inj he)
      obtain rfl := Option.some.inj hm
      exact .plain (hplain c rfl) (hplain' c' rfl) hrest

/-- Two texts begin with the same character, unless their reader begins inside of a literal. -/
theorem AlikeBy.head?_eq (h : AlikeBy (modesFrom mode text) text text') (hmode : mode ≠ .literal) :
    text.head? = text'.head? := by
  generalize hms : modesFrom mode text = ms at h
  cases h with
  | nil => rfl
  | same => rfl
  | plain => exact absurd (eq_literal_of_head? (congrArg List.head? hms)) hmode

/-- Plain characters of literals do not matter for what characters are read inside of. -/
theorem modesFrom_eq (h : AlikeBy (modesFrom mode text) text text') :
    modesFrom mode text = modesFrom mode text' := by
  fun_induction modesFrom mode text generalizing text' with
  | case1 =>
    cases h
    rfl
  | case2 _ ih | case3 _ ih | case8 _ ih =>
    -- the marks around a comment
    obtain _ | ⟨_ | h⟩ := h
    rw [modesFrom, ih h]
  | case4 c cs hline hblock ih =>
    obtain _ | h := h
    -- behind a slash both texts have the same character, so neither begins a comment
    rw [modesFrom, ih h]
    · rintro rest rfl rfl
      obtain ⟨cs, rfl⟩ := List.head?_eq_some_iff.1 (h.head?_eq (by decide))
      exact hline _ rfl rfl
    · rintro rest rfl rfl
      obtain ⟨cs, rfl⟩ := List.head?_eq_some_iff.1 (h.head?_eq (by decide))
      exact hblock _ rfl rfl
  | case5 c cs ih =>
    obtain _ | ⟨h⟩ | ⟨hback, -, -⟩ := h
    · obtain _ | h | ⟨-, -, h⟩ := h
      · rw [modesFrom, ih h]
      · rw [modesFrom, ih h]
    · exact absurd (List.mem_cons_of_mem _ List.mem_cons_self) hback
  | case6 c cs hescape ih =>
    obtain _ | h | ⟨hc, hc', h⟩ := h
    · rw [modesFrom, ih h]
      rintro x rest rfl rfl
      generalize modesFrom _ cs = ms at h
      cases h <;> exact hescape _ _ rfl rfl
    · -- neither of two plain characters closes the literal or begins an escape
      have hplain : ∀ {c : Char}, Plain c → (c == '"' || c == '\n') = false ∧ c ≠ '\\' := by
        simp +contextual [Plain]
      rw [(hplain hc).1] at ih h
      rw [modesFrom, (hplain hc).1, (hplain hc').1, ih h]
      exact fun _ _ hback => absurd hback (hplain hc').2
  | case7 c cs ih =>
    obtain _ | h := h
    rw [modesFrom, ih h]
  | case9 c cs hend ih =>
    obtain _ | h := h
    rw [modesFrom, ih h]
    rintro rest rfl rfl
    obtain ⟨cs, rfl⟩ := List.head?_eq_some_iff.1 (h.head?_eq (by decide))
    exact hend _ rfl rfl

theorem DifferInLiterals.alike (h : DifferInLiterals text text') : AlikeBy (modes text) text text' :=
  alikeBy (length_modesFrom _ _) h.length_eq fun i hi => ⟨(h.inLiteral i hi).1, h.plain i hi⟩

theorem DifferInLiterals.modes_eq (h : DifferInLiterals text text') : modes text = modes text' :=
  modesFrom_eq h.alike

/-- Line feeds stand at the same places. -/
theorem DifferInLiterals.count_take_eq (h : DifferInLiterals text text') (n : Nat) :
    (text.take n).count '\n' = (text'.take n).count '\n' := by
  have halike := h.alike
  clear h
  generalize modes text = ms at halike
  induction halike generalizing n with
  | nil => rfl
  | @same m ms c cs cs' h ih =>
    cases n with
    | zero => rfl
    | succ n => rw [List.take_succ_cons, List.take_succ_cons, List.count_cons, List.count_cons, ih]
  | @plain ms c c' cs cs' hc hc' h ih =>
    cases n with
    | zero => rfl
    | succ n =>
      have hne : c ≠ '\n' ∧ c' ≠ '\n' := by simp_all [Plain]
      simp [hne.1, hne.2, ih]

/-- Where the texts have the same character, they show the same character without comments. -/
theorem DifferInLiterals.getElem?_stripComments (h : DifferInLiterals text text')
    (hk : text[k]? = text'[k]?) : (stripComments text)[k]? = (stripComments text')[k]? := by
  rw [stripComments_eq, stripComments_eq, List.getElem?_zipWith, List.getElem?_zipWith, hk, h.modes_eq]

/-- A literal stands in both texts at an offset, and its two texts may stand for one another. -/
structure ExchangedAt (places : Nat → Prop) (text text' : List Char) (j : Nat) (w w' : List Char) :
    Prop where
  left : LiteralAt text j w
  right : LiteralAt text' j w'
  swap : Swap places (j + 1) w w'

/-- Without their comments the texts are equal but for the literals in which they differ. What is read
from a place on that lies within none of these is either one of them or a character of both. -/
theorem DifferInLiterals.exchange_drop (h : DifferInLiterals text text')
    (hexchanged : ∀ i : Nat, text[i]? ≠ text'[i]? →
      ∃ j w w', ExchangedAt places text text' j w w' ∧ j < i ∧ i ≤ j + w.length) (k : Nat)
    (hk : ∀ j w w', ExchangedAt places text text' j w w' → k ≤ j ∨ j + w.length + 1 < k) :
    Exchange (Swap places) k ((stripComments text).drop k) ((stripComments text').drop k) := by
  have hlength : ∀ t : List Char, (stripComments t).length = t.length := length_stripFrom .code
  by_cases hend : text.length ≤ k
  · rw [List.drop_eq_nil_of_le (by rwa [hlength]),
      List.drop_eq_nil_of_le (by rwa [hlength, ← h.length_eq])]
    exact .nil
  by_cases hhere : ∃ w w', ExchangedAt places text text' k w w'
  · -- the literal is taken as a whole, and no other begins within it
    obtain ⟨w, w', hw⟩ := hhere
    have hnext := h.exchange_drop hexchanged (k + w.length + 2) fun j v v' hv => by
      have houtside := hw.left.outside hv.left rfl
      rcases hk j v v' hv with hle | hlt
      · rcases Nat.eq_or_lt_of_le hle with rfl | hlt
        · have := hw.left.length_le hv.left rfl
          omega
        · omega
      · omega
    rw [hw.left.drop_stripComments, hw.right.drop_stripComments, ← hw.swap.length_eq]
    exact .literal hw.swap hnext
  · have hnext := h.exchange_drop hexchanged (k + 1) fun j v v' hv => by
      rcases hk j v v' hv with hle | hlt
      · rcases Nat.eq_or_lt_of_le hle with rfl | hlt
        · exact absurd ⟨v, v', hv⟩ hhere
        · omega
      · omega
    have hsame : text[k]? = text'[k]? := by
      -- a character that differs would lie behind the start of its literal
      by_contra hne
      obtain ⟨j, w, w', hw, hlow, hhigh⟩ := hexchanged k hne
      have := hk j w w' hw
      omega
    obtain ⟨x, hx⟩ : ∃ x, (stripComments text)[k]? = some x :=
      Option.isSome_iff_exists.1 (by simpa [hlength] using hend)
    exact .drop hx (h.getElem?_stripComments hsame ▸ hx) hnext
termination_by text.length - k

theorem DifferInLiterals.exchange (h : DifferInLiterals text text')
    (hexchanged : ∀ i : Nat, text[i]? ≠ text'[i]? →
      ∃ j w w', ExchangedAt places text text' j w w' ∧ j < i ∧ i ≤ j + w.length) :
    Exchange (Swap places) 0 (stripComments text) (stripComments text') := by
  simpa using h.exchange_drop hexchanged 0 fun _ _ _ _ => .inl (Nat.zero_le _)

end RtlAtlas.Source
