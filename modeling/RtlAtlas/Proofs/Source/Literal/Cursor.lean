/-
Readers on two texts that are equal but for quiet literals. From two places that correspond, a reader
finds the same and moves to places that correspond, and so does a search whose pattern matches
nowhere within a quiet literal.
-/
import RtlAtlas.Proofs.Relation
import RtlAtlas.Proofs.Source.Cursor
import RtlAtlas.Proofs.Source.Literal.Bracket

namespace RtlAtlas.Source

open RtlAtlas.Text

theorem identifier?_eq (cs : List Char) : identifier? cs =
    if cs.head?.any isIdentStart then some (cs.takeWhile isIdentRest, cs.dropWhile isIdentRest)
    else none := by
  cases cs with
  | nil => rfl
  | cons x cs =>
    cases hx : isIdentStart x with
    | false => simp [identifier?, hx]
    | true => simp [identifier?, hx, isIdentStart_imp_rest hx]

namespace Cursor

variable {places : Nat → Prop} {c c' d d' e e' : Cursor} {words : List String} {x : Char}

/-! ## Places that correspond -/

/-- Two places at one offset behind the same character, with exchanged texts behind them. -/
structure Alike (places : Nat → Prop) (c c' : Cursor) : Prop where
  offset_eq : c.offset = c'.offset
  last_eq : c.last = c'.last
  rest : Exchange (Swap places) c.offset c.rest c'.rest

/-- Two places that lie as far behind two others, and in no exchanged text. -/
def Moves (places : Nat → Prop) (c c' d d' : Cursor) : Prop :=
  ∃ n, d = c.advance n ∧ d' = c'.advance n ∧ Parts (Swap places) c.offset c.rest c'.rest n

theorem advance_eq {n : Nat} (h : n ≤ c.rest.length) :
    c.advance n = ⟨c.offset + n, (c.rest.take n).getLast?.or c.last, c.rest.drop n⟩ := by
  have := advance_append (c.rest.take n) (c.rest.drop n) c.offset c.last
  rwa [List.take_append_drop, List.length_take, Nat.min_eq_left h] at this

theorem Alike.length_eq (h : c.Alike places c') : c.rest.length = c'.rest.length :=
  h.rest.length_eq Swap.lengths

/-- The same text corresponds to itself. -/
theorem Alike.refl (c : Cursor) : c.Alike places c := ⟨rfl, rfl, .refl _⟩

theorem Moves.alike (h : c.Alike places c') (hm : c.Moves places c' d d') : d.Alike places d' := by
  obtain ⟨n, rfl, rfl, hparts⟩ := hm
  rw [advance_eq hparts.le, advance_eq (h.length_eq ▸ hparts.le)]
  refine ⟨congrArg (· + n) h.offset_eq, ?_, hparts.back⟩
  exact congrArg₂ Option.or hparts.front.getLast?_eq h.last_eq

theorem Moves.refl (h : c.Alike places c') : c.Moves places c' c c' := ⟨0, rfl, rfl, .zero h.rest⟩

theorem Moves.trans (hd : c.Moves places c' d d') (he : d.Moves places d' e e') :
    c.Moves places c' e e' := by
  obtain ⟨m, rfl, rfl, hm⟩ := hd
  obtain ⟨n, rfl, rfl, hn⟩ := he
  refine ⟨m + n, advance_advance m n c, advance_advance m n c', hm.trans ?_⟩
  rwa [rest_advance, rest_advance, offset_advance, Nat.min_eq_left hm.le] at hn

/-- The texts that end at two places that correspond. -/
theorem Moves.upTo (h : c.Alike places c') (hm : c.Moves places c' d d') :
    (c.upTo d.offset).Alike places (c'.upTo d'.offset) := by
  have hoffset := (hm.alike h).offset_eq
  obtain ⟨n, rfl, rfl, hparts⟩ := hm
  have hstop : (c.advance n).offset - c.offset = n := by
    rw [offset_advance, Nat.min_eq_left hparts.le]
    omega
  refine ⟨h.offset_eq, h.last_eq, ?_⟩
  unfold Cursor.upTo
  rw [← hoffset, ← h.offset_eq, hstop]
  exact hparts.front

/-- The places at the ends of the texts. -/
theorem Alike.end (h : c.Alike places c') :
    c.Moves places c' (c.advance c.rest.length) (c'.advance c'.rest.length) :=
  ⟨c.rest.length, rfl, by rw [h.length_eq], .whole h.length_eq h.rest⟩

/-- The places behind a run that ends at a quote at the latest. -/
theorem Alike.run {p : Char → Bool} (hp : p '"' = false) (h : c.Alike places c') :
    c.Moves places c' (c.advance (c.rest.takeWhile p).length)
      (c'.advance (c'.rest.takeWhile p).length) :=
  ⟨_, rfl, by rw [h.rest.takeWhile_eq hp], .run hp h.rest⟩

/-- What stands in front of a mark that no quiet literal holds, and the places behind the mark. -/
theorem Alike.past (hpass : ∀ {w : List Char}, Quiet w → x ∉ w) (hq : x ≠ '"')
    (h : c.Alike places c') :
    Exchange (Swap places) c.offset (c.rest.takeWhile (· != x)) (c'.rest.takeWhile (· != x)) ∧
      ((c.rest.takeWhile (· != x)).length < c.rest.length →
        c.Moves places c' (c.advance ((c.rest.takeWhile (· != x)).length + 1))
          (c'.advance ((c.rest.takeWhile (· != x)).length + 1))) := by
  have hall : ∀ {w : List Char}, Quiet w → ∀ y ∈ w, (y != x) = true := by
    intro w hw y hy
    rw [bne_iff_ne]
    rintro rfl
    exact hpass hw hy
  have hquote : ('"' != x) = true := bne_iff_ne.2 (Ne.symm hq)
  have hparts := Parts.past Swap.lengths (Swap.both hall) hquote h.rest
  refine ⟨(h.rest.takeWhile (Swap.both hall) hquote).1, fun hlt => ?_⟩
  obtain ⟨y, hy, hstop⟩ := Exchange.head?_behind_run hlt
  obtain rfl : y = x := by simpa using hstop
  exact ⟨_, rfl, rfl, hparts.trans (.one hparts.back hy hq)⟩

/-! ## Readers -/

namespace Alike

theorem skipBlank (h : c.Alike places c') : c.Moves places c' c.skipBlank c'.skipBlank :=
  h.run (by decide)

theorem startsWith_eq (h : c.Alike places c') (x : Char) : c.startsWith x = c'.startsWith x :=
  congrArg (· == some x) h.rest.head?_eq

theorem atWordStart_eq (h : c.Alike places c') : c.atWordStart = c'.atWordStart :=
  congrArg (fun l => !Option.any isWord l) h.last_eq

theorem atLineStart_eq (h : c.Alike places c') : c.atLineStart = c'.atLineStart :=
  congrArg (fun l => l == none || l == some '\n') h.last_eq

/-- The places behind a character that is no quote. -/
theorem advance_one (h : c.Alike places c') (hx : c.startsWith x = true) (hq : x ≠ '"') :
    c.Moves places c' (c.advance 1) (c'.advance 1) :=
  ⟨1, rfl, rfl, .one h.rest (eq_of_beq hx) hq⟩

theorem dropLead? {lead : List Char} (hq : '"' ∉ lead) (h : c.Alike places c') :
    Option.Rel (fun r r' => r.head? = r'.head? ∧ Parts (Swap places) c.offset c.rest c'.rest lead.length)
      (dropLead? lead c.rest) (dropLead? lead c'.rest) := by
  cases hd : Text.dropLead? lead c.rest with
  | some r =>
    have hsplit := dropLead?_eq_some.1 hd
    have hrest := h.rest
    rw [hsplit] at hrest
    obtain ⟨r', hr', hb⟩ := hrest.of_append hq
    rw [dropLead?_eq_some.2 hr']
    exact .some ⟨hb.head?_eq, .of_append h.rest hsplit hq⟩
  | none =>
    cases hd' : Text.dropLead? lead c'.rest with
    | none => exact .none
    | some r' =>
      have hback := h.rest.symm
      rw [dropLead?_eq_some.1 hd'] at hback
      obtain ⟨r, hr, -⟩ := hback.of_append hq
      rw [dropLead?_eq_some.2 hr] at hd
      cases hd

theorem afterWord? {word : String} (hq : '"' ∉ word.toList) (h : c.Alike places c') :
    Option.Rel (c.Moves places c') (c.afterWord? word) (c'.afterWord? word) := by
  have hlead := h.dropLead? hq
  unfold Cursor.afterWord?
  generalize Text.dropLead? word.toList c.rest = r, Text.dropLead? word.toList c'.rest = r' at hlead
  cases hlead with
  | none => exact .none
  | some hr =>
    simp only [hr.1]
    split
    · exact .none
    · exact .some ⟨word.length, rfl, rfl, String.length_toList ▸ hr.2⟩

theorem word? (hq : ∀ w ∈ words, '"' ∉ w.toList) (h : c.Alike places c') :
    Option.Rel (fun r r' => r.1 = r'.1 ∧ c.Moves places c' r.2 r'.2) (c.word? words)
      (c'.word? words) := by
  unfold Cursor.word?
  rw [h.atWordStart_eq]
  split
  · exact rel_findSome? fun w hw => rel_map (h.afterWord? (hq w hw)) fun _ _ hd => ⟨rfl, hd⟩
  · exact .none

theorem ident? (h : c.Alike places c') :
    Option.Rel (fun r r' => r.1 = r'.1 ∧ c.Moves places c' r.2 r'.2) c.ident? c'.ident? := by
  have hrun := h.run (p := isIdentRest) (by decide)
  unfold Cursor.ident?
  rw [identifier?_eq, identifier?_eq, h.rest.head?_eq]
  split
  · exact .some ⟨h.rest.takeWhile_eq (by decide), hrun⟩
  · exact .none

/-- What two brackets enclose, and the places behind them. -/
theorem enclosed? (h : c.Alike places c') :
    Option.Rel (fun r r' => Exchange (Swap places) (c.offset + 1) r.1 r'.1 ∧ c.Moves places c' r.2 r'.2)
      c.enclosed? c'.enclosed? := by
  obtain ⟨heq, hparts⟩ := h.rest.closing?
  unfold Cursor.enclosed?
  rw [← heq]
  cases hn : closing? c.rest with
  | none => exact .none
  | some n =>
    obtain ⟨left, hhead, hleft⟩ : ∃ left, c.rest.head? = some left ∧ left ≠ '"' := by
      cases hc : c.rest with
      | nil => rw [hc] at hn; cases hn
      | cons left cs =>
        refine ⟨left, rfl, ?_⟩
        rintro rfl
        rw [hc] at hn
        cases hn
    obtain ⟨x, hx, hcloser⟩ := getElem?_of_closing? hn
    have hq : x ≠ '"' := by
      rintro rfl
      cases hcloser
    have hclose := hparts n hn
    exact .some ⟨hclose.inside hhead hleft, n + 1, rfl, rfl,
      hclose.trans (.one hclose.back (List.head?_drop.trans hx) hq)⟩

/-- What stands in front of the next semicolon, and the places behind it. -/
theorem toSemicolon? (h : c.Alike places c') :
    Option.Rel (fun r r' => Exchange (Swap places) c.offset r.1 r'.1 ∧ c.Moves places c' r.2 r'.2)
      c.toSemicolon? c'.toSemicolon? := by
  obtain ⟨hbody, hnext⟩ := h.past (x := ';') (fun hw => hw.notMem (by decide)) (by decide)
  unfold Cursor.toSemicolon?
  simp only [← hbody.length_eq Swap.lengths, ← h.length_eq]
  split
  · rename_i hlt
    exact .some ⟨hbody, hnext hlt⟩
  · exact .none

end Alike

/-! ## Within a literal -/

theorem search_none {α : Type} {pattern : Cursor → Option α} : ∀ {n : Nat} {c : Cursor},
    c.search pattern = none → n ≤ c.rest.length → pattern (c.advance n) = none
  | 0, ⟨_, _, []⟩, h, _ => h
  | n + 1, ⟨_, _, []⟩, _, hn => absurd hn (Nat.not_succ_le_zero n)
  | n, ⟨offset, last, x :: xs⟩, h, hn => by
    unfold search searchIn at h
    cases hp : pattern ⟨offset, last, x :: xs⟩ with
    | some found =>
      simp only [hp] at h
      cases h
    | none =>
      simp only [hp] at h
      cases n with
      | zero => exact hp
      | succ n => exact search_none (c := ⟨offset + 1, some x, xs⟩) h (Nat.le_of_succ_le_succ hn)

/-- A word that stands in front of a quote is read the same if nothing follows. -/
theorem word?_quote {offset offset' : Nat} {last : Option Char} {cs rest : List Char}
    (hq : ∀ w ∈ words, '"' ∉ w.toList)
    (h : (⟨offset, last, cs⟩ : Cursor).word? words = none) :
    (⟨offset', last, cs ++ '"' :: rest⟩ : Cursor).word? words = none := by
  unfold Cursor.word? at h ⊢
  have hstart : (⟨offset', last, cs ++ '"' :: rest⟩ : Cursor).atWordStart =
      (⟨offset, last, cs⟩ : Cursor).atWordStart := rfl
  rw [hstart]
  split at h
  · rename_i hs
    rw [if_pos hs, List.findSome?_eq_none_iff]
    intro w hw
    have hnone := List.findSome?_eq_none_iff.1 h w hw
    rw [Option.map_eq_none_iff] at hnone ⊢
    unfold Cursor.afterWord? at hnone ⊢
    cases hd : Text.dropLead? w.toList (cs ++ '"' :: rest) with
    | none => rfl
    | some r =>
      have hsplit := dropLead?_eq_some.1 hd
      -- a word holds no quote, so it ends within the text in front of the quote
      obtain ⟨b, hcs, hr⟩ : ∃ b, cs = w.toList ++ b ∧ r = b ++ '"' :: rest := by
        rcases List.append_eq_append_iff.1 hsplit with ⟨b, hword, hb⟩ | ⟨b, hcs, hr⟩
        · cases b with
          | nil => exact ⟨[], by simpa using hword.symm, by simpa using hb.symm⟩
          | cons y b =>
            obtain ⟨rfl, -⟩ := List.cons.inj hb
            exact absurd (hword ▸ List.mem_append_right _ List.mem_cons_self) (hq w hw)
        · exact ⟨b, hcs, hr⟩
      simp only [dropLead?_eq_some.2 hcs] at hnone
      have hnext : b.head?.any isWord = true := by
        by_contra hne
        rw [if_neg hne] at hnone
        cases hnone
      have hhead : r.head?.any isWord = true := by
        cases b with
        | nil => cases hnext
        | cons y b => rw [hr]; exact hnext
      simp only [hhead, if_true]
  · rename_i hs
    rw [if_neg hs]

/-- A pattern that matches only where a word stands that a scan looks for, or first on a line. -/
def Led {α : Type} (pattern : Cursor → Option α) : Prop :=
  ∀ c : Cursor, c.word? scannedWords = none → c.atLineStart = false → pattern c = none

theorem quote_notMem_scannedWords : ∀ w ∈ scannedWords, '"' ∉ w.toList := by decide

/-- Such a pattern matches nowhere in a quiet literal. -/
theorem Led.not_inside {α : Type} {pattern : Cursor → Option α} (hled : Led pattern)
    {w cs : List Char} (hw : Quiet w) (offset : Nat) {n : Nat} (hn : n ≤ w.length) :
    pattern ((⟨offset, some '"', w ++ '"' :: cs⟩ : Cursor).advance n) = none := by
  have hnone := search_none hw.wordless hn
  rw [advance_eq hn] at hnone
  have hlong : n ≤ (w ++ '"' :: cs).length := by simp; omega
  have hfront : (w ++ '"' :: cs).take n = w.take n := List.take_append_of_le_length hn
  rw [advance_eq hlong]
  simp only [hfront, List.drop_append_of_le_length hn]
  refine hled _ (word?_quote quote_notMem_scannedWords hnone) ?_
  cases hlast : (w.take n).getLast? with
  | none => rfl
  | some x =>
    have hx : x ≠ '\n' := by
      rintro rfl
      exact hw.notMem (by decide) (List.mem_of_mem_take (List.mem_of_getLast? hlast))
    simpa [atLineStart] using hx

/-! ## Searching -/

/-- A search goes on behind a quiet literal. -/
theorem search_literal {α : Type} {pattern : Cursor → Option α} (hled : Led pattern) {w : List Char}
    (hw : Quiet w) (offset : Nat) (cs : List Char) :
    (⟨offset, some '"', w ++ '"' :: cs⟩ : Cursor).search pattern =
      (⟨offset + w.length + 1, some '"', cs⟩ : Cursor).search pattern := by
  have hadvance := advance_append (w ++ ['"']) cs offset (some '"')
  rw [List.append_assoc, List.singleton_append, List.getLast?_append] at hadvance
  rw [search_advance (n := w.length + 1) (by simp) fun m hm =>
    hled.not_inside hw offset (Nat.le_of_lt_succ hm)]
  simpa [Nat.add_assoc] using congrArg (Cursor.search pattern) hadvance

section

variable {α : Type} {pattern : Cursor → Option α} {S : Cursor → Cursor → α → α → Prop}

theorem search_cons (offset : Nat) (last : Option Char) (x : Char) (cs : List Char) :
    (⟨offset, last, x :: cs⟩ : Cursor).search pattern =
      (pattern ⟨offset, last, x :: cs⟩).or ((⟨offset + 1, some x, cs⟩ : Cursor).search pattern) := by
  rw [search, searchIn]
  cases pattern ⟨offset, last, x :: cs⟩ <;> rfl

/-- A search finds places that correspond, when its pattern reads the same at such places. -/
theorem Alike.search (hled : Led pattern)
    (hread : ∀ d d', d.Alike places d' → Option.Rel (S d d') (pattern d) (pattern d'))
    (h : c.Alike places c') :
    Option.Rel (fun a a' => ∃ d d', c.Moves places c' d d' ∧ S d d' a a') (c.search pattern)
      (c'.search pattern) := by
  have hhere : ∀ {c c' : Cursor}, c.Alike places c' →
      Option.Rel (fun a a' => ∃ d d', c.Moves places c' d d' ∧ S d d' a a') (pattern c) (pattern c') :=
    fun h => rel_mono (hread _ _ h) fun _ _ hs => ⟨_, _, .refl h, hs⟩
  have hlater : ∀ {c c' d d' : Cursor}, c.Moves places c' d d' → ∀ {r r' : Option α},
      Option.Rel (fun a a' => ∃ e e', d.Moves places d' e e' ∧ S e e' a a') r r' →
      Option.Rel (fun a a' => ∃ e e', c.Moves places c' e e' ∧ S e e' a a') r r' :=
    fun hd _ _ hr => rel_mono hr fun _ _ ⟨e, e', he, hs⟩ => ⟨e, e', hd.trans he, hs⟩
  obtain ⟨offset, last, rest⟩ := c
  obtain ⟨offset', last', rest'⟩ := c'
  obtain ⟨rfl, rfl, hrest⟩ := h
  simp only at hrest
  induction hrest generalizing last with
  | nil => exact hhere (.refl _)
  | @same k x cs cs' h ih =>
    rw [search_cons, search_cons]
    refine rel_or (hhere ⟨rfl, rfl, .same h⟩) (hlater ⟨1, rfl, rfl, ?_, .same .nil, h⟩ (ih (some x)))
    simp
  | @literal k w w' cs cs' hw h ih =>
    have hbehind : ∀ v vs : List Char,
        (⟨k, last, '"' :: (v ++ '"' :: vs)⟩ : Cursor).advance (v.length + 2) =
          ⟨k + v.length + 2, some '"', vs⟩ := by
      intro v vs
      simpa [List.getLast?_cons, Nat.add_assoc] using
        advance_append ('"' :: (v ++ ['"'])) vs k last
    have hnext : ∀ v vs : List Char, Quiet v →
        (⟨k + 1, some '"', v ++ '"' :: vs⟩ : Cursor).search pattern =
          (⟨k + v.length + 2, some '"', vs⟩ : Cursor).search pattern := by
      intro v vs hv
      rw [search_literal hled hv, Nat.add_right_comm k]
    -- nothing is found within either literal, and both end as far on
    rw [search_cons, search_cons, hnext w cs hw.left, hnext w' cs' hw.right, ← hw.length_eq]
    refine rel_or (hhere ⟨rfl, rfl, .literal hw h⟩)
      (hlater ⟨w.length + 2, (hbehind w cs).symm, ?_, ?_⟩ (ih (some '"')))
    · rw [hw.length_eq, hbehind]
    · have hquoted : Exchange (Swap places) k ('"' :: (w ++ ['"'])) ('"' :: (w' ++ ['"'])) :=
        .literal hw .nil
      have hbehind : Exchange (Swap places) (k + ('"' :: (w ++ ['"'])).length) cs cs' := by
        simpa [Nat.add_assoc] using h
      simpa using Parts.join (hquoted.length_eq Swap.lengths) hquoted hbehind

/-- What is found again and again corresponds, when the places do where each find ends. -/
theorem Alike.searchAll {next : α → Cursor} {R : α → α → Prop} (hled : Led pattern)
    (hread : ∀ d d', d.Alike places d' → Option.Rel R (pattern d) (pattern d'))
    (hnext : ∀ a a', R a a' → (next a).Alike places (next a')) (h : c.Alike places c') :
    List.Forall₂ R (c.searchAll pattern next) (c'.searchAll pattern next) := by
  have hfuel : ∀ (fuel : Nat) {c c' : Cursor}, c.Alike places c' →
      List.Forall₂ R (searchAllFrom pattern next fuel c) (searchAllFrom pattern next fuel c') := by
    intro fuel
    induction fuel with
    | zero => exact fun _ => .nil
    | succ fuel ih =>
      intro c c' h
      have hfound := h.search hled hread
      unfold searchAllFrom
      generalize c.search pattern = r, c'.search pattern = r' at hfound
      cases hfound with
      | none => exact .nil
      | some hfound =>
        obtain ⟨-, -, -, hr⟩ := hfound
        exact .cons hr (ih (hnext _ _ hr))
  unfold Cursor.searchAll
  rw [h.length_eq]
  exact hfuel _ h

end

end Cursor

end RtlAtlas.Source
