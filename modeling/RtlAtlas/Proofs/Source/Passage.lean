/-
The text between two places. What a reader passes over stands between the place where it begins and the
place where it ends, and such texts join when one reader goes on where another one ends. So a text that is
made of parts is read part by part, and what has been read shows what the text is made of.
-/
import RtlAtlas.Proofs.Source.Literal.Declarator
import RtlAtlas.Proofs.Source.Found

namespace RtlAtlas.Source

open RtlAtlas.Text Cursor

/-! ## The text between two places -/

namespace Cursor

variable {c d e : Cursor} {a b : List Char}

/-- A text stands between two places. -/
structure Passes (c : Cursor) (a : List Char) (d : Cursor) : Prop where
  text : c.rest = a ++ d.rest
  place : d = c.advance a.length

theorem passes_append (h : c.rest = a ++ b) : c.Passes a (c.advance a.length) :=
  ⟨by rw [rest_advance, h, List.drop_left], rfl⟩

theorem advance_take : ∀ (n : Nat) (c : Cursor), c.advance n = c.advance (c.rest.take n).length
  | 0, _ => rfl
  | _ + 1, ⟨_, _, []⟩ => rfl
  | n + 1, ⟨offset, _, x :: xs⟩ => advance_take n ⟨offset + 1, some x, xs⟩

theorem Reaches.passes (h : c.Reaches d) : ∃ a, c.Passes a d := by
  obtain ⟨n, rfl⟩ := h
  exact ⟨c.rest.take n, by rw [rest_advance, List.take_append_drop], advance_take n c⟩

namespace Passes

theorem refl (c : Cursor) : c.Passes [] c := ⟨rfl, rfl⟩

theorem trans (hd : c.Passes a d) (he : d.Passes b e) : c.Passes (a ++ b) e :=
  ⟨by rw [hd.text, he.text, List.append_assoc],
    by rw [he.place, hd.place, advance_advance, List.length_append]⟩

theorem reaches (h : c.Passes a d) : c.Reaches d := ⟨_, h.place⟩

theorem offset (h : c.Passes a d) : d.offset = c.offset + a.length := by
  rw [h.place, offset_advance, h.text, List.length_append]
  omega

theorem last (h : c.Passes a d) : d.last = a.getLast?.or c.last := by
  obtain ⟨offset, last, rest⟩ := c
  obtain ⟨rfl, hplace⟩ := h
  rw [hplace, advance_append]

theorem ne_nil_of_lt (h : c.Passes a d) (hlt : c.offset < d.offset) : a ≠ [] := by
  rintro rfl
  have hoffset := h.offset
  rw [List.length_nil] at hoffset
  omega

/-- What follows a text follows the place behind it. -/
theorem rest_eq (h : c.Passes a d) (hb : c.rest = a ++ b) : d.rest = b :=
  List.append_cancel_left (h.text.symm.trans hb)

/-- The place that is behind a part of the text between two places lies between them. -/
theorem split (h : c.Passes (a ++ b) e) : ∃ d, c.Passes a d ∧ d.Passes b e := by
  have htext := h.text
  rw [List.append_assoc] at htext
  have hd := passes_append htext
  refine ⟨_, hd, hd.rest_eq htext, ?_⟩
  rw [h.place, advance_advance, List.length_append]

/-- Of two places behind a third one, the one in front is passed on the way to the other. -/
theorem of_offset_le (hd : c.Passes a d) (he : c.Passes b e) (hle : d.offset ≤ e.offset) :
    ∃ w, b = a ++ w ∧ d.Passes w e := by
  rw [hd.offset, he.offset] at hle
  obtain ⟨w, rfl⟩ : a <+: b := List.prefix_of_prefix_length_le (hd.text ▸ List.prefix_append _ _)
    (he.text ▸ List.prefix_append _ _) (by omega)
  obtain ⟨d', hd', hw⟩ := he.split
  obtain rfl : d' = d := hd'.place.trans hd.place.symm
  exact ⟨w, rfl, hw⟩

theorem eq_of_offset (hd : c.Passes a d) (he : c.Passes b e) (h : d.offset = e.offset) : a = b ∧ d = e := by
  obtain ⟨w, rfl, hw⟩ := hd.of_offset_le he (Nat.le_of_eq h)
  have hlength := hw.offset
  obtain rfl : w = [] := List.length_eq_zero_iff.1 (by omega)
  exact ⟨(List.append_nil a).symm, hw.place.symm⟩

end Passes

/-! ## What the readers pass -/

theorem startsWith_eq {x : Char} (h : c.rest = x :: b) (y : Char) : c.startsWith y = (x == y) := by
  rw [startsWith, h, List.head?_cons]
  rfl

theorem of_startsWith {x : Char} (h : c.startsWith x = true) : ∃ b, c.rest = x :: b := by
  cases hrest : c.rest with
  | nil =>
    rw [startsWith, hrest] at h
    cases h
  | cons y b =>
    rw [startsWith_eq hrest, beq_iff_eq] at h
    exact ⟨b, by rw [h]⟩

theorem skipBlank_eq (h : c.rest = a ++ b) (ha : ∀ x ∈ a, isBlank x = true)
    (hb : b.head?.any isBlank = false) : c.skipBlank = c.advance a.length := by
  rw [skipBlank, h, takeWhile_run ha hb]

theorem passes_skipBlank (c : Cursor) : ∃ gap, (∀ x ∈ gap, isBlank x = true) ∧ c.Passes gap c.skipBlank ∧
    c.skipBlank.rest.head?.any isBlank = false := by
  have hrest := (List.takeWhile_append_dropWhile (p := isBlank) (l := c.rest)).symm
  have hpass := passes_append hrest
  refine ⟨_, fun _ hx => List.mem_takeWhile_imp hx, hpass, ?_⟩
  rw [skipBlank, hpass.rest_eq hrest]
  have hhead := List.head?_dropWhile_not isBlank c.rest
  cases h : (c.rest.dropWhile isBlank).head? with
  | none => rfl
  | some x =>
    rw [h] at hhead
    simpa using hhead

theorem ident?_eq (h : c.rest = a ++ b) (hstarts : a.head?.any isIdentStart = true) (ha : IsName a)
    (hb : b.head?.any isIdentRest = false) : c.ident? = some (a, c.advance a.length) := by
  have hall : a.head?.all isIdentStart = true := by
    cases a with
    | nil => rfl
    | cons x a => exact hstarts
  rw [ident?, h, identifier?_run (ne_nil_of_isIdentStart hstarts) hall ha hb]
  rfl

theorem passes_ident? (h : c.ident? = some (a, d)) :
    c.Passes a d ∧ a.head?.any isIdentStart = true ∧ IsName a := by
  obtain ⟨⟨name, rest⟩, hname, he⟩ := Option.map_eq_some_iff.1 h
  obtain ⟨rfl, rfl⟩ := Prod.mk.inj he
  obtain ⟨hstarts, hisName⟩ := identifier?_eq_some hname
  exact ⟨passes_append (identifier?_append hname).symm, hstarts, hisName⟩

theorem enclosed?_eq {left right : Char} {out : Char → Prop} (hpair : closer? left = some right)
    (ha : Nested out a) (h : c.rest = left :: (a ++ right :: b)) :
    c.enclosed? = some (a, c.advance (a.length + 2)) := by
  rw [enclosed?, h, closing?_group hpair ha, Option.map_some, List.drop_succ_cons, List.drop_zero,
    Nat.add_sub_cancel, List.take_left]

/-- A group of round brackets is passed as a whole. -/
theorem passes_enclosed? (hc : c.startsWith '(' = true) (h : c.enclosed? = some (a, d)) :
    c.Passes ('(' :: (a ++ [')'])) d ∧ closing? c.rest = some (a.length + 1) := by
  obtain ⟨cs, hrest⟩ := of_startsWith hc
  obtain ⟨n, hn, he⟩ := Option.map_eq_some_iff.1 h
  have hclose := hn
  rw [hrest] at hclose
  obtain ⟨m, hm, rfl⟩ : ∃ m, closeFrom [')'] cs = some m ∧ m + 1 = n := Option.map_eq_some_iff.1 hclose
  have hlt := length_closeFrom hm
  have hround : cs.get ⟨m, hlt⟩ = ')' := by
    have hlast := getElem?_closeFrom (List.cons_ne_nil _ _) hm
    rw [List.getElem?_eq_getElem hlt] at hlast
    exact Option.some.inj hlast
  obtain ⟨ha, hd⟩ := Prod.mk.inj he
  rw [hrest, List.drop_succ_cons, List.drop_zero, Nat.add_sub_cancel] at ha
  have hlength : a.length = m := by rw [← ha, List.length_take_of_le (Nat.le_of_lt hlt)]
  have hsplit : c.rest = ('(' :: (a ++ [')'])) ++ cs.drop (m + 1) := by
    rw [hrest, ← ha, List.cons_append, List.append_assoc, List.singleton_append, ← hround,
      List.get_eq_getElem, ← List.drop_eq_getElem_cons hlt, List.take_append_drop]
  have hpass := passes_append hsplit
  refine ⟨?_, by rw [hn, hlength]⟩
  rw [← hd, ← hlength]
  simpa using hpass

end Cursor

theorem not_blank_of_isIdentRest {x : Char} (h : isIdentRest x = true) : isBlank x = false := by
  cases hblank : isBlank x with
  | false => rfl
  | true =>
    rw [isIdentRest_of_isBlank hblank] at h
    cases h

/-- The characters that a line may be indented with. -/
def IsIndent (cs : List Char) : Prop := ∀ x ∈ cs, x = ' ' ∨ x = '\t'

theorem IsIndent.blank {cs : List Char} (h : IsIndent cs) : ∀ x ∈ cs, isBlank x = true := fun x hx => by
  rcases h x hx with rfl | rfl <;> decide

theorem IsIndent.newline_notMem {cs : List Char} (h : IsIndent cs) : '\n' ∉ cs := fun hx => by
  rcases h _ hx with h | h <;> cases h

theorem IsName.newline_notMem {name : List Char} (h : IsName name) : '\n' ∉ name := fun hx =>
  absurd (h _ hx) (by decide)

end RtlAtlas.Source
