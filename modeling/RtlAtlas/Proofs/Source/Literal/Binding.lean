/-
Bindings of an instantiation that hold literals. Ports, positions and the names of parameters are read
outside of literals, and the expressions that are bound differ in literals at most.
-/
import RtlAtlas.Proofs.Relation
import RtlAtlas.Proofs.Source.Literal.Cursor
import RtlAtlas.Proofs.Source.Literal.Collapse
import RtlAtlas.Source.Binding

namespace RtlAtlas.Source

open RtlAtlas.Text

variable {k : Nat} {t t' : List Char}

namespace UpToLiterals

theorem symm (h : UpToLiterals t t') : UpToLiterals t' t :=
  (Exchange.flip h 0).mono fun _ _ _ hw => hw.symm

theorem of_exchange (h : Exchange (fun _ w w' => literalText w = true ∧ literalText w' = true) k t t') :
    UpToLiterals t t' := h.shift 0

/-- What the brackets around a whole text hold. -/
theorem bracketed? (h : UpToLiterals t t') :
    Option.Rel UpToLiterals (bracketed? t) (bracketed? t') := by
  cases h with
  | nil => exact .none
  | literal => exact .none
  | @same _ x cs cs' h =>
    by_cases hx : x = '('
    · subst hx
      unfold Source.bracketed?
      simp only [h.getLast?_eq]
      split
      · rename_i hlast
        obtain ⟨a, ha⟩ := List.getLast?_eq_some_iff.1 (h.getLast?_eq.trans hlast)
        obtain ⟨a', ha', hinside⟩ := h.of_append_right ha (by decide)
        rw [ha, ha', List.dropLast_concat, List.dropLast_concat]
        exact .some (of_exchange hinside)
      · exact .none
    · unfold Source.bracketed?
      split
      · exact absurd (List.cons.inj ‹_›).1 hx
      · split
        · exact absurd (List.cons.inj ‹_›).1 hx
        · exact .none

/-- A named entry has the same name, and a value with differences in literals at most. -/
theorem entry (h : UpToLiterals t t') :
    Option.Rel (fun e e' => e.name = e'.name ∧ Option.Rel UpToLiterals e.value e'.value)
      (namedEntryOf? t) (namedEntryOf? t') := by
  cases h with
  | nil => exact .none
  | literal => exact .none
  | @same _ x cs cs' h =>
    -- Only an entry that opens with a dot is named, and a literal opens with a quote.
    by_cases hx : x = '.'
    · subst hx
      have hname := h.trimLeft
      have hrest := (hname.dropWhile (p := isIdentRest) (by decide)).trimLeft
      unfold namedEntryOf?
      simp only [identifier?_eq, hname.head?_eq, hname.takeWhile_eq (p := isIdentRest) (by decide)]
      cases (Text.trimLeft cs').head?.any isIdentStart with
      | false => exact .none
      | true =>
        simp only [if_true]
        generalize Text.trimLeft ((Text.trimLeft cs).dropWhile isIdentRest) = r,
          Text.trimLeft ((Text.trimLeft cs').dropWhile isIdentRest) = r' at hrest
        cases hrest with
        | nil => exact .some ⟨rfl, .none⟩
        | same hrest =>
          exact rel_map (of_exchange (.same hrest)).bracketed? fun _ _ hv => ⟨rfl, .some hv⟩
        | literal => exact .none
    · unfold namedEntryOf?
      split
      · exact absurd (List.cons.inj ‹_›).1 hx
      · split
        · exact absurd (List.cons.inj ‹_›).1 hx
        · exact .none

end UpToLiterals

/-! ## Connections -/

/-- Two connections of one port whose signals differ in literals at most. -/
structure Connection.UpToLiterals (c c' : Connection) : Prop where
  port_eq : c.port = c'.port
  direction_eq : c.direction = c'.direction
  position_eq : c.position = c'.position
  signal : Source.UpToLiterals c.signal.toList c'.signal.toList

theorem connectionsFrom_upToLiterals {ss ss' : List Segment}
    (h : List.Forall₂ (fun s s' => UpToLiterals s.text s'.text) ss ss') :
    ∀ position : Nat, List.Forall₂ Connection.UpToLiterals (connectionsFrom position ss)
      (connectionsFrom position ss') := by
  induction h with
  | nil => exact fun _ => .nil
  | @cons s s' ss ss' hs _ ih =>
    intro position
    have hentry := hs.collapse
    have hwild : collapse s.text = ['.', '*'] ↔ collapse s'.text = ['.', '*'] := by
      refine ⟨fun he => ?_, fun he => ?_⟩
      · exact Exchange.eq_of_notMem (he ▸ hentry) (by decide)
      · exact Exchange.eq_of_notMem (he ▸ hentry.symm) (by decide)
    have hskip : (collapse s.text = [] ∨ collapse s.text = ['.', '*']) ↔
        (collapse s'.text = [] ∨ collapse s'.text = ['.', '*']) := or_congr hentry.eq_nil_iff hwild
    unfold connectionsFrom
    simp only [hskip]
    split
    · exact ih position
    · refine .cons ?_ (ih (position + 1))
      have hnamed := hentry.entry
      generalize namedEntryOf? (collapse s.text) = r, namedEntryOf? (collapse s'.text) = r' at hnamed
      cases hnamed with
      | none => exact ⟨rfl, rfl, rfl, by simpa using hentry⟩
      | @some e e' he =>
        refine ⟨congrArg String.ofList he.1, rfl, rfl, ?_⟩
        have hsignal := rel_getD (rel_map he.2 fun _ _ hv => UpToLiterals.of_exchange hv.trim)
          (he.1 ▸ Exchange.refl e.name : UpToLiterals e.name e'.name)
        simpa using hsignal

theorem Exchange.parseConnections {places : Nat → Prop} (h : Exchange (Swap places) k t t') :
    List.Forall₂ Connection.UpToLiterals (parseConnections t) (parseConnections t') :=
  connectionsFrom_upToLiterals
    (((h.free 0).splitFrom 0).imp fun _ _ hs => hs.text.upToLiterals) 0

/-! ## Parameters -/

/-- Two expressions that differ in literals at most. -/
def SameExpression (v v' : String) : Prop := UpToLiterals v.toList v'.toList

theorem override?_upToLiterals {s s' : Segment} (h : UpToLiterals s.text s'.text) (index : Nat) :
    Option.Rel (OrderedMap.SameKey SameExpression) (override? index s) (override? index s') := by
  have hentry := h.collapse
  unfold override?
  simp only [hentry.eq_nil_iff]
  split
  · exact .none
  · have hnamed := hentry.entry
    generalize namedEntryOf? (collapse s.text) = r, namedEntryOf? (collapse s'.text) = r' at hnamed
    cases hnamed with
    | none => exact .some ⟨rfl, by simpa [SameExpression] using hentry⟩
    | @some e e' he =>
      refine .some ⟨congrArg String.ofList he.1, ?_⟩
      have hvalue := UpToLiterals.of_exchange (rel_getD he.2 (.nil : UpToLiterals [] [])).trim
      simpa [SameExpression] using hvalue

theorem Exchange.parseBindings {places : Nat → Prop} (h : Exchange (Swap places) k t t') :
    List.Forall₂ (OrderedMap.SameKey SameExpression) (parseBindings t).entries
      (parseBindings t').entries := by
  refine OrderedMap.forall₂_ofList (List.rel_filterMap ?_ (forall₂_zipIdx ((h.free 0).splitFrom 0) 0))
  rintro ⟨s, n⟩ ⟨s', n'⟩ ⟨hs, rfl⟩
  exact override?_upToLiterals hs.text.upToLiterals n

end RtlAtlas.Source
