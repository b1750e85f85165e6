/-
The line that an instantiation starts on. Outside of brackets no reader that starts in front of the line
gets past its first word, and only white space leads up to that. So the scan goes on behind the start of the
line only from a module type that nothing but white space follows, and then only if the line is indented.
-/
import RtlAtlas.Proofs.Source.Instantiation.Statement

namespace RtlAtlas.Source

open RtlAtlas.Text Cursor

/-- No bracket that is opened in a text is closed by one in the text behind it. -/
structure OutsideBrackets (pre after : List Char) : Prop where
  round : ∀ {b : List Char} {n : Nat}, '(' :: b <:+ pre →
    closing? ('(' :: (b ++ after)) = some n → n ≤ b.length
  square : ∀ {b : List Char}, '[' :: b <:+ pre → ']' ∈ after → ']' ∈ b

/-- What stands behind a well-nested text stands outside of its brackets. -/
theorem Nested.outsideBrackets {out : Char → Prop} {pre : List Char} (h : Nested out pre)
    (after : List Char) : OutsideBrackets pre after := by
  constructor
  · intro b n hb hn
    obtain ⟨inside, cs, rfl, hinside⟩ := h.group_of_suffix (r := ')') rfl hb
    have hclosing := closing?_group (show closer? '(' = some ')' from rfl) hinside (cs ++ after)
    rw [List.append_assoc, List.cons_append, hclosing] at hn
    cases hn
    simp
  · intro b hb _
    obtain ⟨inside, cs, rfl, -⟩ := h.group_of_suffix (r := ']') rfl hb
    simp

namespace Instantiation

variable {s : Instantiation} {pre post a v w : List Char} {c d place typeAt : Cursor}

/-! ## The first word -/

/-- A statement starts on a line, outside of the brackets in front: the place of the line and that of the
module type. -/
structure Opening (s : Instantiation) (pre : List Char) (place typeAt : Cursor) : Prop where
  line : place.atLineStart = true
  indent : place.Passes s.indent typeAt
  type : ∃ tail, typeAt.rest = s.moduleType.text ++ tail
  noInstance : ∀ type parameters, instanceAfter? type parameters typeAt = none
  outside : OutsideBrackets pre place.rest

theorem skipBlank_type (htype : typeAt.rest = s.moduleType.text ++ a) : typeAt.skipBlank = typeAt :=
  skipBlank_of_head (by rw [htype]; exact s.moduleType.head_not_blank _)

/-- White space or a number sign follows the module type, and no bracket of an instance comes next. -/
theorem follows_type (s : Instantiation) (post : List Char) :
    ∃ (gap : Gap) (x : Char) (behind : List Char),
      s.assignment.elim [] ValueAssignment.text ++ (s.first.text ++ post) = gap.text ++ x :: behind ∧
      isBlank x = false ∧ x ≠ '(' ∧ x ≠ '[' ∧ (gap.text ++ x :: behind).head?.any isIdentRest = false := by
  have hapart := s.apart
  cases hassignment : s.assignment with
  | none =>
    obtain ⟨x, name, hname⟩ := List.exists_cons_of_ne_nil s.first.name.ne_nil
    obtain ⟨y, lead, hlead⟩ := List.exists_cons_of_ne_nil (hapart hassignment)
    have hx := s.first.name.isName x (hname ▸ List.mem_cons_self)
    refine ⟨s.first.lead, x, name ++ (s.first.gap.text ++ '(' :: (s.first.connections.text ++
      ')' :: (s.first.trail.text ++ post))), ?_, not_blank_of_isIdentRest hx, ?_, ?_, ?_⟩
    · simp [HierarchicalInstance.text, HierarchicalInstance.core, hname]
    · rintro rfl
      cases hx
    · rintro rfl
      cases hx
    · rw [hlead]
      exact isIdentRest_of_isBlank (s.first.lead.blank y (hlead ▸ List.mem_cons_self))
  | some v =>
    refine ⟨v.gap, '#', v.hash.text ++ '(' :: (v.bindings.text ++ ')' :: (s.first.text ++ post)), ?_,
      by decide, by decide, by decide, v.gap.ends_name rfl⟩
    simp [ValueAssignment.text]

/-- The module type of a statement is not the name of an instance. -/
theorem instanceAfter?_type (htype : typeAt.rest = s.moduleType.text ++
      (s.assignment.elim [] ValueAssignment.text ++ (s.first.text ++ post)))
    (type : List Char) (parameters : OrderedMap String String) :
    instanceAfter? type parameters typeAt = none := by
  obtain ⟨gap, x, behind, hfollows, hx, hround, hsquare, hends⟩ := follows_type s post
  have hskip := skipBlank_type htype
  rw [hfollows] at htype
  obtain ⟨after, hident, hpass⟩ := s.moduleType.ident?_eq htype hends
  have hafter := hpass.rest_eq htype
  have hnext := (gap.skipBlank_eq hafter (by simpa using hx)).rest_eq hafter
  cases hinstance : instanceAfter? type parameters typeAt with
  | none => rfl
  | some found =>
    obtain ⟨name, after', bracket, -, -, hname, hbracket, hstarts, -⟩ := instanceAfter?_eq_some hinstance
    rw [hskip, hident] at hname
    cases hname
    rw [skipRanges_of_not (by simp [startsWith_eq hnext, hsquare])] at hbracket
    rw [hbracket, startsWith_eq hnext, beq_iff_eq] at hstarts
    exact absurd hstarts hround

theorem opening_of_text (hline : place.atLineStart = true) (hrest : place.rest = s.text ++ post)
    (houtside : OutsideBrackets pre (s.text ++ post)) : ∃ typeAt, Opening s pre place typeAt := by
  rw [text, front] at hrest
  simp only [List.append_assoc] at hrest
  have hpass : place.Passes s.indent _ := passes_append hrest
  have htype := hpass.rest_eq hrest
  refine ⟨_, hline, hpass, ⟨_, htype⟩, instanceAfter?_type htype, ?_⟩
  rw [hrest]
  simpa [text, front] using houtside

/-! ## In front of the line -/

/-- A place in front of a line, or the module type of the line. -/
def Front (pre : List Char) (place typeAt c : Cursor) : Prop :=
  (∃ w, w ≠ [] ∧ w <:+ pre ∧ c.Passes w place) ∨ c = typeAt

theorem offset_le_of_passes (h : ∃ w, w <:+ pre ∧ c.Passes w place) : c.offset ≤ place.offset := by
  obtain ⟨w, -, hw⟩ := h
  have := hw.offset
  omega

/-- A reader that stays in front of a line goes on there. -/
theorem passes_on (hw : c.Passes w place) (hpre : w <:+ pre) (ha : c.Passes a d)
    (hle : d.offset ≤ place.offset) : ∃ v, v <:+ pre ∧ w = a ++ v ∧ d.Passes v place := by
  obtain ⟨v, rfl, hv⟩ := ha.of_offset_le hw hle
  exact ⟨v, (List.suffix_append a v).trans hpre, rfl, hv⟩

section

variable (h : Opening s pre place typeAt)
include h

namespace Opening

/-- A reader that passes over no line break stays on the lines in front. -/
theorem stays (hw : c.Passes w place) (hne : w ≠ []) (hpre : w <:+ pre) (ha : c.Passes a d)
    (hbreak : '\n' ∉ a) : ∃ v, v ≠ [] ∧ v <:+ pre ∧ w = a ++ v ∧ d.Passes v place := by
  have hlast := startsLine_of_passes hw h.line
  rcases Nat.lt_or_ge d.offset place.offset with hlt | hge
  · obtain ⟨v, hv, rfl, hpass⟩ := passes_on hw hpre ha (Nat.le_of_lt hlt)
    exact ⟨v, hpass.ne_nil_of_lt hlt, hv, rfl, hpass⟩
  · obtain ⟨v, rfl, -⟩ := hw.of_offset_le ha hge
    have hnewline := hlast _ (List.getLast?_eq_some_getLast hne)
    exact absurd (List.mem_append_left v (hnewline ▸ List.getLast_mem hne)) hbreak

/-- What starts with a mark stands in front of the line. -/
theorem of_startsWith {x : Char} (hx : isIdentRest x = false) (hc : Front pre place typeAt c)
    (hstarts : c.startsWith x = true) : ∃ b, x :: b <:+ pre ∧ c.Passes (x :: b) place := by
  obtain ⟨rest, hrest⟩ := Cursor.of_startsWith hstarts
  rcases hc with ⟨w, hne, hpre, hw⟩ | rfl
  · obtain ⟨y, b, rfl⟩ := List.exists_cons_of_ne_nil hne
    obtain ⟨rfl, -⟩ := List.cons.inj (hrest.symm.trans hw.text)
    exact ⟨b, hpre, hw⟩
  · obtain ⟨tail, htype⟩ := h.type
    rw [htype] at hrest
    refine absurd ?_ (s.moduleType.head_ne hx tail)
    rw [hrest]
    rfl

/-- White space is skipped up to a place in front of the line, or up to the module type. -/
theorem skipBlank (hc : (∃ w, w <:+ pre ∧ c.Passes w place) ∨ c = typeAt) :
    Front pre place typeAt c.skipBlank := by
  obtain ⟨tail, htype⟩ := h.type
  rcases hc with ⟨w, hpre, hw⟩ | rfl
  · obtain ⟨gap, hgap, hpass, -⟩ := passes_skipBlank c
    rcases Nat.lt_or_ge c.skipBlank.offset place.offset with hlt | hge
    · obtain ⟨v, hv, -, hrest⟩ := passes_on hw hpre hpass (Nat.le_of_lt hlt)
      exact .inl ⟨v, hrest.ne_nil_of_lt hlt, hv, hrest⟩
    · -- all that is left in front of the line is blank
      obtain ⟨v, rfl, -⟩ := hw.of_offset_le hpass hge
      have hall := hw.trans h.indent
      have hblank : ∀ x ∈ w ++ s.indent, isBlank x = true := fun x hx =>
        (List.mem_append.1 hx).elim (fun hx => hgap x (List.mem_append_left _ hx)) (s.indented.blank x)
      refine .inr ?_
      rw [Cursor.skipBlank_eq hall.text hblank (by rw [htype]; exact s.moduleType.head_not_blank _)]
      exact hall.place.symm
  · exact .inr (skipBlank_type htype)

/-- One character further on the line is not passed. -/
theorem advance_one {x : Char} (hx : isIdentRest x = false) (hc : Front pre place typeAt c)
    (hstarts : c.startsWith x = true) : ∃ w, w <:+ pre ∧ (c.advance 1).Passes w place := by
  obtain ⟨b, hb, hpass⟩ := h.of_startsWith hx hc hstarts
  obtain ⟨d, hd, hrest⟩ := hpass.split (a := [x])
  obtain rfl : d = c.advance 1 := hd.place
  exact ⟨b, (List.suffix_cons x b).trans hb, hrest⟩

/-- A group of round brackets that is opened in front of the line is closed there. -/
theorem enclosed? (hc : Front pre place typeAt c) (hstarts : c.startsWith '(' = true) {inside : List Char}
    (henclosed : c.enclosed? = some (inside, d)) : ∃ w, w <:+ pre ∧ d.Passes w place := by
  obtain ⟨b, hb, hpass⟩ := h.of_startsWith (by decide) hc hstarts
  obtain ⟨hgroup, hclosing⟩ := passes_enclosed? hstarts henclosed
  rw [hpass.text] at hclosing
  have hinside := h.outside.round hb hclosing
  have hplace := hpass.offset
  have hclose := hgroup.offset
  rw [List.length_cons] at hplace hclose
  rw [List.length_append, List.length_singleton] at hclose
  obtain ⟨v, hv, -, hrest⟩ := passes_on hpass hb hgroup (by omega)
  exact ⟨v, hv, hrest⟩

/-- Array ranges that are opened in front of the line end there. -/
theorem skipRanges : ∀ (fuel : Nat) {c : Cursor}, Front pre place typeAt c →
    Front pre place typeAt (skipRanges fuel c)
  | 0, _, hc => hc
  | fuel + 1, c, hc => by
    unfold Source.skipRanges
    simp only
    split
    · rename_i hstarts
      split
      · rename_i hclosed
        obtain ⟨b, hb, hpass⟩ := h.of_startsWith (by decide) hc hstarts
        rw [hpass.text, List.cons_append, List.drop_succ_cons, List.drop_zero] at hclosed ⊢
        -- a range that starts in front of the statement ends there, as its brackets are closed
        have hmem : ']' ∈ b := by
          by_cases hbehind : ']' ∈ place.rest
          · exact h.outside.square hb hbehind
          · by_contra hnot
            have hall : (b ++ place.rest).takeWhile (· != ']') = b ++ place.rest :=
              List.takeWhile_eq_self_iff.2 fun x hx => bne_iff_ne.2 fun he =>
                (List.mem_append.1 hx).elim (fun hx => hnot (he ▸ hx)) (fun hx => hbehind (he ▸ hx))
            rw [hall] at hclosed
            exact Nat.lt_irrefl _ hclosed
        obtain ⟨u, b, rfl, hu⟩ := List.eq_append_cons_of_mem hmem
        have hinside : (u ++ ']' :: b ++ place.rest).takeWhile (· != ']') = u := by
          rw [List.append_assoc]
          exact takeWhile_run (fun x hx => bne_iff_ne.2 fun he => hu (he ▸ hx)) rfl
        rw [hinside]
        have hrange : '[' :: (u ++ ']' :: b) = ('[' :: (u ++ [']'])) ++ b := by simp
        rw [hrange] at hpass hb
        obtain ⟨d, hd, hrest⟩ := hpass.split
        obtain rfl : d = c.advance (u.length + 2) := by simpa using hd.place
        exact skipRanges fuel (h.skipBlank (.inl ⟨b, (List.suffix_append _ _).trans hb, hrest⟩))
      · exact hc
    · exact hc

/-- An instance that is looked for in front of the line is found there, or not at all. -/
theorem instanceAfter? {type : List Char} {parameters : OrderedMap String String} {i : InstanceMark}
    {m : Mark} (hc : (∃ w, w <:+ pre ∧ c.Passes w place) ∨ c = typeAt)
    (hinstance : Source.instanceAfter? type parameters c = some (i, m, d)) : d.offset ≤ place.offset := by
  obtain ⟨tail, htype⟩ := h.type
  obtain ⟨name, after, bracket, inside, close, hname, rfl, hround, henclosed, hends, -, rfl⟩ :=
    instanceAfter?_eq_some hinstance
  rcases h.skipBlank hc with ⟨w, hne, hpre, hw⟩ | hskip
  · obtain ⟨hpass, -, hisName⟩ := passes_ident? hname
    obtain ⟨v, -, hv, -, hafter⟩ := h.stays hw hne hpre hpass hisName.newline_notMem
    have hbracket := h.skipRanges after.rest.length (h.skipBlank (.inl ⟨v, hv, hafter⟩))
    have hclose := h.skipBlank (.inl (h.enclosed? hbracket hround henclosed))
    rcases hends with hends | hends
    · exact offset_le_of_passes (h.advance_one (by decide) hclose hends)
    · exact offset_le_of_passes (h.advance_one (by decide) hclose hends)
  · have hnone : Source.instanceAfter? type parameters c = none := by
      rw [← h.noInstance type parameters]
      unfold Source.instanceAfter?
      rw [hskip, skipBlank_type htype]
    rw [hnone] at hinstance
    cases hinstance

end Opening

/-- A start with nothing past the line leads to an instance in front of the line, or to none. -/
theorem Opening.behind_found {routines : List Routine} {lead : InstanceLead}
    (hplain : (∃ w, w <:+ pre ∧ lead.next.Passes w place) ∨ lead.next = typeAt)
    (hoverridden : ∀ bracket, lead.overrides = some bracket → Front pre place typeAt bracket ∧
      bracket.startsWith '(' = true) :
    (lead.behind routines).offset ≤ place.offset ∨ lead.behind routines = lead.next := by
  cases hf : lead.found? routines with
  | none =>
    refine .inr ?_
    rw [InstanceLead.behind, hf]
    rfl
  | some f =>
    obtain ⟨parameters, place, hinstance, hplace⟩ :=
      InstanceLead.instance?_eq_some (InstanceLead.instance?_of_found? hf)
    rw [InstanceLead.behind_of_found? hf]
    rcases hplace with ⟨-, rfl⟩ | ⟨bracket, inside, hsome, henclosed⟩
    · exact .inl (h.instanceAfter? hplain hinstance)
    · obtain ⟨hbracket, hround⟩ := hoverridden bracket hsome
      exact .inl (h.instanceAfter? (.inl (h.enclosed? hbracket hround henclosed)) hinstance)

/-- A single word, with nothing but white space behind it. -/
def LoneWord (cs : List Char) : Prop := ∃ indent word gap, cs = indent ++ (word ++ gap) ∧ IsIndent indent ∧
  word.head?.any isIdentStart = true ∧ IsName word ∧ ∀ x ∈ gap, isBlank x = true

/-- Behind a start of an instantiation in front of the line the search goes on in front of the line as well,
or else only a single word stands between, and it goes on at the module type. -/
theorem Opening.behind_lead {routines : List Routine} {lead : InstanceLead} (hw : c.Passes w place)
    (hne : w ≠ []) (hpre : w <:+ pre) (hlead : instanceLead? c = some lead) :
    (lead.behind routines).offset ≤ place.offset ∨ lead.behind routines = typeAt ∧ LoneWord w := by
  obtain ⟨-, -, after, hname, hshape⟩ := instanceLead?_eq_some hlead
  obtain ⟨indent, hindent, hpassIndent⟩ := passes_skipIndent c
  obtain ⟨u, hu, hpreU, rfl, hrestU⟩ := h.stays hw hne hpre hpassIndent hindent.newline_notMem
  obtain ⟨hpassType, hstarts, hisName⟩ := passes_ident? hname
  obtain ⟨v, hv, hpreV, rfl, hrestV⟩ := h.stays hrestU hu hpreU hpassType hisName.newline_notMem
  have hnext := h.skipBlank (.inl ⟨v, hpreV, hrestV⟩)
  -- the lead is plain, or has overrides behind a hash sign
  rcases hshape with ⟨hnone, hplain⟩ | ⟨bracket, hhash, hbracket, hround, hsome, hopen⟩
  · -- nothing is enclosed, so the name may stand behind the line break: the word is alone
    have hnever : ∀ bracket, lead.overrides = some bracket → Front pre place typeAt bracket ∧
        bracket.startsWith '(' = true := fun bracket hsome => by
      rw [hnone] at hsome
      cases hsome
    rcases hnext with ⟨x, -, hprex, hrest⟩ | htype
    · rw [← hplain] at hrest
      rcases h.behind_found (.inl ⟨x, hprex, hrest⟩) hnever with hle | hbehind
      · exact .inl hle
      · exact .inl (hbehind ▸ offset_le_of_passes ⟨x, hprex, hrest⟩)
    · rw [← hplain] at htype
      refine (h.behind_found (.inr htype) hnever).imp_right fun hbehind => ⟨hbehind.trans htype, ?_⟩
      obtain ⟨gap, hgap, hpassGap, -⟩ := passes_skipBlank after
      rw [← hplain, htype] at hpassGap
      obtain ⟨rfl, -⟩ := hpassGap.eq_of_offset (hrestV.trans h.indent) rfl
      exact ⟨indent, lead.moduleType, v, rfl, hindent, hstarts, hisName,
        fun x hx => hgap x (List.mem_append_left _ hx)⟩
  · -- the hash sign stands in front of the statement, and so does the bracket that it opens
    have hfront : Front pre place typeAt bracket :=
      hbracket ▸ h.skipBlank (.inl (h.advance_one (by decide) hnext hhash))
    have hbehind := h.advance_one (by decide) hfront hround
    rw [← hopen] at hbehind
    refine .inl ((h.behind_found (.inl hbehind) fun bracket' hsome' => ?_).elim id fun hnext =>
      hnext ▸ offset_le_of_passes hbehind)
    rw [hsome] at hsome'
    cases hsome'
    exact ⟨hfront, hround⟩

/-- From a single word in front of an indented line the search goes on behind the start of the line. -/
theorem Opening.behind_loneWord (routines : List Routine) {lead : InstanceLead} (hw : c.Passes w place)
    (hword : LoneWord w) (hindent : s.indent ≠ []) (hlead : instanceLead? c = some lead) :
    place.offset < (lead.behind routines).offset := by
  obtain ⟨indent, word, gap, rfl, hindented, hstarts, hisName, hgap⟩ := hword
  obtain ⟨tail, htype⟩ := h.type
  have htext : c.rest = indent ++ (word ++ ((gap ++ s.indent) ++ (s.moduleType.text ++ tail))) := by
    simpa [htype] using (hw.trans h.indent).text
  obtain ⟨next, hplain, hpass⟩ := instanceLead?_plain (instanceLead?_eq_some hlead).1 htext hindented hstarts
    hisName (fun x hx => (List.mem_append.1 hx).elim (hgap x) (s.indented.blank x))
    (fun he => hindent (List.append_eq_nil_iff.1 he).2) (s.moduleType.head_not_blank _)
    (s.moduleType.head_ne (by decide) _)
  cases hlead.symm.trans hplain
  have hnone : (⟨c.offset, word, none, next⟩ : InstanceLead).overrides = none := rfl
  have hbehind : next.offset ≤ _ := (InstanceLead.reaches_behind_of_plain routines hnone).offset_le
  have hplace := hw.offset
  have hnext := hpass.offset
  have hlength := List.length_pos_iff.2 hindent
  simp only [List.length_append] at hplace hnext
  omega

/-- Outside of brackets, a line with a statement is looked at unless it is indented and the line in front
holds a single word and is looked at itself. -/
theorem Opening.readsLine_iff {body : Cursor} {start : InstanceLead} (hbody : body.Passes pre place)
    (hstart : instanceLead? place = some start) : body.readsLine place.offset = true ↔
      s.indent = [] ∨ ∀ a b, pre = a ++ b → LoneWord b → body.readsLine (body.offset + a.length) = false := by
  rw [Source.readsLine_iff hstart hbody.reaches]
  constructor
  · intro hnone
    -- a word alone on the line would read the type of the statement as the name of its instance
    refine or_iff_not_imp_left.2 fun hindent a b hab hword => ?_
    cases hread : body.readsLine (body.offset + a.length) with
    | false => rfl
    | true =>
      obtain ⟨lead, hlead, hstarts⟩ := List.any_eq_true.1 hread
      obtain ⟨d, hd, hat⟩ := mem_leadsFrom hlead
      obtain ⟨a', ha'⟩ := hd.passes
      obtain ⟨e, he, hb⟩ := (hab ▸ hbody).split
      have hoffset := (instanceLead?_eq_some hat).2.1
      rw [beq_iff_eq] at hstarts
      obtain ⟨-, rfl⟩ := ha'.eq_of_offset he (by rw [← hoffset, hstarts, he.offset])
      have hover := h.behind_loneWord body.routines hb hword hindent hat
      have hlt : d.offset < place.offset := by
        obtain ⟨indent, word, gap, rfl, -, hstarts, -⟩ := hword
        have hplace := hb.offset
        have hne := List.length_pos_iff.2 (ne_nil_of_isIdentStart hstarts)
        simp only [List.length_append] at hplace
        omega
      exact absurd (hnone lead hlead (hoffset ▸ hlt)) (Nat.not_le.2 hover)
  · -- an earlier lead that reaches behind the statement would be such a word
    intro hcase lead hlead hlt
    obtain ⟨d, hd, hat⟩ := mem_leadsFrom hlead
    obtain ⟨a, ha⟩ := hd.passes
    have hoffset := (instanceLead?_eq_some hat).2.1
    obtain ⟨w, rfl, hw⟩ := ha.of_offset_le hbody (by omega)
    have hne := hw.ne_nil_of_lt (hoffset ▸ hlt)
    rcases h.behind_lead hw hne (List.suffix_append a w) hat with hle | ⟨hbehind, hword⟩
    · exact hle
    · rcases hcase with hnone | hnot
      · rw [hbehind, h.indent.offset, hnone]
        exact Nat.le_refl _
      · have hread : body.readsLine (body.offset + a.length) = true :=
          List.any_eq_true.2 ⟨lead, hlead, beq_iff_eq.2 (hoffset.trans ha.offset)⟩
        rw [hnot a w rfl hword] at hread
        cases hread

end

end Instantiation

end RtlAtlas.Source
