/-
What a scan looks for, in two texts that are equal but for quiet literals. Every pattern begins with a
word that a quiet literal does not hold, or with the start of a line, so none matches within one; and
where a pattern matches, it reads the same statement, routine or instance in both texts.
-/
import RtlAtlas.Proofs.Source.Literal.Binding
import RtlAtlas.Proofs.Source.Literal.Declaration

namespace RtlAtlas.Source

open RtlAtlas.Text

variable {places : Nat → Prop} {c c' d d' : Cursor} {words : List String}

/-! ## Where the patterns match -/

theorem word?_eq_none (hwords : ∀ w ∈ words, w ∈ scannedWords) (h : c.word? scannedWords = none) :
    c.word? words = none := by
  unfold Cursor.word? at h ⊢
  split at h
  · rename_i hs
    rw [if_pos hs, List.findSome?_eq_none_iff]
    exact fun w hw => List.findSome?_eq_none_iff.1 h w (hwords w hw)
  · rename_i hs
    rw [if_neg hs]

theorem led_statement? (hwords : ∀ w ∈ words, w ∈ scannedWords) : Cursor.Led (statement? words) := by
  intro c h _
  unfold statement?
  rw [word?_eq_none hwords h]

theorem led_lineStatement? : Cursor.Led (lineStatement? words) := by
  intro c _ h
  unfold lineStatement?
  rw [h]
  rfl

theorem led_routine? : Cursor.Led routine? := by
  intro c h _
  unfold routine?
  rw [word?_eq_none (by decide) h]

theorem led_instanceLead? : Cursor.Led instanceLead? := by
  intro c _ h
  unfold instanceLead?
  rw [h]
  rfl

/-- White space ends the word in front of it. -/
theorem afterWord?_of_blank {word : String} (h : afterWordAndBlank? word c = some d) :
    ∃ e, c.afterWord? word = some e := by
  unfold afterWordAndBlank? at h
  split at h
  · cases h
  · rename_i rest hrest
    simp only at h
    split at h
    · rename_i hlt
      refine ⟨c.advance word.length, ?_⟩
      have hgap : (c.advance word.length).rest = rest := by
        rw [Cursor.rest_advance, dropLead?_eq_some.1 hrest, ← String.length_toList, List.drop_left]
      have hblank : rest.head?.any isWord = false := by
        cases rest with
        | nil => rfl
        | cons x rest =>
          cases hx : isBlank x with
          | false =>
            rw [Cursor.skipBlank_of_head (by rw [hgap]; exact hx)] at hlt
            exact absurd hlt (Nat.lt_irrefl _)
          | true =>
            have := isIdentRest_of_isBlank hx
            rw [isIdentRest, Bool.or_eq_false_iff] at this
            exact this.1
      unfold Cursor.afterWord?
      rw [hrest]
      simp [hblank]
    · cases h

theorem led_moduleHead? : Cursor.Led moduleHead? := by
  intro c h _
  unfold moduleHead?
  split
  · rfl
  · rename_i hstart
    have hnone : ["module", "macromodule"].findSome? (afterWordAndBlank? · c) = none := by
      refine List.findSome?_eq_none_iff.2 fun w hw => ?_
      cases ha : afterWordAndBlank? w c with
      | none => rfl
      | some d =>
        -- the white space behind the word makes it a word of its own
        obtain ⟨e, he⟩ := afterWord?_of_blank ha
        have hwords : c.word? ["module", "macromodule"] = none := word?_eq_none (by decide) h
        unfold Cursor.word? at hwords
        rw [if_pos (by simpa using hstart)] at hwords
        have := List.findSome?_eq_none_iff.1 hwords w hw
        rw [he] at this
        cases this
    rw [hnone]
    rfl

/-! ## Statements -/

theorem statement?_alike (hq : ∀ w ∈ words, '"' ∉ w.toList) (h : c.Alike places c') :
    Option.Rel (Statement.Alike places) (statement? words c) (statement? words c') := by
  have hword := h.word? hq
  unfold statement?
  generalize c.word? words = r, c'.word? words = r' at hword
  cases hword with
  | none => exact .none
  | @some a a' ha =>
    obtain ⟨keyword, after⟩ := a
    obtain ⟨keyword', after'⟩ := a'
    obtain ⟨rfl, hmoves⟩ := ha
    have hafter := hmoves.alike h
    refine rel_map hafter.toSemicolon? ?_
    rintro ⟨body, next⟩ ⟨body', next'⟩ ⟨hbody, hnext⟩
    exact ⟨h.offset_eq, rfl, ⟨hafter.offset_eq, hbody⟩, hnext.alike hafter⟩

theorem skipIndent_moves (h : c.Alike places c') : c.Moves places c' (skipIndent c) (skipIndent c') :=
  h.run (by decide)

theorem lineStatement?_alike (hq : ∀ w ∈ words, '"' ∉ w.toList) (h : c.Alike places c') :
    Option.Rel (Statement.Alike places) (lineStatement? words c) (lineStatement? words c') := by
  have hstatement := statement?_alike hq ((skipIndent_moves h).alike h)
  unfold lineStatement?
  rw [h.atLineStart_eq]
  split
  · exact rel_map hstatement fun s s' hs => ⟨h.offset_eq, hs.keyword_eq, hs.body, hs.next⟩
  · exact .none

/-! ## Functions and tasks -/

/-- Two routines with the same name at the same place. -/
structure Routine.Alike (places : Nat → Prop) (r r' : Routine) : Prop where
  start_eq : r.start = r'.start
  stop_eq : r.stop = r'.stop
  kind_eq : r.kind = r'.kind
  name_eq : r.name = r'.name
  next : r.next.Alike places r'.next

theorem Routine.Alike.mark?_eq {r r' : Routine} (h : r.Alike places r') : r.mark? = r'.mark? := by
  unfold Routine.mark?
  rw [h.start_eq, h.stop_eq, h.kind_eq, h.name_eq]

theorem inRoutine_eq {rs rs' : List Routine} (h : List.Forall₂ (Routine.Alike places) rs rs') (o : Nat) :
    inRoutine rs o = inRoutine rs' o := by
  unfold inRoutine
  induction h with
  | nil => rfl
  | cons hr _ ih => rw [List.any_cons, List.any_cons, hr.start_eq, hr.stop_eq, ih]

/-- The end of a routine: behind the word that ends it, or the end of the text. -/
def routineEnd (keyword : String) (after : Cursor) : Cursor :=
  match after.search (·.word? ["end" ++ keyword]) with
  | some (_, next) => next
  | none => after.advance after.rest.length

theorem routineEnd_moves {keyword : String} (hkeyword : keyword ∈ ["function", "task"])
    (h : c.Alike places c') :
    c.Moves places c' (routineEnd keyword c) (routineEnd keyword c') := by
  have hend : ∀ w ∈ ["end" ++ keyword], w ∈ scannedWords ∧ '"' ∉ w.toList := by
    revert hkeyword keyword
    decide
  have hfound := h.search (fun _ hnone _ => word?_eq_none (fun w hw => (hend w hw).1) hnone)
    fun d d' hd => hd.word? fun w hw => (hend w hw).2
  unfold routineEnd
  generalize c.search _ = r, c'.search _ = r' at hfound
  cases hfound with
  | none => exact h.end
  | @some a a' ha =>
    obtain ⟨d, d', hd, -, hnext⟩ := ha
    exact hd.trans hnext

/-- The part of a routine in which its name is declared. -/
def routineHead (keyword : String) (after : Cursor) : List Char :=
  (after.upTo (routineEnd keyword after).offset).rest.takeWhile fun x => x != '(' && x != ';'

theorem routine?_eq (c : Cursor) : routine? c = (c.word? ["function", "task"]).map fun r =>
    ⟨c.offset, (routineEnd r.1 r.2).offset, if r.1 == "function" then .function else .task,
      declaredName (routineHead r.1 r.2), routineEnd r.1 r.2⟩ := by
  unfold routine? routineHead routineEnd
  cases c.word? ["function", "task"] <;> rfl

theorem routineHead_eq {keyword : String} (hkeyword : keyword ∈ ["function", "task"])
    (h : c.Alike places c') :
    declaredName (routineHead keyword c) = declaredName (routineHead keyword c') := by
  have hpass : ∀ {w : List Char}, Quiet w → ∀ y ∈ w, (y != '(' && y != ';') = true := by
    intro w hw y hy
    rw [hw.forall_ne (x := '(') (by decide) y hy, hw.forall_ne (x := ';') (by decide) y hy]
    rfl
  have hhead := ((routineEnd_moves hkeyword h).upTo h).rest.takeWhile (Swap.both hpass) (by decide)
  exact hhead.1.declaredName_eq

theorem routine?_alike (h : c.Alike places c') :
    Option.Rel (Routine.Alike places) (routine? c) (routine? c') := by
  have hword := h.word? (show ∀ w ∈ ["function", "task"], '"' ∉ w.toList by decide)
  rw [routine?_eq, routine?_eq]
  generalize hr : c.word? ["function", "task"] = r, c'.word? ["function", "task"] = r' at hword
  cases hword with
  | none => exact .none
  | @some a a' ha =>
    obtain ⟨keyword, after⟩ := a
    obtain ⟨keyword', after'⟩ := a'
    obtain rfl : keyword = keyword' := ha.1
    have hmoves : c.Moves places c' after after' := ha.2
    have hkeyword := (rest_of_word? hr).1
    have hafter := hmoves.alike h
    have hnext := (routineEnd_moves hkeyword hafter).alike hafter
    refine .some ⟨h.offset_eq, hnext.offset_eq, rfl, ?_, hnext⟩
    simpa only using routineHead_eq hkeyword hafter

/-! ## Instances -/

/-- Two starts of an instantiation with the same module type at the same place. -/
structure InstanceLead.Alike (places : Nat → Prop) (l l' : InstanceLead) : Prop where
  start_eq : l.start = l'.start
  type_eq : l.moduleType = l'.moduleType
  overrides : Option.Rel (Cursor.Alike places) l.overrides l'.overrides
  next : l.next.Alike places l'.next

theorem instanceLead?_alike (h : c.Alike places c') :
    Option.Rel (InstanceLead.Alike places) (instanceLead? c) (instanceLead? c') := by
  have hindent := (skipIndent_moves h).alike h
  have hname := hindent.ident?
  unfold instanceLead?
  rw [h.atLineStart_eq]
  split
  · exact .none
  · generalize (skipIndent c).ident? = r, (skipIndent c').ident? = r' at hname
    cases hname with
    | none => exact .none
    | @some a a' ha =>
      obtain ⟨moduleType, after⟩ := a
      obtain ⟨moduleType', after'⟩ := a'
      obtain ⟨rfl, hmoves⟩ := ha
      have hafter := hmoves.alike hindent
      have hgap := hafter.skipBlank.alike hafter
      simp only [hgap.startsWith_eq]
      cases hmark : after'.skipBlank.startsWith '#' with
      | false => exact .some ⟨h.offset_eq, rfl, .none, hgap⟩
      | true =>
        have hbehind := (hgap.advance_one (hgap.startsWith_eq '#' ▸ hmark) (by decide)).alike hgap
        have hbracket := hbehind.skipBlank.alike hbehind
        simp only [hbracket.startsWith_eq, Bool.true_and]
        split
        · rename_i hopen
          have hinside := hbracket.advance_one (hbracket.startsWith_eq '(' ▸ hopen) (by decide)
          exact .some ⟨h.offset_eq, rfl, .some hbracket, hinside.alike hbracket⟩
        · exact .some ⟨h.offset_eq, rfl, .none, hgap⟩

theorem skipRanges_alike : ∀ (fuel : Nat) {c c' : Cursor}, c.Alike places c' →
    (skipRanges fuel c).Alike places (skipRanges fuel c')
  | 0, _, _, h => h
  | fuel + 1, c, c', h => by
    unfold skipRanges
    rw [h.startsWith_eq]
    split
    · rename_i hopen
      have hone := h.advance_one (h.startsWith_eq '[' ▸ hopen) (by decide)
      have hinner := hone.alike h
      obtain ⟨hinside, hnext⟩ := hinner.past (x := ']') (fun hw => hw.notMem (by decide)) (by decide)
      have hlength := hinside.length_eq Swap.lengths
      rw [Cursor.rest_advance, Cursor.rest_advance] at hlength
      rw [Cursor.rest_advance, Cursor.advance_advance, Cursor.advance_advance, List.length_drop] at hnext
      simp only [← hlength, ← h.length_eq]
      split
      · rename_i hlt
        have hgroup := (hnext (by omega)).alike hinner
        rw [Nat.add_comm 1] at hgroup
        exact skipRanges_alike fuel (hgroup.skipBlank.alike hgroup)
      · exact h
    · exact h

/-- Two instances of the same name and type at the same place, bound to expressions that differ in
literals at most. -/
structure InstanceMark.UpToLiterals (i i' : InstanceMark) : Prop where
  name_eq : i.name = i'.name
  type_eq : i.moduleType = i'.moduleType
  start_eq : i.start = i'.start
  connections : List.Forall₂ Connection.UpToLiterals i.connections i'.connections
  parameters : List.Forall₂ (OrderedMap.SameKey SameExpression) i.parameters.entries
    i'.parameters.entries

/-- Two instances that were read alike, with the same mark and corresponding places behind them. -/
structure SameInstance (places : Nat → Prop) (r r' : InstanceMark × Mark × Cursor) : Prop where
  inst : r.1.UpToLiterals r'.1
  mark_eq : r.2.1 = r'.2.1
  next : r.2.2.Alike places r'.2.2

theorem instanceAfter?_alike {parameters parameters' : OrderedMap String String}
    (moduleType : List Char) (h : c.Alike places c')
    (hparameters : List.Forall₂ (OrderedMap.SameKey SameExpression) parameters.entries
      parameters'.entries) :
    Option.Rel (SameInstance places) (instanceAfter? moduleType parameters c)
      (instanceAfter? moduleType parameters' c') := by
  have hnameAt := h.skipBlank.alike h
  have hname := hnameAt.ident?
  unfold instanceAfter?
  simp only
  generalize c.skipBlank.ident? = r, c'.skipBlank.ident? = r' at hname
  cases hname with
  | none => exact .none
  | @some a a' ha =>
    obtain ⟨name, after⟩ := a
    obtain ⟨name', after'⟩ := a'
    obtain ⟨rfl, hmoves⟩ := ha
    have hafter := hmoves.alike hnameAt
    have hbracket := skipRanges_alike after.rest.length (hafter.skipBlank.alike hafter)
    simp only [← hafter.length_eq, hbracket.startsWith_eq]
    -- a bracket must stand behind the name
    split
    · exact .none
    · have henclosed := hbracket.enclosed?
      generalize (skipRanges after.rest.length after.skipBlank).enclosed? = s,
        (skipRanges after.rest.length after'.skipBlank).enclosed? = s' at henclosed
      cases henclosed with
      | none => exact .none
      | @some b b' hb =>
        obtain ⟨inside, close⟩ := b
        obtain ⟨inside', close'⟩ := b'
        obtain ⟨hinside, hclosed⟩ := hb
        have hclose : close.Alike places close' := hclosed.alike hbracket
        have htail := hclose.skipBlank.alike hclose
        simp only [htail.startsWith_eq]
        -- and a semicolon or a comma behind the list
        split
        · rename_i hend
          have hnext : (close.skipBlank.advance 1).Alike places (close'.skipBlank.advance 1) := by
            rcases Bool.or_eq_true_iff.1 hend with hend | hend
            · exact (htail.advance_one (htail.startsWith_eq ';' ▸ hend) (by decide)).alike htail
            · exact (htail.advance_one (htail.startsWith_eq ',' ▸ hend) (by decide)).alike htail
          exact .some ⟨⟨rfl, rfl, hnameAt.offset_eq, hinside.parseConnections, hparameters⟩,
            by simp only [hnameAt.offset_eq, hclose.offset_eq], hnext⟩
        · exact .none

theorem InstanceLead.Alike.instance? {l l' : InstanceLead} (h : l.Alike places l') :
    Option.Rel (SameInstance places) l.instance? l'.instance? := by
  have hoverrides := h.overrides
  unfold InstanceLead.instance?
  rw [h.type_eq]
  generalize l.overrides = r, l'.overrides = r' at hoverrides
  cases hoverrides with
  | none => exact instanceAfter?_alike _ h.next .nil
  | @some bracket bracket' hbracket =>
    have henclosed := hbracket.enclosed?
    simp only
    generalize bracket.enclosed? = s, bracket'.enclosed? = s' at henclosed
    cases henclosed with
    | none => exact .none
    | some hb => exact instanceAfter?_alike _ (hb.2.alike hbracket) hb.1.parseBindings

/-- Two instances that were read alike, with the same mark. -/
structure SameInstanceMark (r r' : InstanceMark × Mark) : Prop where
  inst : r.1.UpToLiterals r'.1
  mark_eq : r.2 = r'.2

theorem instancesFrom_alike {rs rs' : List Routine} (hrs : List.Forall₂ (Routine.Alike places) rs rs') :
    ∀ (fuel : Nat) {c c' : Cursor}, c.Alike places c' →
      List.Forall₂ SameInstanceMark (instancesFrom rs fuel c) (instancesFrom rs' fuel c')
  | 0, _, _, _ => .nil
  | fuel + 1, c, c', h => by
    have hfound := h.search led_instanceLead? fun _ _ hd => instanceLead?_alike hd
    unfold instancesFrom
    generalize c.search instanceLead? = r, c'.search instanceLead? = r' at hfound
    cases hfound with
    | none => exact .nil
    | @some l l' hl =>
      obtain ⟨-, -, -, hl⟩ := hl
      have hinstance : Option.Rel (SameInstance places)
          (if isKeyword l.moduleType || inRoutine rs l.start then none else l.instance?)
          (if isKeyword l'.moduleType || inRoutine rs' l'.start then none else l'.instance?) := by
        rw [hl.type_eq, hl.start_eq, inRoutine_eq hrs]
        split
        · exact .none
        · exact hl.instance?
      simp only
      generalize (if isKeyword l.moduleType || inRoutine rs l.start then none else l.instance?) = s,
        (if isKeyword l'.moduleType || inRoutine rs' l'.start then none else l'.instance?) = s'
        at hinstance
      cases hinstance with
      | none => exact instancesFrom_alike hrs fuel hl.next
      | some hi => exact .cons ⟨hi.inst, hi.mark_eq⟩ (instancesFrom_alike hrs fuel hi.next)

/-! ## Module heads -/

theorem afterWordAndBlank?_alike {word : String} (hq : '"' ∉ word.toList) (h : c.Alike places c') :
    Option.Rel (Cursor.Alike places) (afterWordAndBlank? word c) (afterWordAndBlank? word c') := by
  have hlead := h.dropLead? hq
  unfold afterWordAndBlank?
  generalize dropLead? word.toList c.rest = r, dropLead? word.toList c'.rest = r' at hlead
  cases hlead with
  | none => exact .none
  | some hr =>
    have hword : c.Moves places c' (c.advance word.length) (c'.advance word.length) :=
      ⟨word.length, rfl, rfl, String.length_toList ▸ hr.2⟩
    have hgap := hword.alike h
    have hafter := hgap.skipBlank.alike hgap
    simp only [hgap.offset_eq, hafter.offset_eq]
    split
    · exact .some hafter
    · exact .none

/-- Two names that were read alike, with corresponding places behind them. -/
def SameName (places : Nat → Prop) (r r' : List Char × Cursor) : Prop :=
  r.1 = r'.1 ∧ r.2.Alike places r'.2

theorem ident?_sameName (h : c.Alike places c') : Option.Rel (SameName places) c.ident? c'.ident? :=
  rel_mono h.ident? fun _ _ hr => ⟨hr.1, hr.2.alike h⟩

theorem moduleName?_alike (h : c.Alike places c') :
    Option.Rel (SameName places) (moduleName? c) (moduleName? c') := by
  have hwords : ∀ w ∈ ["automatic", "static"], '"' ∉ w.toList := by decide
  have hlong : Option.Rel (SameName places)
      ((["automatic", "static"].findSome? (afterWordAndBlank? · c)).bind Cursor.ident?)
      ((["automatic", "static"].findSome? (afterWordAndBlank? · c')).bind Cursor.ident?) :=
    rel_bind (rel_findSome? fun w hw => afterWordAndBlank?_alike (hwords w hw) h)
      fun _ _ hd => ident?_sameName hd
  unfold moduleName?
  generalize (["automatic", "static"].findSome? (afterWordAndBlank? · c)).bind Cursor.ident? = r,
    (["automatic", "static"].findSome? (afterWordAndBlank? · c')).bind Cursor.ident? = r' at hlong
  cases hlong with
  | none => exact ident?_sameName h
  | some hr => exact .some hr

/-- Two heads of modules with the same name at the same place. -/
structure ModuleHead.Alike (places : Nat → Prop) (m m' : ModuleHead) : Prop where
  name_eq : m.name = m'.name
  start_eq : m.start = m'.start
  next : m.next.Alike places m'.next

theorem moduleHead?_alike (h : c.Alike places c') :
    Option.Rel (ModuleHead.Alike places) (moduleHead? c) (moduleHead? c') := by
  have hwords : ∀ w ∈ ["module", "macromodule"], '"' ∉ w.toList := by decide
  have hname : Option.Rel (SameName places)
      ((["module", "macromodule"].findSome? (afterWordAndBlank? · c)).bind moduleName?)
      ((["module", "macromodule"].findSome? (afterWordAndBlank? · c')).bind moduleName?) :=
    rel_bind (rel_findSome? fun w hw => afterWordAndBlank?_alike (hwords w hw) h)
      fun _ _ hd => moduleName?_alike hd
  unfold moduleHead?
  rw [h.atWordStart_eq]
  split
  · exact .none
  · generalize (["module", "macromodule"].findSome? (afterWordAndBlank? · c)).bind moduleName? = r,
      (["module", "macromodule"].findSome? (afterWordAndBlank? · c')).bind moduleName? = r' at hname
    cases hname with
    | none => exact .none
    | some hr => exact .some ⟨hr.1, h.offset_eq, hr.2⟩

end RtlAtlas.Source
