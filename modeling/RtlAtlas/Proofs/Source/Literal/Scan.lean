/-
Scanning two texts that are equal but for quiet literals. If no mark of either text is placed in an
exchanged literal, both texts have the same marks, module by module, and what is bound or typed differs
in literals at most.
-/
import RtlAtlas.Proofs.Source.Found
import RtlAtlas.Proofs.Source.Literal.Pattern

namespace RtlAtlas.Source

open RtlAtlas.Text

variable {places : Nat → Prop} {c c' : Cursor}

/-! ## Headers -/

theorem headerParameters_alike (h : c.Alike places c') :
    (headerParameters c).2.Alike places (headerParameters c').2 ∧
      ((∀ m ∈ (headerParameters c).1, places m.start) →
        (∀ m ∈ (headerParameters c').1, places m.start) →
        (headerParameters c).1 = (headerParameters c').1) := by
  unfold headerParameters
  rw [h.startsWith_eq]
  split
  · rename_i hmark
    have hbehind := (h.advance_one (h.startsWith_eq '#' ▸ hmark) (by decide)).alike h
    have hbracket := hbehind.skipBlank.alike hbehind
    have henclosed := hbracket.enclosed?
    simp only
    generalize (c.advance 1).skipBlank = d, (c'.advance 1).skipBlank = d' at hbracket henclosed
    generalize d.enclosed? = r, d'.enclosed? = r' at henclosed
    cases henclosed with
    | none => exact ⟨h, fun _ _ => rfl⟩
    | some hr =>
      have hafter := hr.2.alike hbracket
      exact ⟨hafter.skipBlank.alike hafter,
        parameterMarks_eq _ ⟨congrArg (· + 1) hbracket.offset_eq, hr.1⟩⟩
  · exact ⟨h, fun _ _ => rfl⟩

theorem headerPortList_alike (h : c.Alike places c') :
    (headerPortList c).2.Alike places (headerPortList c').2 ∧
      List.Forall₂ HeaderPort.SameEntry (headerPortList c).1 (headerPortList c').1 ∧
      ((∀ p ∈ (headerPortList c).1, places p.offset) →
        (∀ p ∈ (headerPortList c').1, places p.offset) →
        List.Forall₂ HeaderPort.Alike (headerPortList c).1 (headerPortList c').1) := by
  unfold headerPortList
  rw [h.startsWith_eq]
  split
  · have henclosed := h.enclosed?
    generalize c.enclosed? = r, c'.enclosed? = r' at henclosed
    cases henclosed with
    | none => exact ⟨h, .nil, fun _ _ => .nil⟩
    | some hr =>
      have hsegments := hr.1.splitFrom 0
      simp only
      unfold headerPorts splitTopLevel
      rw [← h.offset_eq]
      exact ⟨hr.2.alike h, sameEntry_headerPortsFrom hsegments _ _ _,
        headerPortsFrom_alike hsegments (.refl _)⟩
  · exact ⟨h, .nil, fun _ _ => .nil⟩

/-- The place behind the header of a module. -/
theorem body_alike {head head' : ModuleHead} {stop : Nat}
    (h : (head.next.upTo stop).Alike places (head'.next.upTo stop)) :
    (head.body stop).Alike places (head'.body stop) := by
  have hparameters := (headerParameters_alike (h.skipBlank.alike h)).1
  have hlist := (headerPortList_alike hparameters).1
  have hsemicolon := hlist.toSemicolon?
  unfold ModuleHead.body ModuleHead.portList ModuleHead.parameters
  generalize (headerPortList (headerParameters (head.next.upTo stop).skipBlank).2).2 = d at *
  generalize (headerPortList (headerParameters (head'.next.upTo stop).skipBlank).2).2 = d' at *
  generalize d.toSemicolon? = r, d'.toSemicolon? = r' at hsemicolon
  cases hsemicolon with
  | none => exact hlist
  | some hr => exact hr.2.alike hlist

/-! ## Bodies -/

theorem routines_alike (h : c.Alike places c') :
    List.Forall₂ (Routine.Alike places) c.routines c'.routines :=
  h.searchAll led_routine? (fun _ _ hd => routine?_alike hd) fun _ _ hr => hr.next

theorem statements_alike {pattern : Cursor → Option Statement} (hled : Cursor.Led pattern)
    (hread : ∀ d d', d.Alike places d' → Option.Rel (Statement.Alike places) (pattern d) (pattern d'))
    (h : c.Alike places c') :
    List.Forall₂ (Statement.Alike places) (c.statements pattern) (c'.statements pattern) := by
  have hroutines := routines_alike h
  refine List.rel_filter (fun s s' hs => ?_) (h.searchAll hled hread fun _ _ hs => hs.next)
  simp only [hs.start_eq, inRoutine_eq hroutines]

theorem declaredPorts_alike (h : c.Alike places c') (hp : ∀ p ∈ c.declaredPorts, places p.2.start)
    (hp' : ∀ p ∈ c'.declaredPorts, places p.2.start) :
    List.Forall₂ SameMark c.declaredPorts c'.declaredPorts := by
  have hwords : ∀ w ∈ ["input", "output", "inout"], w ∈ scannedWords ∧ '"' ∉ w.toList := by decide
  have hstatements := statements_alike (led_statement? fun w hw => (hwords w hw).1)
    (fun _ _ hd => statement?_alike (fun w hw => (hwords w hw).2) hd) h
  refine List.rel_flatMap (forall₂_mem hstatements) fun s s' hs => ?_
  exact bodyPorts_alike hs.1 (fun p hmem => hp p (List.mem_flatMap.2 ⟨s, hs.2.1, hmem⟩))
    fun p hmem => hp' p (List.mem_flatMap.2 ⟨s', hs.2.2, hmem⟩)

theorem declaredSignals_eq (h : c.Alike places c') (hm : ∀ m ∈ c.declaredSignals, places m.start)
    (hm' : ∀ m ∈ c'.declaredSignals, places m.start) : c.declaredSignals = c'.declaredSignals := by
  have hwords : ∀ w ∈ ["wire", "reg", "logic", "tri", "wand", "wor", "bit"], '"' ∉ w.toList := by
    decide
  have hstatements := statements_alike led_lineStatement?
    (fun _ _ hd => lineStatement?_alike hwords hd) h
  refine flatMap_eq_of_forall₂ (fun s s' hs => ?_) (forall₂_mem hstatements)
  exact signalMarks_eq hs.1 (fun m hmem => hm m (List.mem_flatMap.2 ⟨s, hs.2.1, hmem⟩))
    fun m hmem => hm' m (List.mem_flatMap.2 ⟨s', hs.2.2, hmem⟩)

theorem declaredParameters_eq (h : c.Alike places c')
    (hm : ∀ m ∈ c.declaredParameters, places m.start)
    (hm' : ∀ m ∈ c'.declaredParameters, places m.start) :
    c.declaredParameters = c'.declaredParameters := by
  have hwords : ∀ w ∈ ["parameter", "localparam"], w ∈ scannedWords ∧ '"' ∉ w.toList := by decide
  have hstatements := statements_alike (led_statement? fun w hw => (hwords w hw).1)
    (fun _ _ hd => statement?_alike (fun w hw => (hwords w hw).2) hd) h
  refine flatMap_eq_of_forall₂ (fun s s' hs => ?_) (forall₂_mem hstatements)
  exact parameterMarks_eq _ hs.1.body (fun m hmem => hm m (List.mem_flatMap.2 ⟨s, hs.2.1, hmem⟩))
    fun m hmem => hm' m (List.mem_flatMap.2 ⟨s', hs.2.2, hmem⟩)

theorem declaredInstances_alike (h : c.Alike places c') :
    List.Forall₂ SameInstanceMark c.declaredInstances c'.declaredInstances := by
  unfold Cursor.declaredInstances
  rw [h.length_eq]
  exact instancesFrom_alike (routines_alike h) _ h

/-! ## Modules -/

/-- Two modules with the same marks at the same place, whose ports and instances differ in literals at
most. -/
structure ModuleMark.UpToLiterals (m m' : ModuleMark) : Prop where
  name_eq : m.name = m'.name
  start_eq : m.start = m'.start
  stop_eq : m.stop = m'.stop
  ports : List.Forall₂ Port.UpToLiterals m.ports m'.ports
  marks_eq : m.marks = m'.marks
  instances : List.Forall₂ InstanceMark.UpToLiterals m.instances m'.instances

theorem scanModule_alike {head head' : ModuleHead} {stop : Nat} (h : head.Alike places head')
    (hupTo : (head.next.upTo stop).Alike places (head'.next.upTo stop))
    (hm : ∀ m ∈ (scanModule head stop).marks, places m.start)
    (hm' : ∀ m ∈ (scanModule head' stop).marks, places m.start) :
    (scanModule head stop).UpToLiterals (scanModule head' stop) := by
  obtain ⟨hatPorts, hparameters⟩ := headerParameters_alike (hupTo.skipBlank.alike hupTo)
  obtain ⟨-, hsame, hheader⟩ := headerPortList_alike hatPorts
  have hbody := body_alike hupTo
  have hroutines := routines_alike hbody
  have hinstances := declaredInstances_alike hbody
  rw [scanModule_eq] at hm hm' ⊢
  rw [scanModule_eq]
  simp only [List.forall_mem_append] at hm hm'
  -- each part is compared under what is known of its own marks
  obtain ⟨⟨⟨⟨⟨⟨hparam, -⟩, hport⟩, -⟩, hsignal⟩, hconstant⟩, -⟩ := hm
  obtain ⟨⟨⟨⟨⟨⟨hparam', -⟩, hport'⟩, -⟩, hsignal'⟩, hconstant'⟩, -⟩ := hm'
  obtain ⟨hports, hmarks⟩ := modulePorts_alike hsame hheader (declaredPorts_alike hbody) hport hport'
  refine ⟨h.name_eq, h.start_eq, rfl, hports, ?_, ?_⟩
  · simp only [ModuleHead.parameters, hparameters hparam hparam',
      filterMap_eq_of_forall₂ (fun _ _ hr => hr.mark?_eq) hroutines, ModuleHead.portList, hmarks,
      h.name_eq, h.start_eq, declaredSignals_eq hbody hsignal hsignal',
      declaredParameters_eq hbody hconstant hconstant',
      map_eq_of_forall₂ (fun _ _ hi => hi.mark_eq) hinstances]
  · exact List.forall₂_map_left_iff.2 <| List.forall₂_map_right_iff.2 <|
      hinstances.imp fun _ _ hi => hi.inst

/-- The end of a module: the place of the word that ends it, and the place behind the word. -/
def endModule? (d : Cursor) : Option (Nat × Cursor) :=
  (d.word? ["endmodule"]).map fun (_, next) => (d.offset, next)

theorem led_endModule? : Cursor.Led endModule? := by
  intro c h _
  unfold endModule?
  rw [word?_eq_none (by decide) h]
  rfl

theorem endModule?_alike (h : c.Alike places c') :
    Option.Rel (fun r r' => r.1 = c.offset ∧ r'.1 = c'.offset ∧ r.2.Alike places r'.2) (endModule? c)
      (endModule? c') :=
  rel_map (h.word? (by decide)) fun _ _ hr => ⟨rfl, rfl, hr.2.alike h⟩

theorem scanFrom_alike : ∀ (fuel : Nat) {c c' : Cursor}, c.Alike places c' →
    (∀ part ∈ scanFrom fuel c, ∀ m ∈ part.marks, places m.start) →
    (∀ part ∈ scanFrom fuel c', ∀ m ∈ part.marks, places m.start) →
    List.Forall₂ ModuleMark.UpToLiterals (scanFrom fuel c) (scanFrom fuel c')
  | 0, _, _, _, _, _ => .nil
  | fuel + 1, c, c', h, hm, hm' => by
    have hfound := h.search led_moduleHead? fun _ _ hd => moduleHead?_alike hd
    unfold scanFrom at hm hm' ⊢
    generalize c.search moduleHead? = r, c'.search moduleHead? = r' at hfound hm hm' ⊢
    cases hfound with
    | none => exact .nil
    | @some head head' hhead =>
      obtain ⟨-, -, -, hhead⟩ := hhead
      have hnext := hhead.next
      have hend := hnext.search led_endModule? fun _ _ hd => endModule?_alike hd
      unfold endModule? at hend
      simp only at hm hm' ⊢
      generalize head.next.search _ = s, head'.next.search _ = s' at hend hm hm' ⊢
      cases hend with
      | none =>
        -- both modules reach to the ends of the texts
        have hupTo := hnext.end.upTo hnext
        rw [Cursor.offset_advance, Cursor.offset_advance, Nat.min_self, Nat.min_self,
          ← hnext.offset_eq, ← hnext.length_eq] at hupTo
        rw [← hnext.offset_eq, ← hnext.length_eq] at hm' ⊢
        rw [List.forall_mem_singleton] at hm hm'
        exact .cons (scanModule_alike hhead hupTo hm hm') .nil
      | @some a a' ha =>
        obtain ⟨stop, next⟩ := a
        obtain ⟨stop', next'⟩ := a'
        obtain ⟨d, d', hd, rfl, rfl, hafter⟩ := ha
        simp only at hm hm' ⊢
        rw [List.forall_mem_cons] at hm hm'
        have hupTo := hd.upTo hnext
        rw [← (hd.alike hnext).offset_eq] at hupTo hm' ⊢
        exact .cons (scanModule_alike hhead hupTo hm.1 hm'.1)
          (scanFrom_alike fuel hafter hm.2 hm'.2)

/-- Two texts that are equal but for quiet literals in which no mark of either text is placed have the
same marks. -/
theorem scan_alike {text text' : List Char} (h : Exchange (Swap places) 0 text text')
    (hm : ∀ part ∈ scan text, ∀ m ∈ part.marks, places m.start)
    (hm' : ∀ part ∈ scan text', ∀ m ∈ part.marks, places m.start) :
    List.Forall₂ ModuleMark.UpToLiterals (scan text) (scan text') := by
  unfold scan at hm hm' ⊢
  rw [← h.length_eq Swap.lengths] at hm' ⊢
  exact scanFrom_alike _ ⟨rfl, rfl, h⟩ hm hm'

end RtlAtlas.Source
