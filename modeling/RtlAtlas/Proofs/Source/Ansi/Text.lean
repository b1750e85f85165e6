/-
The make-up of the canonical texts: which characters occur in them, that their brackets are well nested,
and that no reserved word stands where a scan of the text would stop at it.
-/
import RtlAtlas.Proofs.Path.Text
import RtlAtlas.Proofs.Source.Ansi.Basic
import RtlAtlas.Proofs.Source.Declarator

namespace RtlAtlas.Source.Ansi

open RtlAtlas.Text

/-! ## Characters -/

/-- A character of a type, spaces between its words excepted. -/
def isTight (x : Char) : Bool := isPlain x || "[]:+-*".toList.contains x

/-- A character of a line. -/
def isInline (x : Char) : Bool := isTight x || " (),.;".toList.contains x

/-- A character of a file. -/
def isWritten (x : Char) : Bool := isInline x || x == '\n'

theorem isBlank_of_isTight {x : Char} (h : isTight x = true) : isBlank x = false := by
  rw [isTight, Bool.or_eq_true] at h
  rcases h with h | h
  · exact isBlank_of_isPlain h
  · have hall : "[]:+-*".toList.all (!isBlank ·) = true := by decide
    simpa using List.all_eq_true.1 hall x (List.contains_iff_mem.1 h)

theorem all_inline {cs : List Char} (h : cs.all isTight = true) : cs.all isInline = true :=
  List.all_eq_true.2 fun x hx => by rw [isInline, List.all_eq_true.1 h x hx, Bool.true_or]

theorem all_written {cs : List Char} (h : cs.all isInline = true) : cs.all isWritten = true :=
  List.all_eq_true.2 fun x hx => by rw [isWritten, List.all_eq_true.1 h x hx, Bool.true_or]

theorem all_intercalate {p : Char → Bool} {sep : List Char} (hsep : sep.all p = true)
    {ts : List (List Char)} (h : ∀ t ∈ ts, t.all p = true) : (sep.intercalate ts).all p = true :=
  of_intercalate (P := fun cs => cs.all p = true) rfl
    (fun a b ha hb => by simp only [List.all_append, ha, hb, Bool.and_self]) hsep h

theorem Word.tight (w : Word) : w.text.all isTight = true :=
  List.all_eq_true.2 fun x hx => by rw [isTight, w.plain x hx, Bool.true_or]

theorem Bound.tight (b : Bound) : b.text.all isTight = true := by
  have hothers : ∀ o ∈ b.others, (o.1.sign :: o.2.text).all isTight = true := fun o _ => by
    rw [List.all_cons, o.2.tight, Bool.and_true]
    cases o.1 <;> decide
  rw [Bound.text, List.all_append, b.first.tight, List.all_flatMap, Bool.true_and]
  exact List.all_eq_true.2 hothers

theorem Range.tight (r : Range) : r.text.all isTight = true := by
  simp only [Range.text, List.all_cons, List.all_append, r.left.tight, r.right.tight]
  decide

/-- The words of a type are not empty and hold no white space. -/
theorem PortType.tight (t : PortType) : ∀ w ∈ t.words, w ≠ [] ∧ w.all isTight = true := by
  intro w hw
  simp only [PortType.words, List.mem_append, Option.mem_toList, Option.map_eq_some_iff] at hw
  rcases hw with ⟨net, -, rfl⟩ | ⟨r, -, rfl⟩
  · cases net <;> decide
  · exact ⟨List.cons_ne_nil _ _, r.tight⟩

theorem PortType.inline_lead (t : PortType) : t.lead.all isInline = true := by
  rw [PortType.lead, List.all_flatMap, List.all_eq_true]
  intro w hw
  rw [List.all_append, all_inline (t.tight w hw).2]
  decide

theorem PortEntry.inline_lead (e : PortEntry) : e.lead.all isInline = true := by
  unfold PortEntry.lead
  cases e.head with
  | none => rfl
  | some h =>
    simp only [Option.map_some, Option.getD_some, PortHead.text, List.all_append, List.all_cons,
      h.type.inline_lead]
    cases h.direction <;> decide

theorem PortEntry.inline (e : PortEntry) : e.text.all isInline = true := by
  rw [PortEntry.text, List.all_append, e.inline_lead, all_inline e.name.tight, Bool.and_self]

theorem Binding.inline (b : Binding) : b.text.all isInline = true := by
  simp only [Binding.text, List.all_cons, List.all_append, all_inline b.port.tight,
    all_inline b.signal.tight]
  decide

theorem Cell.inline_bindingList (c : Cell) : c.bindingList.all isInline = true := by
  refine all_intercalate (by decide) fun t ht => ?_
  obtain ⟨b, -, rfl⟩ := List.mem_map.1 ht
  exact b.inline

theorem Cell.written (c : Cell) : c.text.all isWritten = true := by
  simp only [Cell.text, List.all_cons, List.all_append, all_written (all_inline c.moduleType.tight),
    all_written (all_inline c.name.tight), all_written c.inline_bindingList]
  decide

theorem written_portList (ports : List PortEntry) : (portList ports).all isWritten = true := by
  have hlines : ∀ t ∈ ports.map (fun e => '\n' :: ' ' :: ' ' :: e.text), t.all isWritten = true := by
    intro t ht
    obtain ⟨e, -, rfl⟩ := List.mem_map.1 ht
    simp only [List.all_cons, all_written e.inline]
    decide
  rw [portList, List.all_append, all_intercalate (by decide) hlines]
  decide

theorem written_cellList (cells : List Cell) : (cellList cells).all isWritten = true := by
  rw [cellList, List.all_append, List.all_flatMap, List.all_eq_true.2 fun c _ => c.written]
  decide

/-- The characters of a file with the given modules. -/
theorem written_render (ms : List Module) : (render ms).all isWritten = true := by
  have hopen : (spell "module").all isWritten = true := by decide
  have hclose : (spell "endmodule").all isWritten = true := by decide
  rw [render, List.all_flatMap, List.all_eq_true]
  intro m _
  simp only [Module.text, hopen, hclose, List.all_cons, List.all_append, all_written (all_inline m.name.tight),
    written_portList, written_cellList]
  decide

/-! ## Brackets -/

theorem Word.nested (w : Word) : Nested Kept w.text := nested_plain w.plain

theorem nested_char {out : Char → Prop} {x : Char} (hx : nesting x = 0) (hout : out x) :
    Nested out [x] := .char hx hout .nil

theorem Bound.nested (b : Bound) : Nested Kept b.text := by
  have hsign : ∀ o : Operator, nesting o.sign = 0 ∧ Kept o.sign := fun o => by cases o <;> decide
  exact b.first.nested.append (.flatMap fun o _ => .char (hsign o.1).1 (hsign o.1).2 o.2.nested)

theorem Range.nested (r : Range) : Nested Kept r.text := by
  have hinside : Nested (fun _ => True) (r.left.text ++ (':' :: r.right.text)) :=
    (r.left.nested.append (.char (by decide) (by decide) r.right.nested)).mono
      fun _ _ => trivial
  have hgroup : Nested Kept ('[' :: ((r.left.text ++ (':' :: r.right.text)) ++ ']' :: [])) :=
    .group (by decide) hinside .nil
  rw [List.append_assoc, List.cons_append] at hgroup
  exact hgroup

theorem PortType.nested_lead (t : PortType) : Nested Kept t.lead := by
  refine .flatMap fun w hw => ?_
  have hspace : Nested Kept [' '] := nested_char (by decide) (by decide)
  simp only [PortType.words, List.mem_append, Option.mem_toList, Option.map_eq_some_iff] at hw
  rcases hw with ⟨net, -, rfl⟩ | ⟨r, -, rfl⟩
  · have hplain : ∀ x ∈ spell net.word, isPlain x = true :=
      List.all_eq_true.1 (by cases net <;> decide)
    exact (nested_plain hplain).append hspace
  · exact r.nested.append hspace

theorem PortHead.nested (h : PortHead) : Nested Kept h.text := by
  have hplain : ∀ x ∈ spell h.direction.word, isPlain x = true :=
    List.all_eq_true.1 (by cases h.direction <;> decide)
  exact (nested_plain hplain).append (.char (by decide) (by decide) h.type.nested_lead)

theorem PortEntry.nested_lead (e : PortEntry) : Nested Kept e.lead := by
  unfold PortEntry.lead
  cases e.head with
  | none => exact .nil
  | some h => exact h.nested

theorem PortEntry.nested (e : PortEntry) : Nested Kept e.text := e.nested_lead.append e.name.nested

theorem Binding.nested (b : Binding) : Nested Kept b.text :=
  .char (by decide) (by decide)
    (b.port.nested.append (.group (by decide) (b.signal.nested.mono fun _ _ => trivial) .nil))

theorem nested_intercalate {sep : List Char} (hsep : Nested (fun _ => True) sep)
    {ts : List (List Char)} (h : ∀ t ∈ ts, Nested (fun _ => True) t) :
    Nested (fun _ => True) (sep.intercalate ts) :=
  of_intercalate .nil (fun _ _ => .append) hsep h

theorem Cell.nested_bindingList (c : Cell) : Nested (fun _ => True) c.bindingList := by
  refine nested_intercalate (.char (by decide) trivial (nested_char (by decide) trivial)) fun t ht => ?_
  obtain ⟨b, -, rfl⟩ := List.mem_map.1 ht
  exact b.nested.mono fun _ _ => trivial

theorem nested_portList (ports : List PortEntry) : Nested (fun _ => True) (portList ports) := by
  refine Nested.append (nested_intercalate (nested_char (by decide) trivial) fun t ht => ?_)
    (nested_char (by decide) trivial)
  obtain ⟨e, -, rfl⟩ := List.mem_map.1 ht
  exact .char (by decide) trivial (.char (by decide) trivial (.char (by decide) trivial
    (e.nested.mono fun _ _ => trivial)))

/-! ## Words -/

section

variable {sort : List Char → Bool} {x : Char} {cs : List Char}

theorem Word.without (hsort : ∀ w, sort w = true → isReserved w = true) (w : Word)
    (hx : isWord x = false) (h : Without sort (x :: cs)) : Without sort (w.text ++ x :: cs) := by
  refine .word w.plain ?_ hx h
  cases hw : sort w.text with
  | false => rfl
  | true => rw [← w.free, hsort _ hw]

theorem Bound.without (hsort : ∀ w, sort w = true → isReserved w = true) (b : Bound)
    (hx : isWord x = false) (h : Without sort (x :: cs)) : Without sort (b.text ++ x :: cs) := by
  obtain ⟨first, others⟩ := b
  have hsign : ∀ o : Operator, isWord o.sign = false := fun o => by cases o <;> decide
  rw [Bound.text, List.append_assoc]
  induction others generalizing first with
  | nil => exact first.without hsort hx h
  | cons o others ih =>
    rw [List.flatMap_cons, List.cons_append, List.cons_append, List.append_assoc]
    exact first.without hsort (hsign o.1) (.mark (hsign o.1) (ih o.2))

theorem Range.without (hsort : ∀ w, sort w = true → isReserved w = true) (r : Range) :
    Without sort r.text :=
  .mark (by decide) (r.left.without hsort (by decide) (.mark (by decide)
    (r.right.without hsort (by decide) (.mark (by decide) .nil))))

theorem Binding.without (hsort : ∀ w, sort w = true → isReserved w = true) (b : Binding) :
    Without sort b.text :=
  .mark (by decide) (b.port.without hsort (by decide) (.mark (by decide)
    (b.signal.without hsort (by decide) (.mark (by decide) .nil))))

theorem Cell.without (hsort : ∀ w, sort w = true → isReserved w = true) (c : Cell) :
    Without sort c.text := by
  have hlist : Without sort c.bindingList := by
    refine of_intercalate .nil (fun _ _ => .append) (.mark (by decide) (.mark (by decide) .nil))
      fun t ht => ?_
    obtain ⟨b, -, rfl⟩ := List.mem_map.1 ht
    exact b.without hsort
  have hend : Without sort (c.bindingList ++ [')', ';']) :=
    hlist.append (.mark (by decide) (.mark (by decide) .nil))
  have hname : Without sort (c.name.text ++ ' ' :: '(' :: (c.bindingList ++ [')', ';'])) :=
    c.name.without hsort (by decide) (.mark (by decide) (.mark (by decide) hend))
  exact .mark (by decide) (.mark (by decide) (.mark (by decide)
    (c.moduleType.without hsort (by decide) (.mark (by decide) hname))))

/-- No reserved word stands in the lines of the instances. -/
theorem without_cellList (hsort : ∀ w, sort w = true → isReserved w = true) (cells : List Cell) :
    Without sort (cellList cells) :=
  (Without.flatMap fun c _ => c.without hsort).append (.mark (by decide) .nil)

end

/-- The word that ends a module. -/
def isClosing (word : List Char) : Bool := word == spell "endmodule"

theorem reserved_of_isClosing (w : List Char) (h : isClosing w = true) : isReserved w = true := by
  rw [beq_iff_eq.1 h]
  decide +kernel

/-- The words in front of a name do not end a module. -/
theorem PortEntry.without_lead (e : PortEntry) : Without isClosing e.lead := by
  have hkeyword : ∀ {w : String}, (spell w).all isPlain = true → isClosing (spell w) = false →
      Without isClosing (spell w ++ [' ']) := fun hplain hw =>
    .word (List.all_eq_true.1 hplain) hw (by decide) (.mark (by decide) .nil)
  have htype : ∀ t : PortType, Without isClosing t.lead := by
    intro t
    refine .flatMap fun w hw => ?_
    simp only [PortType.words, List.mem_append, Option.mem_toList, Option.map_eq_some_iff] at hw
    rcases hw with ⟨net, -, rfl⟩ | ⟨r, -, rfl⟩
    · cases net <;> exact hkeyword (by decide) (by decide)
    · exact (r.without reserved_of_isClosing).append (.mark (by decide) .nil)
  unfold PortEntry.lead
  cases e.head with
  | none => exact .nil
  | some h =>
    have hdirection : Without isClosing (spell h.direction.word ++ [' ']) := by
      cases h.direction <;> exact hkeyword (by decide) (by decide)
    have := hdirection.append (htype h.type)
    rwa [List.append_assoc] at this

theorem portList_cons_cons (e f : PortEntry) (es : List PortEntry) :
    portList (e :: f :: es) = '\n' :: ' ' :: ' ' :: (e.text ++ ',' :: portList (f :: es)) := by
  simp [portList, List.intercalate_cons_cons]

theorem portList_singleton (e : PortEntry) :
    portList [e] = '\n' :: ' ' :: ' ' :: (e.text ++ ['\n']) := by
  rw [portList, List.map_singleton, List.intercalate_singleton]
  rfl

/-- No word that ends a module stands in the lines of the ports. -/
theorem without_portList : ∀ ports : List PortEntry, Without isClosing (portList ports)
  | [] => .mark (by decide) .nil
  | [e] => by
    rw [portList_singleton, PortEntry.text, List.append_assoc]
    have hname : Without isClosing (e.name.text ++ ['\n']) :=
      e.name.without reserved_of_isClosing (by decide) (.mark (by decide) .nil)
    exact .mark (by decide) (.mark (by decide) (.mark (by decide) (e.without_lead.append hname)))
  | e :: f :: ports => by
    rw [portList_cons_cons, PortEntry.text, List.append_assoc]
    have hname : Without isClosing (e.name.text ++ ',' :: portList (f :: ports)) :=
      e.name.without reserved_of_isClosing (by decide) (.mark (by decide) (without_portList (f :: ports)))
    exact .mark (by decide) (.mark (by decide) (.mark (by decide) (e.without_lead.append hname)))

/-! ## Lines -/

theorem count_inline {cs : List Char} (h : cs.all isInline = true) : cs.count '\n' = 0 := by
  rw [List.count_eq_zero]
  exact fun hmem => absurd (List.all_eq_true.1 h _ hmem) (by decide)

/-- An offset in a line behind its first characters is on that line. -/
theorem lineOf_inline (pre post : List Char) {line : List Char} (hline : line.all isInline = true) :
    lineOf (pre ++ '\n' :: (line ++ post)) (pre.length + (line.length + 1)) = pre.count '\n' + 2 := by
  have h := lineOf_append (pre ++ '\n' :: line) post
  rw [List.count_append, List.count_cons_self, count_inline hline, List.length_append,
    List.append_assoc] at h
  exact h

theorem count_portList : ∀ es : List PortEntry, (portList es).count '\n' = es.length + 1
  | [] => rfl
  | [e] => by
    rw [portList_singleton]
    simp [count_inline e.inline]
  | e :: f :: es => by
    rw [portList_cons_cons, List.count_cons_self, List.count_cons_of_ne (by decide),
      List.count_cons_of_ne (by decide), List.count_append, count_inline e.inline,
      List.count_cons_of_ne (by decide), count_portList (f :: es)]
    simp only [List.length_cons]
    omega

theorem Cell.count_text (c : Cell) : c.text.count '\n' = 1 := by
  rw [Cell.text, List.count_cons_self, List.count_cons_of_ne (by decide), List.count_cons_of_ne (by decide),
    List.count_append, count_inline (all_inline c.moduleType.tight), List.count_cons_of_ne (by decide),
    List.count_append, count_inline (all_inline c.name.tight), List.count_cons_of_ne (by decide),
    List.count_cons_of_ne (by decide), List.count_append, count_inline c.inline_bindingList]
  rfl

theorem count_cellList : ∀ cells : List Cell, (cellList cells).count '\n' = cells.length + 1
  | [] => rfl
  | c :: cells => by
    have h := count_cellList cells
    rw [cellList] at h ⊢
    rw [List.flatMap_cons, List.append_assoc, List.count_append, c.count_text, h, List.length_cons]
    omega

end RtlAtlas.Source.Ansi
