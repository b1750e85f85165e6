/-
Declarations that hold literals. If no mark of either text is placed in an exchanged literal, both
texts have the same marks, and their ports differ in literals of their types at most.
-/
import RtlAtlas.Proofs.Source.Literal.Cursor
import RtlAtlas.Proofs.Source.Literal.Declarator

namespace RtlAtlas.Source

open RtlAtlas.Text

variable {places : Nat → Prop} {k : Nat} {t t' : List Char}

/-! ## Parts of a segment -/

/-- A declaration that stands in a text behind `a` characters that are neither brackets nor the sign in
front of a value, with white space behind it. -/
def Within (text declaration : List Char) (a : Nat) : Prop :=
  ∃ lead trail, text = lead ++ (declaration ++ trail) ∧ lead.length = a ∧
    (∀ x ∈ lead, nesting x = 0 ∧ x ≠ '=') ∧ ∀ x ∈ trail, isBlank x = true

theorem within_self (text : List Char) : Within text text 0 :=
  ⟨[], [], by simp, rfl, by simp, by simp⟩

theorem within_trim (text : List Char) : Within text (trim text) (text.takeWhile isBlank).length := by
  refine ⟨_, ((trimLeft text).reverse.takeWhile isBlank).reverse, ?_, rfl,
    fun x hx => neutral_of_isBlank (List.mem_takeWhile_imp hx),
    fun x hx => List.mem_takeWhile_imp (List.mem_reverse.1 hx)⟩
  rw [trim, trimRight, ← List.reverse_append, List.takeWhile_append_dropWhile, List.reverse_reverse,
    trimLeft, List.takeWhile_append_dropWhile]

theorem Within.behind {text entry front declaration : List Char} {a : Nat} (h : Within text entry a)
    (hentry : entry = front ++ declaration) (hfront : ∀ x ∈ front, nesting x = 0 ∧ x ≠ '=') :
    Within text declaration (a + front.length) := by
  obtain ⟨lead, trail, rfl, rfl, hlead, htrail⟩ := h
  refine ⟨lead ++ front, trail, by simp [hentry], List.length_append, fun x hx => ?_, htrail⟩
  exact (List.mem_append.1 hx).elim (hlead x) (hfront x)

/-- White space at the end is cut off or left as it is. -/
theorem cutFrom_append_blank : ∀ (a : List Char) {b : List Char} (depth : Int),
    (∀ x ∈ b, isBlank x = true) →
    ∃ b', cutFrom '=' depth (a ++ b) = cutFrom '=' depth a ++ b' ∧ ∀ x ∈ b', isBlank x = true
  | [], b, depth, h => ⟨_, rfl, fun _ hx => h _ ((isPrefix_cutFrom '=' b depth).subset hx)⟩
  | x :: a, b, depth, h => by
    rw [List.cons_append, cutFrom, cutFrom]
    split
    · exact ⟨[], rfl, by simp⟩
    · obtain ⟨b', hb, hblank⟩ := cutFrom_append_blank a (depth + nesting x) h
      exact ⟨b', by rw [hb, List.cons_append], hblank⟩

/-- What is found last in a text is found last when white space follows, and further on when something
stands in front. -/
theorem findLast?_within {name cs trail : List Char} {j : Nat} (hne : name ≠ []) (hname : IsName name)
    (htrail : ∀ x ∈ trail, isBlank x = true) (h : findLast? name cs = some j) (lead : List Char) :
    findLast? name (lead ++ (cs ++ trail)) = some (lead.length + j) := by
  have hj := findLast?_le h
  refine findLast?_eq_some (by simp; omega) ?_ fun m hm _ hp => ?_
  · rw [List.drop_append, List.drop_eq_nil_of_le (by omega), List.nil_append, Nat.add_sub_cancel_left,
      List.drop_append_of_le_length hj]
    exact (prefix_of_findLast? h).trans (List.prefix_append _ _)
  · obtain ⟨i, rfl⟩ := Nat.exists_eq_add_of_le (Nat.le_of_lt (Nat.lt_of_le_of_lt (Nat.le_add_right _ _) hm))
    rw [List.drop_append, List.drop_eq_nil_of_le (by omega), List.nil_append, Nat.add_sub_cancel_left,
      List.drop_append] at hp
    -- a later place would lie in the text, or the name would end in white space
    rcases List.prefix_or_prefix_of_prefix hp (List.prefix_append _ _) with hin | hout
    · have := le_of_findLast? hne h hin
      omega
    · obtain ⟨rest, hrest⟩ := hout
      rw [← hrest, List.prefix_append_right_inj] at hp
      cases rest with
      | nil =>
        rw [List.append_nil] at hrest
        have := le_of_findLast? hne h (j := i) (by rw [hrest])
        omega
      | cons x rest =>
        have hblank : isBlank x = true :=
          htrail x ((List.drop_subset _ _) (hp.subset List.mem_cons_self))
        have hmem : x ∈ name := hrest ▸ List.mem_append_right _ List.mem_cons_self
        have hclear := hname x hmem
        rw [isIdentRest_of_isBlank hblank] at hclear
        cases hclear

/-- The name of a declaration is found in the text around it where it is found in the declaration. -/
theorem nameOffset_within {text declaration name : List Char} {a : Nat}
    (h : Within text declaration a) (hname : declaredName declaration = some name) :
    nameOffset text name = a + nameOffset declaration name := by
  obtain ⟨lead, trail, rfl, rfl, hlead, htrail⟩ := h
  obtain ⟨hstarts, hisName, hin⟩ := declaredName_eq_some hname
  have hne := ne_nil_of_isIdentStart hstarts
  obtain ⟨j, hj⟩ := exists_findLast? hin
  obtain ⟨trail', hcut, htrail'⟩ := cutFrom_append_blank declaration 0 htrail
  have hwhole : cutTopLevel (lead ++ (declaration ++ trail)) '=' =
      lead ++ (cutTopLevel declaration '=' ++ trail') := by
    rw [cutTopLevel, cutFrom_plain hlead, hcut]
    rfl
  rw [nameOffset, nameOffset, hwhole, findLast?_within hne hisName htrail' hj lead, hj]
  rfl

namespace Segment.Alike

variable {s s' : Segment} {d d' name : List Char} {a : Nat}

/-- The offset of a name is the same, if it lies in no exchanged text. -/
theorem nameOffset_eq (hs : s.Alike places s') (hname : declaredName d = some name)
    (hplace : places (s.offset + nameOffset s.text name))
    (hplace' : places (s'.offset + nameOffset s'.text name)) :
    s.offset + nameOffset s.text name = s'.offset + nameOffset s'.text name := by
  obtain ⟨hstarts, hisName, -⟩ := declaredName_eq_some hname
  rw [← hs.offset_eq] at hplace' ⊢
  rw [hs.text.nameOffset_eq hstarts hisName hplace hplace']

/-- The type in front of a name is the same up to literals. -/
theorem typeBefore (hs : s.Alike places s') (hd : Within s.text d a) (hd' : Within s'.text d' a)
    (h : Exchange (Swap places) (s.offset + a) d d') (hname : declaredName d = some name)
    (hplace : places (s.offset + nameOffset s.text name))
    (hplace' : places (s'.offset + nameOffset s'.text name)) :
    UpToLiterals (typeBefore d name) (typeBefore d' name) := by
  obtain ⟨hstarts, hisName, -⟩ := declaredName_eq_some hname
  rw [nameOffset_within hd hname, ← Nat.add_assoc] at hplace
  rw [nameOffset_within hd' (h.declaredName_eq ▸ hname), ← hs.offset_eq, ← Nat.add_assoc] at hplace'
  exact h.typeBefore hstarts hisName hplace hplace'

end Segment.Alike

/-! ## Marks -/

section

variable {s s' : Segment} {d d' : List Char} {kind : SymbolKind} {nodeType : String}

theorem declarationMark?_eq (hs : s.Alike places s') (hname : declaredName d = declaredName d')
    (hm : ∀ m, declarationMark? kind nodeType s d = some m → places m.start)
    (hm' : ∀ m, declarationMark? kind nodeType s' d' = some m → places m.start) :
    declarationMark? kind nodeType s d = declarationMark? kind nodeType s' d' := by
  unfold declarationMark? at hm hm' ⊢
  rw [← hname] at hm' ⊢
  cases hd : declaredName d with
  | none => rfl
  | some name =>
    rw [hd] at hm hm'
    have hoffset := hs.nameOffset_eq hd (hm _ rfl) (hm' _ rfl)
    simp only [Option.map_some, hoffset]

/-- What the segments of a list declare is the same, if no mark is placed in an exchanged text. -/
theorem filterMap_eq {f : Segment → Option Mark} {ss ss' : List Segment}
    (h : List.Forall₂ (Segment.Alike places) ss ss')
    (hf : ∀ s s', s.Alike places s' → (∀ m, f s = some m → places m.start) →
      (∀ m, f s' = some m → places m.start) → f s = f s')
    (hm : ∀ m ∈ ss.filterMap f, places m.start) (hm' : ∀ m ∈ ss'.filterMap f, places m.start) :
    ss.filterMap f = ss'.filterMap f := by
  refine filterMap_eq_of_forall₂ (fun s s' hs => ?_) (forall₂_mem h)
  exact hf s s' hs.1 (fun m hfs => hm m (List.mem_filterMap.2 ⟨s, hs.2.1, hfs⟩))
    fun m hfs => hm' m (List.mem_filterMap.2 ⟨s', hs.2.2, hfs⟩)

end

/-- Taking the word `parameter` or `localparam` away. -/
theorem Exchange.dropParameterWord (h : Exchange (Swap places) k t t') :
    ∃ j, Exchange (Swap fun _ => False) j (dropParameterWord t) (dropParameterWord t') := by
  have hstart : (Cursor.start (Text.trimLeft t)).Alike (fun _ => False) (Cursor.start (Text.trimLeft t')) :=
    ⟨rfl, rfl, h.trimLeft.free 0⟩
  have hword := hstart.word? (show ∀ w ∈ ["parameter", "localparam"], '"' ∉ w.toList by decide)
  unfold Source.dropParameterWord
  simp only
  generalize (Cursor.start (Text.trimLeft t)).word? _ = r,
    (Cursor.start (Text.trimLeft t')).word? _ = r' at hword
  cases hword with
  | none => exact ⟨0, h.free 0⟩
  | some hr => exact ⟨_, (hr.2.alike hstart).rest⟩

theorem parameterMarks_eq {list list' : Segment} (nodeType : String) (h : list.Alike places list')
    (hm : ∀ m ∈ parameterMarks nodeType list, places m.start)
    (hm' : ∀ m ∈ parameterMarks nodeType list', places m.start) :
    parameterMarks nodeType list = parameterMarks nodeType list' := by
  have hsegments := h.text.splitFrom 0
  have hpass : ∀ {w : List Char}, Quiet w → ∀ y ∈ w, (y != '=') = true := fun hw =>
    hw.forall_ne (by decide)
  unfold parameterMarks splitTopLevel at hm hm' ⊢
  rw [← h.offset_eq] at hm' ⊢
  refine filterMap_eq hsegments (fun s s' hs hf hf' => declarationMark?_eq hs ?_ hf hf') hm hm'
  obtain ⟨_, hdrop⟩ := (hs.text.takeWhile (Swap.both hpass) (by decide)).1.dropParameterWord
  exact hdrop.declaredName_eq

/-! ## Statements -/

/-- Two statements with the same keyword at the same place, with exchanged bodies. -/
structure Statement.Alike (places : Nat → Prop) (s s' : Statement) : Prop where
  start_eq : s.start = s'.start
  keyword_eq : s.keyword = s'.keyword
  body : s.body.Alike places s'.body
  next : s.next.Alike places s'.next

theorem signalMarks_eq {s s' : Statement} (h : s.Alike places s')
    (hm : ∀ m ∈ signalMarks s, places m.start) (hm' : ∀ m ∈ signalMarks s', places m.start) :
    signalMarks s = signalMarks s' := by
  have hsegments := h.body.text.splitFrom 0
  unfold signalMarks splitTopLevel at hm hm' ⊢
  rw [← h.body.offset_eq, ← h.keyword_eq] at hm' ⊢
  exact filterMap_eq hsegments
    (fun _ _ hs hf hf' => declarationMark?_eq hs hs.text.declaredName_eq hf hf') hm hm'

/-! ## Ports -/

/-- Two ports that differ in literals of their types at most. -/
structure Port.UpToLiterals (p p' : Port) : Prop where
  name_eq : p.name = p'.name
  direction_eq : p.direction = p'.direction
  type : Source.UpToLiterals p.type.toList p'.type.toList

theorem UpToLiterals.orType {a a' b b' : List Char} (ha : UpToLiterals a a') (hb : UpToLiterals b b') :
    UpToLiterals (orType a b) (orType a' b') := by
  unfold Source.orType
  rw [if_congr ha.eq_nil_iff rfl rfl]
  split
  · exact hb
  · exact ha

theorem Exchange.direction? (h : Exchange (Swap places) k t t') :
    Option.Rel (fun r r' => r.1 = r'.1 ∧
      Exchange (Swap places) (k + (t.length - r.2.length)) r.2 r'.2) (direction? t) (direction? t') := by
  -- the reader counts from the start of the declaration
  have hshift : ∀ j w w', Swap places (k + j) w w' ↔ Swap (fun o => places (k + o)) j w w' := by
    intro j w w'
    refine ⟨fun hw => ⟨hw.length_eq, hw.left, hw.right, fun o ho => ?_⟩,
      fun hw => ⟨hw.length_eq, hw.left, hw.right, fun o ho => ?_⟩⟩
    · have := hw.outside _ ho
      omega
    · rcases Nat.lt_or_ge o k with hlt | hge
      · omega
      · obtain ⟨i, rfl⟩ := Nat.exists_eq_add_of_le hge
        have := hw.outside i ho
        omega
  have hstart : (Cursor.start t).Alike (fun o => places (k + o)) (Cursor.start t') :=
    ⟨rfl, rfl, (h.lower (k := 0) k).mono fun j w w' hw => (hshift j w w').1 hw⟩
  have hword := hstart.word? (show ∀ w ∈ ["input", "output", "inout"], '"' ∉ w.toList by decide)
  unfold Source.direction?
  generalize hr : (Cursor.start t).word? _ = r, (Cursor.start t').word? _ = r' at hword
  cases hword with
  | none => exact .none
  | @some a b hab =>
    obtain ⟨word, after⟩ := a
    obtain ⟨word', after'⟩ := b
    obtain ⟨rfl, hmoves⟩ := hab
    have hafter := (hmoves.alike hstart).rest.trimLeft
    simp only
    cases Direction.ofWord? word with
    | none => exact .none
    | some d =>
      refine .some ⟨rfl, ?_⟩
      have hlength : after.offset + (after.rest.takeWhile isBlank).length =
          t.length - (Text.trimLeft after.rest).length := by
        have hstop := ((Cursor.in_start t).reaches (Cursor.reaches_word? hr)).length_eq
        have hsplit : (after.rest.takeWhile isBlank).length + (Text.trimLeft after.rest).length =
            after.rest.length := by
          rw [← List.length_append, Text.trimLeft, List.takeWhile_append_dropWhile]
        omega
      rw [← hlength]
      exact (hafter.mono fun j w w' hw => (hshift j w w').2 hw).raise

/-- The direction that an entry of a port list gives, if any, and the declaration behind it. -/
def headerDeclaration (text : List Char) : Option Direction × List Char :=
  match direction? (trim text) with
  | some (d, declaration) => (some d, declaration)
  | none => (none, trim text)

/-- The type of an entry: one that is not written is a wire behind a direction, and otherwise that of
the entry before. -/
def entryType (given known : Option Direction) (type written : List Char) : List Char :=
  if given.isSome then orType written "wire".toList
  else if known.isSome then orType written type
  else type

/-- A port list entry by entry. -/
theorem headerPortsFrom_cons (known : Option Direction) (type : List Char) (s : Segment)
    (ss : List Segment) : headerPortsFrom known type (s :: ss) =
      let given := (headerDeclaration s.text).1
      let declaration := (headerDeclaration s.text).2
      match declaredName declaration with
      | none => headerPortsFrom (given.or known) type ss
      | some name =>
        let type' := entryType given known type (typeBefore declaration name)
        ⟨name, s.offset + nameOffset s.text name,
          (given.or known).map fun d => ⟨String.ofList name, d, String.ofList type'⟩⟩ ::
          headerPortsFrom (given.or known) type' ss := by
  have hempty : declaredName [] = none := by decide +kernel
  rw [headerPortsFrom]
  unfold headerDeclaration
  by_cases hentry : trim s.text = []
  · have hnone : direction? [] = none := rfl
    simp only [hentry, if_true, hnone, hempty, Option.none_or]
  · simp only [hentry, if_false]
    cases hd : direction? (trim s.text) with
    | none =>
      simp only [Option.none_or]
      cases declaredName (trim s.text) <;> rfl
    | some found =>
      obtain ⟨d, declaration⟩ := found
      simp only [Option.some_or]
      cases declaredName declaration <;> rfl

/-- Corresponding segments give the same direction, and declarations at the same place. -/
theorem Segment.Alike.headerDeclaration {s s' : Segment} (hs : s.Alike places s') :
    (headerDeclaration s.text).1 = (headerDeclaration s'.text).1 ∧
      ∃ a, Within s.text (headerDeclaration s.text).2 a ∧ Within s'.text (headerDeclaration s'.text).2 a ∧
        Exchange (Swap places) (s.offset + a) (headerDeclaration s.text).2
          (headerDeclaration s'.text).2 := by
  have hentry := hs.text.trim
  have hwithin := within_trim s.text
  have hwithin' := within_trim s'.text
  rw [← hs.text.takeWhile_eq (by decide)] at hwithin'
  have hdirection := hentry.direction?
  unfold Source.headerDeclaration
  generalize hr : direction? (Text.trim s.text) = r, hr' : direction? (Text.trim s'.text) = r'
    at hdirection
  cases hdirection with
  | none => exact ⟨rfl, _, hwithin, hwithin', hentry⟩
  | @some found found' hfound =>
    obtain ⟨heq, hdeclaration⟩ := hfound
    obtain ⟨front, hfront, hneutral⟩ := direction?_split hr
    obtain ⟨front', hfront', hneutral'⟩ := direction?_split hr'
    have hlength : front.length = front'.length := by
      have h := hentry.length_eq Swap.lengths
      rw [hfront, hfront', List.length_append, List.length_append,
        hdeclaration.length_eq Swap.lengths] at h
      omega
    refine ⟨congrArg some heq, _, hwithin.behind hfront hneutral,
      hlength ▸ hwithin'.behind hfront' hneutral', ?_⟩
    rw [hfront, List.length_append, Nat.add_sub_cancel, Nat.add_assoc] at hdeclaration
    exact hdeclaration

/-- Two entries of a port list with the same name, both with a port or both without one. -/
structure HeaderPort.SameEntry (p p' : HeaderPort) : Prop where
  name_eq : p.name = p'.name
  isSome_eq : p.port.isSome = p'.port.isSome

/-- Two entries of a port list at the same place, whose ports differ in literals at most. -/
structure HeaderPort.Alike (p p' : HeaderPort) : Prop where
  name_eq : p.name = p'.name
  offset_eq : p.offset = p'.offset
  port : Option.Rel Port.UpToLiterals p.port p'.port

/-- The entries of a port list have the same names. -/
theorem sameEntry_headerPortsFrom {ss ss' : List Segment}
    (h : List.Forall₂ (Segment.Alike places) ss ss') :
    ∀ (known : Option Direction) (type type' : List Char),
      List.Forall₂ HeaderPort.SameEntry (headerPortsFrom known type ss)
        (headerPortsFrom known type' ss') := by
  induction h with
  | nil => exact fun _ _ _ => .nil
  | @cons s s' ss ss' hs _ ih =>
    intro known type type'
    obtain ⟨hgiven, _, -, -, hdeclaration⟩ := hs.headerDeclaration
    rw [headerPortsFrom_cons, headerPortsFrom_cons]
    simp only [← hgiven, ← hdeclaration.declaredName_eq]
    cases declaredName (headerDeclaration s.text).2 with
    | none => exact ih _ _ _
    | some name => exact .cons ⟨rfl, by simp⟩ (ih _ _ _)

/-- The entries of a port list stand at the same places, if none of these lies in an exchanged text. -/
theorem headerPortsFrom_alike {ss ss' : List Segment}
    (h : List.Forall₂ (Segment.Alike places) ss ss') :
    ∀ {known : Option Direction} {type type' : List Char}, UpToLiterals type type' →
      (∀ p ∈ headerPortsFrom known type ss, places p.offset) →
      (∀ p ∈ headerPortsFrom known type' ss', places p.offset) →
      List.Forall₂ HeaderPort.Alike (headerPortsFrom known type ss)
        (headerPortsFrom known type' ss') := by
  induction h with
  | nil => exact fun _ _ _ => .nil
  | @cons s s' ss ss' hs _ ih =>
    intro known type type' htype hp hp'
    obtain ⟨hgiven, a, hwithin, hwithin', hdeclaration⟩ := hs.headerDeclaration
    rw [headerPortsFrom_cons] at hp hp' ⊢
    rw [headerPortsFrom_cons]
    simp only [← hgiven, ← hdeclaration.declaredName_eq] at hp hp' ⊢
    cases hname : declaredName (headerDeclaration s.text).2 with
    | none =>
      rw [hname] at hp hp'
      exact ih htype hp hp'
    | some name =>
      simp only [hname, List.forall_mem_cons] at hp hp'
      -- the type of this entry, which the next entry may take over
      have htype' : UpToLiterals
          (entryType (headerDeclaration s.text).1 known type
            (typeBefore (headerDeclaration s.text).2 name))
          (entryType (headerDeclaration s.text).1 known type'
            (typeBefore (headerDeclaration s'.text).2 name)) := by
        have hwritten := hs.typeBefore hwithin hwithin' hdeclaration hname hp.1 hp'.1
        unfold entryType
        split
        · exact hwritten.orType (.refl _)
        · split
          · exact hwritten.orType htype
          · exact htype
      refine .cons ⟨rfl, hs.nameOffset_eq hname hp.1 hp'.1, ?_⟩ (ih htype' hp.2 hp'.2)
      cases (headerDeclaration s.text).1.or known with
      | none => exact .none
      | some d => exact .some ⟨rfl, rfl, by simpa using htype'⟩

/-- Two ports of a body declaration with the same mark. -/
structure SameMark (p p' : Port × Mark) : Prop where
  port : Port.UpToLiterals p.1 p'.1
  mark_eq : p.2 = p'.2

theorem bodyPortsFrom_alike {ss ss' : List Segment} (direction : Direction)
    (h : List.Forall₂ (Segment.Alike places) ss ss') :
    ∀ {type type' : List Char}, UpToLiterals type type' →
      (∀ p ∈ bodyPortsFrom direction type ss, places p.2.start) →
      (∀ p ∈ bodyPortsFrom direction type' ss', places p.2.start) →
      List.Forall₂ SameMark (bodyPortsFrom direction type ss) (bodyPortsFrom direction type' ss') := by
  induction h with
  | nil => exact fun _ _ _ => .nil
  | @cons s s' ss ss' hs _ ih =>
    intro type type' htype hp hp'
    unfold bodyPortsFrom at hp hp' ⊢
    rw [← hs.text.declaredName_eq] at hp' ⊢
    cases hname : declaredName s.text with
    | none =>
      rw [hname] at hp hp'
      exact ih htype hp hp'
    | some name =>
      simp only [hname, List.forall_mem_cons] at hp hp'
      have hwritten := hs.typeBefore (within_self _) (within_self _) hs.text hname hp.1 hp'.1
      have htype' := hwritten.orType htype
      refine .cons ⟨⟨rfl, rfl, by simpa using htype'⟩, ?_⟩ (ih htype' hp.2 hp'.2)
      simp only [hs.nameOffset_eq hname hp.1 hp'.1]

theorem bodyPorts_alike {s s' : Statement} (h : s.Alike places s')
    (hp : ∀ p ∈ bodyPorts s, places p.2.start) (hp' : ∀ p ∈ bodyPorts s', places p.2.start) :
    List.Forall₂ SameMark (bodyPorts s) (bodyPorts s') := by
  have hsegments := h.body.text.splitFrom 0
  unfold bodyPorts splitTopLevel at hp hp' ⊢
  rw [← h.keyword_eq, ← h.body.offset_eq] at hp' ⊢
  cases hd : Direction.ofWord? s.keyword with
  | none => exact .nil
  | some d =>
    rw [hd] at hp hp'
    exact bodyPortsFrom_alike d hsegments (.refl _) hp hp'

/-! ## The ports of a module -/

/-- The marks of the ports of a module are the same, if none is placed in an exchanged text, and the
ports differ in literals at most. -/
theorem modulePorts_alike {header header' : List HeaderPort} {body body' : List (Port × Mark)}
    (hsame : List.Forall₂ HeaderPort.SameEntry header header')
    (hheader : (∀ p ∈ header, places p.offset) → (∀ p ∈ header', places p.offset) →
      List.Forall₂ HeaderPort.Alike header header')
    (hbody : (∀ p ∈ body, places p.2.start) → (∀ p ∈ body', places p.2.start) →
      List.Forall₂ SameMark body body')
    (hm : ∀ m ∈ (modulePorts header body).2, places m.start)
    (hm' : ∀ m ∈ (modulePorts header' body').2, places m.start) :
    List.Forall₂ Port.UpToLiterals (modulePorts header body).1 (modulePorts header' body').1 ∧
      (modulePorts header body).2 = (modulePorts header' body').2 := by
  have hempty : header.isEmpty = header'.isEmpty := by cases hsame <;> rfl
  have hgiven : header.all (·.port.isSome) = header'.all (·.port.isSome) := by
    clear hheader hm hm' hempty
    induction hsame with
    | nil => rfl
    | cons h _ ih => rw [List.all_cons, List.all_cons, h.isSome_eq, ih]
  unfold modulePorts at hm hm' ⊢
  rw [← hempty, ← hgiven] at hm' ⊢
  split at hm
  · -- the header gives every direction
    rename_i hansi
    rw [if_pos hansi] at hm'
    rw [if_pos hansi, if_pos hansi]
    have hports := hheader (fun p hp => hm _ (List.mem_map.2 ⟨p, hp, rfl⟩))
      fun p hp => hm' _ (List.mem_map.2 ⟨p, hp, rfl⟩)
    exact ⟨List.rel_filterMap (fun _ _ h => h.port) hports, map_eq_of_forall₂
      (fun p p' h => by simp only [h.name_eq, h.offset_eq]) hports⟩
  · rename_i hbodied
    rw [if_neg hbodied] at hm'
    rw [if_neg hbodied, if_neg hbodied]
    have hports := hbody (fun p hp => hm _ (List.mem_map.2 ⟨p, hp, rfl⟩))
      fun p hp => hm' _ (List.mem_map.2 ⟨p, hp, rfl⟩)
    have hdeclared := OrderedMap.forall₂_ofList (R := Port.UpToLiterals) <|
      (List.forall₂_map_right_iff (f := fun p : Port × Mark => (p.1.name, p.1))).2 <|
      (List.forall₂_map_left_iff (f := fun p : Port × Mark => (p.1.name, p.1))).2 <|
      hports.imp fun p p' h => ⟨h.port.name_eq, h.port⟩
    have horder : (if header.isEmpty then (OrderedMap.ofList (body.map fun p => (p.1.name, p.1))).keys
        else header.map fun p => String.ofList p.name) =
        if header.isEmpty then (OrderedMap.ofList (body'.map fun p => (p.1.name, p.1))).keys
        else header'.map fun p => String.ofList p.name := by
      rw [OrderedMap.keys, OrderedMap.keys, map_eq_of_forall₂ (fun _ _ he => he.1) hdeclared,
        map_eq_of_forall₂ (fun p p' h => by rw [h.name_eq]) hsame]
    refine ⟨?_, map_eq_of_forall₂ (fun _ _ h => h.mark_eq) hports⟩
    simp only [horder]
    refine List.forall₂_map_left_iff.2 (List.forall₂_map_right_iff.2 (List.forall₂_same.2 fun name _ => ?_))
    exact rel_getD (OrderedMap.rel_get? hdeclared name) ⟨rfl, rfl, .refl _⟩

end RtlAtlas.Source
