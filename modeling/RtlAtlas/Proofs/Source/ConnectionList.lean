/-
Connection lists as texts. A list has named entries, a port with an expression in brackets, and positional
ones, an expression alone; written with a comma and a space between neighbours it is read back entry by
entry, whatever brackets, commas and dots the expressions hold inside of their brackets. Read as overrides,
the same text maps each name, and each place of a positional entry, to its expression.
-/
import RtlAtlas.Proofs.OrderedMap
import RtlAtlas.Proofs.Source.Nesting
import RtlAtlas.Proofs.Source.Passage
import RtlAtlas.Proofs.Source.Slot

namespace RtlAtlas.Source

open RtlAtlas.Text

/-! ## Entries -/

/-- An expression: words with single spaces between them, and brackets that are well nested. -/
structure Expression where
  words : List (List Char)
  solid : ∀ w ∈ words, w ≠ [] ∧ ∀ x ∈ w, isBlank x = false
  nested : Nested (fun _ => True) ([' '].intercalate words)

def Expression.text (e : Expression) : List Char := [' '].intercalate e.words

/-- An expression that can stand alone in a list: there is one, it does not look like a named entry, and
it has no comma outside of its brackets. -/
structure Operand extends Expression where
  nonempty : toExpression.text ≠ []
  undotted : toExpression.text.head? ≠ some '.'
  uncut : Nested (· ≠ ',') toExpression.text

/-- The name of a port or of a parameter. -/
structure PortName where
  text : List Char
  starts : text.head?.any isIdentStart = true
  isName : IsName text

/-- An entry of a connection list. -/
inductive Entry where
  | named (port : PortName) (value : Expression)
  | positional (value : Operand)

namespace Entry

def text : Entry → List Char
  | named port value => '.' :: (port.text ++ '(' :: (value.text ++ [')']))
  | positional value => value.text

/-- The connection that an entry at a place of the list makes. -/
def connection (place : Nat) : Entry → Connection
  | named port value => { port := String.ofList port.text, signal := String.ofList value.text }
  | positional value => { port := "", signal := String.ofList value.text, position := some place }

/-- The override that an entry at a place of the list makes. -/
def override (place : Nat) : Entry → String × String
  | named port value => (String.ofList port.text, String.ofList value.text)
  | positional value => (s!"#{place}", String.ofList value.text)

end Entry

/-- The text of a list of entries. -/
def entryList (es : List Entry) : List Char := [',', ' '].intercalate (es.map Entry.text)

/-- The overrides of a list of entries, in the order in which they are written. -/
def overrides (es : List Entry) : List (String × String) := es.zipIdx.map fun (e, place) => e.override place

/-! ## Texts with single spaces -/

/-- A text of words with single spaces between them. -/
def SingleSpaced (cs : List Char) : Prop :=
  ∃ ws : List (List Char), (∀ w ∈ ws, w ≠ [] ∧ ∀ x ∈ w, isBlank x = false) ∧ cs = [' '].intercalate ws

variable {cs name : List Char} {x : Char}

theorem SingleSpaced.collapse_eq (h : SingleSpaced cs) : collapse cs = cs := by
  obtain ⟨ws, hws, rfl⟩ := h
  rw [collapse, words_intercalate hws]

/-- A space behind the words is folded away, and so is one in front. -/
theorem SingleSpaced.collapse_spaces (h : SingleSpaced cs) : collapse (' ' :: (cs ++ [' '])) = cs := by
  obtain ⟨ws, hws, rfl⟩ := h
  rw [collapse, words_blank (by decide)]
  cases ws with
  | nil => rfl
  | cons w ws =>
    have hflat : [' '].intercalate (w :: ws) ++ [' '] = (w :: ws).flatMap (· ++ [' ']) := by
      clear hws
      induction ws generalizing w with
      | nil => simp
      | cons v ws ih =>
        rw [List.flatMap_cons, ← ih, List.intercalate_cons_cons]
        simp
    rw [hflat, words_flatMap hws]

theorem SingleSpaced.cons (hx : isBlank x = false) (h : SingleSpaced cs) : SingleSpaced (x :: cs) := by
  obtain ⟨ws, hws, rfl⟩ := h
  cases ws with
  | nil => exact ⟨[[x]], by simpa using hx, rfl⟩
  | cons w ws =>
    refine ⟨(x :: w) :: ws, ?_, ?_⟩
    · rw [List.forall_mem_cons] at hws ⊢
      refine ⟨⟨List.cons_ne_nil _ _, ?_⟩, hws.2⟩
      simpa [hx] using hws.1.2
    · cases ws <;> simp [List.intercalate_cons_cons]

theorem SingleSpaced.append (h : SingleSpaced cs) : ∀ {a : List Char}, (∀ x ∈ a, isBlank x = false) →
    SingleSpaced (a ++ cs)
  | [], _ => h
  | x :: a, ha => by
    rw [List.forall_mem_cons] at ha
    exact .cons ha.1 (h.append ha.2)

theorem SingleSpaced.concat (hx : isBlank x = false) (h : SingleSpaced cs) : SingleSpaced (cs ++ [x]) := by
  obtain ⟨ws, hws, rfl⟩ := h
  induction ws with
  | nil => exact ⟨[[x]], by simpa using hx, rfl⟩
  | cons w ws ih =>
    rw [List.forall_mem_cons] at hws
    cases ws with
    | nil =>
      refine ⟨[w ++ [x]], ?_, by simp⟩
      intro v hv
      obtain rfl := List.mem_singleton.1 hv
      refine ⟨by simp, fun y hy => ?_⟩
      rcases List.mem_append.1 hy with hy | hy
      · exact hws.1.2 y hy
      · rw [List.mem_singleton.1 hy, hx]
    | cons v ws =>
      obtain ⟨us, hus, heq⟩ := ih hws.2
      have hne : us ≠ [] := by
        rintro rfl
        simp at heq
      obtain ⟨u, us, rfl⟩ := List.exists_cons_of_ne_nil hne
      refine ⟨w :: u :: us, List.forall_mem_cons.2 ⟨hws.1, hus⟩, ?_⟩
      rw [List.intercalate_cons_cons, List.intercalate_cons_cons, List.append_assoc, heq]

theorem Expression.singleSpaced (e : Expression) : SingleSpaced e.text := ⟨e.words, e.solid, rfl⟩

/-- White space stands neither in front of words with single spaces between them nor behind them. -/
theorem SingleSpaced.trim_eq (h : SingleSpaced cs) : trim cs = cs := by
  obtain ⟨ws, hws, rfl⟩ := h
  refine trim_eq_self ?_ ?_
  · cases ws with
    | nil => rfl
    | cons w ws =>
      obtain ⟨hne, hclear⟩ := hws w (List.mem_cons_self ..)
      obtain ⟨y, w, rfl⟩ := List.exists_cons_of_ne_nil hne
      have hy := hclear y (List.mem_cons_self ..)
      cases ws <;> simp [List.intercalate_cons_cons, hy]
  · induction ws with
    | nil => rfl
    | cons w ws ih =>
      rw [List.forall_mem_cons] at hws
      cases ws with
      | nil =>
        rw [List.intercalate_singleton, List.getLast?_eq_some_getLast hws.1.1]
        simpa using hws.1.2 _ (List.getLast_mem hws.1.1)
      | cons v ws =>
        have hne : [' '].intercalate (v :: ws) ≠ [] := by
          have hv := (hws.2 v (List.mem_cons_self ..)).1
          cases ws <;> simp [List.intercalate_cons_cons, hv]
        rw [List.intercalate_cons_cons, List.append_assoc, List.getLast?_append_of_ne_nil _ (by simp),
          List.getLast?_append_of_ne_nil _ hne]
        exact ih hws.2

/-! ## Entries read back -/

/-- A named entry is read back, whatever its brackets hold. -/
theorem namedEntryOf?_named (hne : name ≠ []) (hstart : name.head?.all isIdentStart = true)
    (hname : IsName name) (value : List Char) :
    namedEntryOf? ('.' :: (name ++ '(' :: (value ++ [')']))) = some ⟨name, some value⟩ := by
  have htrim : trimLeft (name ++ '(' :: (value ++ [')'])) = name ++ '(' :: (value ++ [')']) := by
    obtain ⟨x, cs, rfl⟩ := List.exists_cons_of_ne_nil hne
    have hx := not_blank_of_isIdentRest (hname x (List.mem_cons_self ..))
    exact @trimLeft_append [] _ (by simp) (by simpa using hx)
  have hident : identifier? (name ++ '(' :: (value ++ [')'])) = some (name, '(' :: (value ++ [')'])) :=
    identifier?_run hne hstart hname rfl
  have hbracket : trimLeft ('(' :: (value ++ [')'])) = '(' :: (value ++ [')']) :=
    @trimLeft_append [] _ (by simp) rfl
  have hvalue : bracketed? ('(' :: (value ++ [')'])) = some value := by
    simp [bracketed?]
  unfold namedEntryOf?
  simp only [htrim, hident, hbracket, hvalue, Option.map_some]

namespace PortName

theorem nonempty (p : PortName) : p.text ≠ [] := ne_nil_of_isIdentStart p.starts

theorem not_blank (p : PortName) : ∀ x ∈ p.text, isBlank x = false := fun x hx =>
  not_blank_of_isIdentRest (p.isName x hx)

theorem nested (p : PortName) : Nested (· ≠ ',') p.text := by
  refine .of_forall fun x hx => ⟨nesting_of_notMem fun hc => ?_, fun hc => ?_⟩
  · have hbracket : ['(', '[', '{', ')', ']', '}'].all (!isIdentRest ·) = true := by decide
    have hx' := List.all_eq_true.1 hbracket x hc
    rw [p.isName x hx] at hx'
    cases hx'
  · exact absurd (hc ▸ p.isName x hx) (by decide)

theorem namedEntryOf?_text (p : PortName) (value : List Char) :
    namedEntryOf? ('.' :: (p.text ++ '(' :: (value ++ [')']))) = some ⟨p.text, some value⟩ := by
  refine namedEntryOf?_named p.nonempty ?_ p.isName value
  obtain ⟨x, cs, htext⟩ := List.exists_cons_of_ne_nil p.nonempty
  simpa [htext] using p.starts

end PortName

namespace Entry

theorem singleSpaced : ∀ e : Entry, SingleSpaced e.text
  | .named port value => by
    have hvalue := (value.singleSpaced.concat (x := ')') (by decide)).cons (x := '(') (by decide)
    exact (hvalue.append port.not_blank).cons (by decide)
  | .positional value => value.singleSpaced

theorem nested : ∀ e : Entry, Nested (· ≠ ',') e.text
  | .named port value => by
    exact .char (by decide) (by decide) (port.nested.append (.group rfl value.nested .nil))
  | .positional value => value.uncut

end Entry

/-- A segment holds the text of an entry, up to the white space around it. -/
def Segment.Holds (s : Segment) (e : Entry) : Prop := collapse s.text = e.text

variable {s : Segment} {e : Entry} {ss : List Segment} {es : List Entry}

namespace Segment.Holds

theorem namedEntryOf?_eq (h : s.Holds e) : namedEntryOf? (collapse s.text) =
    match e with
    | .named port value => some ⟨port.text, some value.text⟩
    | .positional _ => none := by
  rw [h]
  cases e with
  | named port value => exact port.namedEntryOf?_text value.text
  | positional value =>
    show namedEntryOf? value.text = none
    have hundotted := value.undotted
    unfold namedEntryOf?
    split
    · rename_i hdot
      rw [hdot] at hundotted
      exact absurd rfl hundotted
    · rfl

theorem isVacant_eq (h : s.Holds e) : s.isVacant = false := by
  have htext : e.text ≠ [] ∧ e.text ≠ ['.', '*'] := by
    cases e with
    | named port value =>
      obtain ⟨x, cs, hport⟩ := List.exists_cons_of_ne_nil port.nonempty
      simp [Entry.text, hport]
    | positional value =>
      refine ⟨value.nonempty, fun hstar => value.undotted ?_⟩
      change value.toExpression.text = _ at hstar
      rw [hstar]
      rfl
  unfold Segment.isVacant
  rw [h]
  simpa using htext

theorem connection_eq (h : s.Holds e) (place : Nat) : s.connection place = e.connection place := by
  unfold Segment.connection
  rw [h.namedEntryOf?_eq]
  cases e with
  | named port value => simp [Entry.connection, value.singleSpaced.trim_eq]
  | positional value => rw [h]; rfl

theorem override?_eq (h : s.Holds e) (place : Nat) : override? place s = some (e.override place) := by
  have hkept : ¬collapse s.text = [] := by
    have hvacant := h.isVacant_eq
    unfold Segment.isVacant at hvacant
    simp_all
  unfold override?
  simp only [if_neg hkept, h.namedEntryOf?_eq]
  cases e with
  | named port value => simp [Entry.override, value.singleSpaced.trim_eq]
  | positional value => rw [h]; rfl

end Segment.Holds

theorem connectionsFrom_of_holds (h : List.Forall₂ Segment.Holds ss es) : ∀ place : Nat,
    connectionsFrom place ss = (es.zipIdx place).map fun (e, i) => e.connection i := by
  induction h with
  | nil => exact fun _ => rfl
  | cons hs _ ih =>
    intro place
    rw [connectionsFrom_of_taken hs.isVacant_eq, hs.connection_eq, ih, List.zipIdx_cons, List.map_cons]

theorem overrides_of_holds (h : List.Forall₂ Segment.Holds ss es) : ∀ place : Nat,
    ((ss.zipIdx place).filterMap fun (s, i) => override? i s) =
      (es.zipIdx place).map fun (e, i) => e.override i := by
  induction h with
  | nil => exact fun _ => rfl
  | cons hs _ ih =>
    intro place
    rw [List.zipIdx_cons, List.zipIdx_cons, List.filterMap_cons, List.map_cons, ih]
    simp only [hs.override?_eq]

/-! ## Lists read back -/

/-- White space in front of the entry does not matter. -/
theorem holds_segmentsFrom : ∀ (es : List Entry) (offset : Nat), List.Forall₂ Segment.Holds
    (segmentsFrom offset ((es.map Entry.text).map (' ' :: ·))) es
  | [], _ => .nil
  | e :: es, offset => by
    refine .cons ?_ (holds_segmentsFrom es _)
    show collapse (' ' :: e.text) = e.text
    rw [collapse, words_blank (by decide)]
    exact e.singleSpaced.collapse_eq

/-- The segments of a list hold its entries. -/
theorem holds_splitTopLevel (e : Entry) (es : List Entry) :
    List.Forall₂ Segment.Holds (splitTopLevel (entryList (e :: es)) 0) (e :: es) := by
  have hnested : ∀ u ∈ e.text :: (es.map Entry.text).map (' ' :: ·), Nested (· ≠ ',') u := by
    intro u hu
    rcases List.mem_cons.1 hu with rfl | hu
    · exact e.nested
    · simp only [List.map_map, List.mem_map] at hu
      obtain ⟨e', -, rfl⟩ := hu
      exact .char (by decide) (by decide) e'.nested
  rw [entryList, List.map_cons, intercalate_space, splitTopLevel_join hnested, segmentsFrom]
  exact .cons e.singleSpaced.collapse_eq (holds_segmentsFrom es _)

theorem parseBindings_entryList (es : List Entry) :
    parseBindings (entryList es) = OrderedMap.ofList (overrides es) := by
  cases es with
  | nil => decide +kernel
  | cons e es => exact congrArg OrderedMap.ofList (overrides_of_holds (holds_splitTopLevel e es) 0)

/-- A connection list is read back entry by entry, each positional one with its place in the list. Read as
overrides it maps each key to the value that is written last for it, in the order in which the keys
are written first. -/
theorem parse_entryList (es : List Entry) :
    parseConnections (entryList es) = (es.zipIdx.map fun (e, place) => e.connection place) ∧
    (parseBindings (entryList es)).keys = ((overrides es).map (·.1)).eraseDups ∧
    ∀ key, (parseBindings (entryList es)).get? key =
      (((overrides es).filter fun e => e.1 == key).getLast?).map (·.2) := by
  rw [parseBindings_entryList]
  refine ⟨?_, OrderedMap.keys_ofList _, fun key => OrderedMap.get?_ofList _ key⟩
  cases es with
  | nil => rfl
  | cons e es => exact connectionsFrom_of_holds (holds_splitTopLevel e es) 0

end RtlAtlas.Source
