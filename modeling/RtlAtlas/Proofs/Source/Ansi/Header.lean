/-
The header of a module in canonical form: its port list is read back port by port, each with the
direction and type that it is written with or has from the port before, on the line it is written on.
-/
import RtlAtlas.Proofs.Source.Ansi.Text

namespace RtlAtlas.Source.Ansi

open RtlAtlas.Text

/-! ## One port -/

theorem Name.free_keyword (n : Name) : isKeyword n.text = false := by
  have h := n.free
  rw [isReserved, Bool.or_eq_false_iff] at h
  exact h.1

theorem isBlank_of_all_tight {w : List Char} (h : w.all isTight = true) :
    ∀ x ∈ w, isBlank x = false := fun x hx => isBlank_of_isTight (List.all_eq_true.1 h x hx)

theorem head?_not_blank {w : List Char} (hne : w ≠ []) (h : w.all isTight = true) (cs : List Char) :
    (w ++ cs).head?.any isBlank = false := by
  cases w with
  | nil => exact absurd rfl hne
  | cons x w => exact isBlank_of_all_tight h x (List.mem_cons_self ..)

theorem Name.head?_not_blank (n : Name) (cs : List Char) :
    (n.text ++ cs).head?.any isBlank = false := Ansi.head?_not_blank n.nonempty n.tight cs

theorem PortType.head?_lead (t : PortType) (n : Name) :
    (t.lead ++ n.text).head?.any isBlank = false := by
  have htight := t.tight
  unfold PortType.lead
  cases hwords : t.words with
  | nil => simpa using n.head?_not_blank []
  | cons w ws =>
    obtain ⟨hne, hw⟩ := htight w (by rw [hwords]; exact List.mem_cons_self ..)
    rw [List.flatMap_cons, List.append_assoc, List.append_assoc]
    exact head?_not_blank hne hw _

theorem PortType.getLast?_lead (t : PortType) : t.lead.getLast?.any isIdentRest = false := by
  unfold PortType.lead
  rcases List.eq_nil_or_concat t.words with hnil | ⟨ws, w, hws⟩
  · rw [hnil]
    rfl
  · rw [hws, List.concat_eq_append, List.flatMap_append, List.flatMap_singleton, ← List.append_assoc,
      List.getLast?_append]
    rfl

theorem PortType.collapse_lead (t : PortType) : collapse t.lead = [' '].intercalate t.words := by
  rw [collapse, PortType.lead, words_flatMap]
  intro w hw
  exact ⟨(t.tight w hw).1, isBlank_of_all_tight (t.tight w hw).2⟩

/-- A type that is written out is read back; without one the port is a wire. -/
theorem PortType.orType_lead (t : PortType) : orType (collapse t.lead) "wire".toList = t.text := by
  have htight := t.tight
  rw [t.collapse_lead, PortType.text, orType]
  cases hwords : t.words with
  | nil => rfl
  | cons w ws =>
    have hw := (htight w (by rw [hwords]; exact List.mem_cons_self ..)).1
    have hne : [' '].intercalate (w :: ws) ≠ [] := by
      cases ws with
      | nil => rwa [List.intercalate_singleton]
      | cons v vs =>
        rw [List.intercalate_cons_cons]
        simp [hw]
    rw [if_neg hne, if_neg (List.cons_ne_nil w ws)]

/-- A declaration in canonical form gives its name, behind any words of a type. -/
theorem PortType.declaredName_lead (t : PortType) (n : Name) :
    declaredName (t.lead ++ n.text) = some n.text :=
  declaredName_append n.nonempty n.plain n.start n.free_keyword (t.nested_lead.append n.nested)
    (by decide) t.getLast?_lead

theorem PortType.typeBefore_lead (t : PortType) (n : Name) :
    typeBefore (t.lead ++ n.text) n.text = collapse t.lead :=
  typeBefore_append n.nonempty (t.nested_lead.append n.nested) (by decide)

theorem direction?_headed (h : PortHead) (n : Name) :
    direction? (h.text ++ n.text) = some (h.direction, h.type.lead ++ n.text) := by
  have hstart : (Cursor.start (h.text ++ n.text)).rest =
      h.direction.word.toList ++ ' ' :: (h.type.lead ++ n.text) := by
    rw [Cursor.start, PortHead.text, List.append_assoc]
    rfl
  have hword : (Cursor.start (h.text ++ n.text)).word? ["input", "output", "inout"] =
      some (h.direction.word, (Cursor.start (h.text ++ n.text)).advance h.direction.word.length) :=
    Cursor.word?_eq_some (isReserved_of_keywords (by decide)) (by cases h.direction <;> decide) rfl hstart rfl
  have hrest : ((Cursor.start (h.text ++ n.text)).advance h.direction.word.length).rest =
      ' ' :: (h.type.lead ++ n.text) := by
    rw [Cursor.rest_advance, hstart, ← String.length_toList, List.drop_left]
  have hof : Direction.ofWord? h.direction.word = some h.direction := by cases h.direction <;> rfl
  have htrim : trimLeft (' ' :: (h.type.lead ++ n.text)) = h.type.lead ++ n.text :=
    trimLeft_append (a := [' ']) (List.all_eq_true.1 (by decide)) (h.type.head?_lead n)
  unfold direction?
  rw [hword]
  simp only [hof, hrest, htrim, Option.map_some]

theorem direction?_name (n : Name) : direction? n.text = none :=
  direction?_plain n.plain n.free_keyword

/-! ## The port list -/

/-- The lines of the ports between commas, the last one with the line break behind it. -/
def portLines : List PortEntry → List (List Char)
  | [] => [['\n']]
  | [e] => ['\n' :: ' ' :: ' ' :: (e.text ++ ['\n'])]
  | e :: f :: es => ('\n' :: ' ' :: ' ' :: e.text) :: portLines (f :: es)

theorem portList_eq : ∀ ports : List PortEntry, portList ports = [','].intercalate (portLines ports)
  | [] => rfl
  | [e] => by rw [portList_singleton, portLines, List.intercalate_singleton]
  | e :: f :: es => by
    rw [portList_cons_cons, portList_eq (f :: es), portLines]
    cases hlines : portLines (f :: es) with
    | nil => cases es <;> cases hlines
    | cons t ts => simp [List.intercalate_cons_cons]

theorem nested_portLines : ∀ {ports : List PortEntry}, ∀ t ∈ portLines ports, Nested (· ≠ ',') t := by
  have hbreak : Nested (· ≠ ',') ['\n'] := .char (by decide) (by decide) .nil
  have hline : ∀ {cs : List Char}, Nested (· ≠ ',') cs →
      Nested (· ≠ ',') ('\n' :: ' ' :: ' ' :: cs) := fun h =>
    .char (by decide) (by decide) (.char (by decide) (by decide) (.char (by decide) (by decide) h))
  have hentry : ∀ e : PortEntry, Nested (· ≠ ',') e.text := fun e => e.nested.mono fun _ hx => hx.1
  intro ports
  induction ports with
  | nil =>
    intro t ht
    obtain rfl := List.mem_singleton.1 ht
    exact hbreak
  | cons e es ih =>
    intro t ht
    cases es with
    | nil =>
      obtain rfl := List.mem_singleton.1 ht
      exact hline ((hentry e).append hbreak)
    | cons f es =>
      rcases List.mem_cons.1 ht with rfl | ht
      · exact hline (hentry e)
      · exact ih t ht

theorem splitTopLevel_portList (ports : List PortEntry) (offset : Nat) :
    splitTopLevel (portList ports) offset = segmentsFrom offset (portLines ports) := by
  rw [portList_eq]
  cases hports : portLines ports with
  | nil => rcases ports with _ | ⟨e, _ | ⟨f, es⟩⟩ <;> cases hports
  | cons t ts => exact splitTopLevel_join (fun u hu => nested_portLines u (hports ▸ hu)) offset

/-- An entry with a direction sets the type for those behind it. -/
theorem headerPortsFrom_directed {s : Segment} {entry declaration name type : List Char}
    {direction : Option Direction} {d : Direction} (htrim : trim s.text = entry) (hne : entry ≠ [])
    (hdirection : direction? entry = some (d, declaration))
    (hname : declaredName declaration = some name) (ss : List Segment) :
    headerPortsFrom direction type (s :: ss) =
      ⟨name, s.offset + nameOffset s.text name, some ⟨String.ofList name, d,
        String.ofList (orType (typeBefore declaration name) "wire".toList)⟩⟩ ::
        headerPortsFrom (some d) (orType (typeBefore declaration name) "wire".toList) ss := by
  rw [headerPortsFrom]
  simp only [htrim, if_neg hne, hdirection, hname]

/-- An entry without a direction has that of the entries before it, and their type unless it has one. -/
theorem headerPortsFrom_undirected {s : Segment} {entry name type : List Char} {d : Direction}
    (htrim : trim s.text = entry) (hne : entry ≠ []) (hdirection : direction? entry = none)
    (hname : declaredName entry = some name) (ss : List Segment) :
    headerPortsFrom (some d) type (s :: ss) =
      ⟨name, s.offset + nameOffset s.text name, some ⟨String.ofList name, d,
        String.ofList (orType (typeBefore entry name) type)⟩⟩ ::
        headerPortsFrom (some d) (orType (typeBefore entry name) type) ss := by
  rw [headerPortsFrom]
  simp only [htrim, if_neg hne, hdirection, hname]
  rfl

/-- The entries of a port list that starts at an offset, where those without a head have that of the
entry before. -/
def headerPortsOf (offset : Nat) (before : PortHead) : List PortEntry → List HeaderPort
  | [] => []
  | e :: es =>
    let head := e.head.getD before
    ⟨e.name.text, offset + (e.lead.length + 3),
      some ⟨e.name.string, head.direction, String.ofList head.type.text⟩⟩ ::
      headerPortsOf (offset + (e.text.length + 3) + 1) head es

theorem PortEntry.trim_line (e : PortEntry) {post : List Char} (hpost : ∀ x ∈ post, isBlank x = true) :
    trim ('\n' :: ' ' :: ' ' :: (e.text ++ post)) = e.text := by
  have hhead : e.text.head?.any isBlank = false := by
    unfold PortEntry.text PortEntry.lead
    cases e.head with
    | none => simpa using e.name.head?_not_blank []
    | some h =>
      show (h.text ++ e.name.text).head?.any isBlank = false
      rw [PortHead.text, List.append_assoc]
      cases h.direction <;> exact head?_not_blank (by decide) (by decide) _
  have hlast : e.text.getLast?.any isBlank = false := by
    rw [PortEntry.text, List.getLast?_append, List.getLast?_eq_some_getLast e.name.nonempty]
    exact isBlank_of_isPlain (e.name.plain _ (List.getLast_mem e.name.nonempty))
  exact trim_append (a := ['\n', ' ', ' ']) hhead hlast (List.all_eq_true.1 (by decide)) hpost

theorem PortEntry.nameOffset_line (e : PortEntry) {post : List Char}
    (hpost : ∀ x ∈ post, x = '\n') :
    nameOffset ('\n' :: ' ' :: ' ' :: (e.text ++ post)) e.name.text = e.lead.length + 3 := by
  have hnested : Nested Kept (('\n' :: ' ' :: ' ' :: e.lead) ++ (e.name.text ++ post)) := by
    refine Nested.append (.char (by decide) (by decide) (.char (by decide) (by decide)
      (.char (by decide) (by decide) e.nested_lead))) (e.name.nested.append (.of_forall fun x hx => ?_))
    rw [hpost x hx]
    decide
  have hname : ∀ x ∈ post, x ∉ e.name.text := by
    intro x hx hmem
    rw [hpost x hx] at hmem
    exact absurd (e.name.plain _ hmem) (by decide)
  have := nameOffset_append e.name.nonempty hnested (by decide) hname
  rwa [List.cons_append, List.cons_append, List.cons_append, ← List.append_assoc] at this

/-- The line of a port is read back as the port. -/
theorem headerPortsFrom_line {e : PortEntry} {line post : List Char} {direction : Option Direction}
    {type : List Char} {before : PortHead} (hline : line = '\n' :: ' ' :: ' ' :: (e.text ++ post))
    (hpost : ∀ x ∈ post, x = '\n')
    (hbefore : e.head = none → direction = some before.direction ∧ type = before.type.text)
    (offset : Nat) (ss : List Segment) :
    let head := e.head.getD before
    headerPortsFrom direction type (⟨line, offset⟩ :: ss) =
      ⟨e.name.text, offset + (e.lead.length + 3),
        some ⟨e.name.string, head.direction, String.ofList head.type.text⟩⟩ ::
        headerPortsFrom (some head.direction) head.type.text ss := by
  have htrim : trim line = e.text := by
    rw [hline]
    exact e.trim_line fun x hx => by rw [hpost x hx]; decide
  have hoffset : nameOffset line e.name.text = e.lead.length + 3 := by
    rw [hline]
    exact e.nameOffset_line hpost
  have hne : e.text ≠ [] := fun hnil => e.name.nonempty (List.append_eq_nil_iff.1 hnil).2
  obtain ⟨head, name⟩ := e
  cases head with
  | none =>
    -- a name alone is a declaration without words in front
    obtain ⟨rfl, rfl⟩ := hbefore rfl
    have hname := PortType.declaredName_lead ⟨none, none⟩ name
    have htype : typeBefore (PortEntry.text ⟨none, name⟩) name.text = [] :=
      PortType.typeBefore_lead ⟨none, none⟩ name
    rw [headerPortsFrom_undirected htrim hne (direction?_name name) hname, hoffset, htype]
    rfl
  | some h =>
    rw [headerPortsFrom_directed htrim hne (direction?_headed h name) (h.type.declaredName_lead name),
      hoffset, h.type.typeBefore_lead, h.type.orType_lead]
    rfl

theorem headerPortsFrom_portLines : ∀ {es : List PortEntry} {direction : Option Direction}
    {type : List Char} (before : PortHead),
    (∀ e ∈ es.head?, e.head = none → direction = some before.direction ∧ type = before.type.text) →
    ∀ (offset : Nat), headerPortsFrom direction type (segmentsFrom offset (portLines es)) =
      headerPortsOf offset before es
  | [], _, _, _, _, _ => by
    rw [portLines, segmentsFrom, headerPortsFrom]
    rfl
  | [e], direction, type, before, h, offset => by
    rw [portLines, segmentsFrom, headerPortsFrom_line rfl (by simp) (h e rfl)]
    rfl
  | e :: f :: es, direction, type, before, h, offset => by
    have hline : '\n' :: ' ' :: ' ' :: e.text = '\n' :: ' ' :: ' ' :: (e.text ++ []) := by
      rw [List.append_nil]
    rw [portLines, segmentsFrom, headerPortsFrom_line hline (by simp) (h e rfl),
      headerPortsFrom_portLines (e.head.getD before) fun _ _ _ => ⟨rfl, rfl⟩]
    rfl

/-- The port list of a module is read back, up to the bracket behind it. -/
theorem headerPortList_portList (m : Module) (offset : Nat) (last : Option Char) (cs : List Char) :
    headerPortList ⟨offset, last, '(' :: (portList m.ports ++ ')' :: cs)⟩ =
      (headerPortsOf (offset + 1) noHead m.ports,
        ⟨offset + (portList m.ports).length + 2, some ')', cs⟩) := by
  have hfirst : ∀ e ∈ m.ports.head?, e.head = none →
      none = some noHead.direction ∧ "wire".toList = noHead.type.text := by
    intro e he hnone
    have := m.headed e he
    rw [hnone] at this
    cases this
  unfold headerPortList
  rw [enclosed?_group (by decide) (nested_portList m.ports)]
  simp only [headerPorts, splitTopLevel_portList, headerPortsFrom_portLines noHead hfirst]
  rfl

/-! ## The ports of the module -/

theorem isSome_headerPortsOf : ∀ {es : List PortEntry} (offset : Nat) (before : PortHead),
    ((headerPortsOf offset before es).all fun h => h.port.isSome) = true
  | [], _, _ => rfl
  | e :: es, offset, before => by
    rw [headerPortsOf, List.all_cons, isSome_headerPortsOf]
    rfl

theorem filterMap_headerPortsOf : ∀ {es : List PortEntry} (offset : Nat) (before : PortHead),
    (headerPortsOf offset before es).filterMap (·.port) = portsOf before es
  | [], _, _ => rfl
  | e :: es, offset, before => by
    simp only [headerPortsOf, List.filterMap_cons, filterMap_headerPortsOf, portsOf]

def portMark (h : HeaderPort) : Mark :=
  ⟨h.name, .port, h.offset, h.offset, "ansi_port_declaration"⟩

theorem modulePorts_headerPortsOf (es : List PortEntry) (offset : Nat) :
    modulePorts (headerPortsOf offset noHead es) [] =
      (portsOf noHead es, (headerPortsOf offset noHead es).map portMark) := by
  cases es with
  | nil => rfl
  | cons e es =>
    unfold modulePorts
    rw [isSome_headerPortsOf, filterMap_headerPortsOf]
    rfl

theorem PortEntry.lineOf_name (e : PortEntry) (pre post : List Char) :
    lineOf (pre ++ '\n' :: ' ' :: ' ' :: (e.text ++ post)) (pre.length + (e.lead.length + 3)) =
      pre.count '\n' + 2 := by
  have hlead : (' ' :: ' ' :: e.lead).all isInline = true := by
    simp only [List.all_cons, e.inline_lead]
    decide
  have h := lineOf_inline pre (e.name.text ++ post) hlead
  rw [PortEntry.text, List.append_assoc]
  exact h

/-- The ports are on the lines they are written on, behind the line that the port list starts on. -/
theorem extracted_headerPortsOf : ∀ (es : List PortEntry) (before : PortHead) (pre post : List Char),
    (headerPortsOf pre.length before es).map
        (fun h => (portMark h).extracted (pre ++ (portList es ++ post))) =
      (es.zipIdx (pre.count '\n' + 2)).map fun (e, l) =>
        ⟨e.name.string, .port, l, l, "ansi_port_declaration"⟩
  | [], _, _, _ => rfl
  | [e], before, pre, post => by
    have hline := e.lineOf_name pre ('\n' :: post)
    rw [portList_singleton]
    simp only [headerPortsOf, List.map_cons, List.map_nil, Mark.extracted, portMark, List.cons_append,
      List.append_assoc, List.nil_append, hline]
    rfl
  | e :: f :: es, before, pre, post => by
    -- each entry stands on a line of its own, the next one a line further down
    have hline := e.lineOf_name pre (',' :: (portList (f :: es) ++ post))
    have hrest := extracted_headerPortsOf (f :: es) (e.head.getD before)
      (pre ++ '\n' :: ' ' :: ' ' :: (e.text ++ [','])) post
    have hlength : (pre ++ '\n' :: ' ' :: ' ' :: (e.text ++ [','])).length =
        pre.length + (e.text.length + 3) + 1 := by
      simp only [List.length_append, List.length_cons, List.length_nil]
      omega
    have hcount : (pre ++ '\n' :: ' ' :: ' ' :: (e.text ++ [','])).count '\n' =
        pre.count '\n' + 1 := by
      rw [List.count_append, List.count_cons_self, List.count_cons_of_ne (by decide),
        List.count_cons_of_ne (by decide), List.count_append, count_inline e.inline]
      rfl
    have htext : pre ++ '\n' :: ' ' :: ' ' :: (e.text ++ [',']) ++ (portList (f :: es) ++ post) =
        pre ++ (portList (e :: f :: es) ++ post) := by
      rw [portList_cons_cons]
      simp
    rw [hlength, hcount, htext] at hrest
    rw [headerPortsOf, List.map_cons, hrest, List.zipIdx_cons, List.map_cons]
    congr 1
    simp only [Mark.extracted, portMark, portList_cons_cons, List.cons_append, List.append_assoc, hline]
    rfl

end RtlAtlas.Source.Ansi
