/-
What a scan finds. Every reader of a scan only moves forward, and what it marks it found behind the
place where it began: the mark lies there and its name, which reads like an identifier, stands there in
what the mark spans. So the same holds of everything that is marked in a module, and of all modules of
a text.
-/
import RtlAtlas.Proofs.Source.Declared

namespace RtlAtlas.Source

open RtlAtlas.Text Cursor

variable {c d : Cursor}

/-! ## Statements and routines -/

theorem Cursor.shows_enclosed? {inside : List Char} (h : c.enclosed? = some (inside, d)) :
    c.Shows (c.offset + 1) inside := by
  obtain ⟨n, hn, he⟩ := Option.map_eq_some_iff.1 h
  obtain ⟨rfl, -⟩ := Prod.mk.inj he
  cases hrest : c.rest with
  | nil =>
    rw [hrest] at hn
    cases hn
  | cons x xs =>
    exact ⟨[x], xs.drop (n - 1), by simp [hrest], rfl⟩

/-- A statement is read from a place on: what it declares stands there, and the place after it is
reached. -/
structure Statement.Read (c : Cursor) (s : Statement) : Prop where
  reaches : c.Reaches s.next
  body : c.Shows s.body.offset s.body.text

/-- A statement reaches from its keyword to the next semicolon. -/
theorem statement?_eq_some {words : List String} {s : Statement} (h : statement? words c = some s) :
    ∃ keyword after, c.word? words = some (keyword, after) ∧
      after.toSemicolon? = some (s.body.text, s.next) ∧ s.body.offset = after.offset ∧
      s.start = c.offset := by
  unfold statement? at h
  split at h
  · cases h
  · rename_i keyword after hword
    obtain ⟨⟨body, next⟩, hbody, rfl⟩ := Option.map_eq_some_iff.1 h
    exact ⟨keyword, after, hword, hbody, rfl, rfl⟩

theorem read_statement? {words : List String} {s : Statement} (h : statement? words c = some s) :
    s.Read c := by
  obtain ⟨keyword, after, hword, hbody, hoffset, -⟩ := statement?_eq_some h
  have hafter : c.Reaches after := reaches_word? hword
  obtain ⟨hnext, -, htext⟩ := of_toSemicolon? hbody
  refine ⟨hafter.trans hnext, Shows.of_reaches hafter ?_⟩
  rw [htext, hoffset]
  exact shows_of_prefix (List.takeWhile_prefix _)

theorem reaches_skipIndent (c : Cursor) : c.Reaches (skipIndent c) := reaches_advance _ _

theorem read_lineStatement? {words : List String} {s : Statement} (h : lineStatement? words c = some s) :
    s.Read c := by
  unfold lineStatement? at h
  split at h
  · obtain ⟨s', hs', rfl⟩ := Option.map_eq_some_iff.1 h
    have hindent := reaches_skipIndent c
    have hread := read_statement? hs'
    exact ⟨hindent.trans hread.reaches, hread.body.of_reaches hindent⟩
  · cases h

/-- A function or task is named in front of its first bracket or semicolon. -/
theorem routine?_eq_some {r : Routine} (h : routine? c = some r) :
    ∃ keyword after, c.word? ["function", "task"] = some (keyword, after) ∧ after.Reaches r.next ∧
      r.start = c.offset ∧ r.stop = r.next.offset ∧ r.name = declaredName
        ((after.upTo r.next.offset).rest.takeWhile fun x => x != '(' && x != ';') := by
  unfold routine? at h
  split at h
  · cases h
  · rename_i keyword after hword
    have hnext : after.Reaches r.next := by
      cases h
      dsimp only
      split
      · rename_i hs
        obtain ⟨e, he, hp⟩ := search_eq_some hs
        exact he.trans (reaches_word? hp)
      · exact reaches_advance _ _
    cases h
    refine ⟨keyword, after, hword, hnext, rfl, rfl, ?_⟩
    dsimp only

theorem reaches_routine? {r : Routine} (h : routine? c = some r) : c.Reaches r.next := by
  obtain ⟨_, after, hword, hnext, -⟩ := routine?_eq_some h
  exact (reaches_word? hword).trans hnext

/-- The name of a function or task stands between its keyword and its end. -/
theorem found_routine? {r : Routine} {m : Mark} (hr : routine? c = some r) (h : r.mark? = some m) :
    m.Found c := by
  obtain ⟨name, hname, rfl⟩ := Option.map_eq_some_iff.1 h
  obtain ⟨_, after, hword, hnext, hstart, hstop, hhead⟩ := routine?_eq_some hr
  have hafter : c.Reaches after := reaches_word? hword
  rw [hhead] at hname
  obtain ⟨hstarts, hisName, hin⟩ := declaredName_eq_some hname
  obtain ⟨a, b, hab⟩ :=
    hin.trans ((isPrefix_cutFrom '=' _ 0).trans (List.takeWhile_prefix _)).isInfix
  have hshown : (after.upTo r.next.offset).Shows (after.offset + a.length) name :=
    ⟨a, b, by rw [← hab, List.append_assoc], rfl⟩
  -- what the routine is named in front of ends where the routine does
  have hhigh := hshown.high
  have hlow := hafter.offset_le
  have hle := hnext.offset_le
  have hend := (hafter.trans hnext).stop_eq
  simp only [Cursor.upTo, List.length_take] at hhigh
  refine ⟨Nat.le_of_eq hstart.symm, ?_, after.offset + a.length, ?_, ?_, hstarts, hisName,
    hshown.of_upTo.of_reaches hafter⟩
  · simp only
    omega
  · simp only
    omega
  · simp only
    omega

/-! ## Headers -/

/-- The parameters of a header are found behind the place where it begins. -/
theorem found_headerParameters (c : Cursor) :
    c.Reaches (headerParameters c).2 ∧ ∀ m ∈ (headerParameters c).1, m.Found c := by
  unfold headerParameters
  simp only
  split
  · split
    · rename_i inside after henclosed
      have hbracket : c.Reaches (c.advance 1).skipBlank :=
        (reaches_advance 1 c).trans (reaches_skipBlank _)
      refine ⟨hbracket.trans ((of_enclosed? henclosed).1.trans (reaches_skipBlank _)), fun m hm => ?_⟩
      exact (found_parameterMarks (shows_enclosed? henclosed) hm).of_reaches hbracket
    · exact ⟨Reaches.refl c, fun m hm => by cases hm⟩
  · exact ⟨Reaches.refl c, fun m hm => by cases hm⟩

/-- The names of a port list stand behind the place where it begins. -/
theorem names_headerPortList (c : Cursor) :
    c.Reaches (headerPortList c).2 ∧ ∀ p ∈ (headerPortList c).1, c.Names p.offset p.name := by
  unfold headerPortList
  split
  · split
    · rename_i inside after henclosed
      exact ⟨(of_enclosed? henclosed).1, fun p hp =>
        names_headerPortsFrom (fun _ hs => (shows_enclosed? henclosed).of_mem_splitFrom hs) hp⟩
    · exact ⟨Reaches.refl c, fun p hp => by cases hp⟩
  · exact ⟨Reaches.refl c, fun p hp => by cases hp⟩

/-! ## Instances -/

theorem reaches_skipRanges : ∀ (fuel : Nat) (c : Cursor), c.Reaches (skipRanges fuel c)
  | 0, c => Reaches.refl c
  | fuel + 1, c => by
    unfold skipRanges
    simp only
    split
    · split
      · exact (reaches_advance _ c).trans ((reaches_skipBlank _).trans (reaches_skipRanges fuel _))
      · exact Reaches.refl c
    · exact Reaches.refl c

/-- The mark of an instance starts with the instance, at its name. -/
theorem found_instanceAfter? {moduleType : List Char} {parameters : OrderedMap String String}
    {next : Cursor} {i : InstanceMark} {m : Mark}
    (h : instanceAfter? moduleType parameters c = some (i, m, next)) :
    c.Reaches next ∧ m.Found c ∧ i.start = m.start := by
  unfold instanceAfter? at h
  simp only at h
  split at h
  · cases h
  · rename_i name after hname
    split at h
    · cases h
    · split at h
      · cases h
      · rename_i inside close henclosed
        -- everything was there: the bounds add up along the way
        split at h
        · cases h
          have hstart := reaches_skipBlank c
          have hbracket := (reaches_ident? hname).trans
            ((reaches_skipBlank after).trans (reaches_skipRanges after.rest.length _))
          obtain ⟨hclose, hoffset⟩ := of_enclosed? henclosed
          have htail := (reaches_skipBlank close).trans (reaches_advance 1 _)
          have hall := hstart.trans (hbracket.trans hclose)
          have hend := hall.stop_eq
          have hle := hbracket.offset_le
          refine ⟨hall.trans htail, ⟨hstart.offset_le, ?_, _, Nat.le_refl _, ?_,
            (names_ident? hname).of_reaches hstart⟩, rfl⟩
          · simp only
            omega
          · simp only
            omega
        · cases h

/-- The start of an instantiation stands at the start of a line. -/
theorem placed_instanceLead? {lead : InstanceLead} (h : instanceLead? c = some lead) :
    c.atLineStart = true ∧ c.Reaches lead.next ∧ ∀ d, lead.overrides = some d → c.Reaches d := by
  unfold instanceLead? at h
  split at h
  · cases h
  · rename_i hline
    split at h
    · cases h
    · rename_i moduleType after hname
      have hgap := (reaches_skipIndent c).trans ((reaches_ident? hname).trans (reaches_skipBlank after))
      have hbracket := hgap.trans ((reaches_advance 1 _).trans (reaches_skipBlank _))
      rw [Bool.not_eq_true, Bool.not_eq_false'] at hline
      simp only at h
      split at h
      · cases h
        refine ⟨hline, hbracket.trans (reaches_advance 1 _), fun d hd => ?_⟩
        cases hd
        exact hbracket
      · cases h
        refine ⟨hline, hgap, fun d hd => ?_⟩
        cases hd

theorem found_instance? {next : Cursor} {lead : InstanceLead} {i : InstanceMark} {m : Mark}
    (hlead : instanceLead? c = some lead) (h : lead.instance? = some (i, m, next)) :
    c.Reaches next ∧ m.Found c ∧ i.start = m.start := by
  obtain ⟨-, hnext, hoverrides⟩ := placed_instanceLead? hlead
  have hfrom : ∀ {d : Cursor}, c.Reaches d → d.Reaches next ∧ m.Found d ∧ i.start = m.start →
      c.Reaches next ∧ m.Found c ∧ i.start = m.start := fun hd ⟨hreaches, hfound, hstart⟩ =>
    ⟨hd.trans hreaches, hfound.of_reaches hd, hstart⟩
  unfold InstanceLead.instance? at h
  split at h
  · exact hfrom hnext (found_instanceAfter? h)
  · rename_i bracket hb
    split at h
    · cases h
    · rename_i inside after henclosed
      exact hfrom ((hoverrides bracket hb).trans (of_enclosed? henclosed).1) (found_instanceAfter? h)

/-- Every instance is found behind the start of some line. -/
theorem found_instancesFrom {routines : List Routine} {i : InstanceMark} {m : Mark} :
    ∀ {fuel : Nat} {c : Cursor}, (i, m) ∈ instancesFrom routines fuel c →
      ∃ d, c.Reaches d ∧ d.atLineStart = true ∧ m.Found d ∧ i.start = m.start
  | 0, _, h => by cases h
  | fuel + 1, c, h => by
    unfold instancesFrom at h
    split at h
    · cases h
    · rename_i lead hsearch
      obtain ⟨d, hd, hlead⟩ := search_eq_some hsearch
      obtain ⟨hline, hnext, -⟩ := placed_instanceLead? hlead
      -- found or not, the search goes on at a place that is reached
      have hlater : ∀ {e : Cursor}, c.Reaches e → (i, m) ∈ instancesFrom routines fuel e →
          ∃ d, c.Reaches d ∧ d.atLineStart = true ∧ m.Found d ∧ i.start = m.start := by
        intro e he hfound
        obtain ⟨d', hd', hrest⟩ := found_instancesFrom hfound
        exact ⟨d', he.trans hd', hrest⟩
      simp only at h
      split at h
      · exact hlater (hd.trans hnext) h
      · rename_i j mark next hfound
        split at hfound
        · cases hfound
        · obtain ⟨hreaches, hmark, hstart⟩ := found_instance? hlead hfound
          rcases List.mem_cons.1 h with he | h
          · cases he
            exact ⟨d, hd, hline, hmark, hstart⟩
          · exact hlater (hd.trans hreaches) h

/-! ## The parts of a module -/

/-- The parameters of the header of a module, and the place after them. -/
def ModuleHead.parameters (head : ModuleHead) (stop : Nat) : List Mark × Cursor :=
  headerParameters (head.next.upTo stop).skipBlank

/-- The port list of a module, and the place after it. -/
def ModuleHead.portList (head : ModuleHead) (stop : Nat) : List HeaderPort × Cursor :=
  headerPortList (head.parameters stop).2

/-- The place behind the header of a module. -/
def ModuleHead.body (head : ModuleHead) (stop : Nat) : Cursor :=
  match (head.portList stop).2.toSemicolon? with
  | some (_, next) => next
  | none => (head.portList stop).2

namespace Cursor

/-- The functions and tasks from a place on. -/
def routines (body : Cursor) : List Routine := body.searchAll routine? (·.next)

/-- The statements from a place on that lie outside functions and tasks. -/
def statements (body : Cursor) (pattern : Cursor → Option Statement) : List Statement :=
  (body.searchAll pattern (·.next)).filter fun s => !inRoutine body.routines s.start

/-- The ports that are declared from a place on. -/
def declaredPorts (body : Cursor) : List (Port × Mark) :=
  (body.statements (statement? ["input", "output", "inout"])).flatMap bodyPorts

/-- The marks of the signals that are declared from a place on. -/
def declaredSignals (body : Cursor) : List Mark :=
  (body.statements (lineStatement? ["wire", "reg", "logic", "tri", "wand", "wor", "bit"])).flatMap
    signalMarks

/-- The marks of the parameters that are declared from a place on. -/
def declaredParameters (body : Cursor) : List Mark :=
  (body.statements (statement? ["parameter", "localparam"])).flatMap fun s =>
    parameterMarks "parameter_declaration" s.body

/-- The instances from a place on. -/
def declaredInstances (body : Cursor) : List (InstanceMark × Mark) :=
  instancesFrom body.routines (body.rest.length + 1) body

end Cursor

/-- A module is made of the parts of its header and of its body. -/
theorem scanModule_eq (head : ModuleHead) (stop : Nat) : scanModule head stop =
    let body := head.body stop
    let ports := modulePorts (head.portList stop).1 body.declaredPorts
    { name := head.name
      start := head.start
      stop := stop
      ports := ports.1
      marks := (head.parameters stop).1 ++ body.routines.filterMap Routine.mark? ++ ports.2 ++
        [⟨head.name, .module, head.start, stop, "module_declaration"⟩] ++ body.declaredSignals ++
        body.declaredParameters ++ body.declaredInstances.map (·.2)
      instances := body.declaredInstances.map (·.1) } := rfl

/-- The body of a module is reached from its name, behind which the parts of its header are found. -/
theorem found_header (head : ModuleHead) (stop : Nat) :
    (head.next.upTo stop).Reaches (head.body stop) ∧
      (∀ m ∈ (head.parameters stop).1, m.Found (head.next.upTo stop)) ∧
      ∀ p ∈ (head.portList stop).1, (head.next.upTo stop).Names p.offset p.name := by
  have hskip := reaches_skipBlank (head.next.upTo stop)
  obtain ⟨hparameters, hmarks⟩ := found_headerParameters (head.next.upTo stop).skipBlank
  obtain ⟨hlist, hports⟩ := names_headerPortList (head.parameters stop).2
  have hatPorts := hskip.trans hparameters
  refine ⟨?_, fun m hm => (hmarks m hm).of_reaches hskip, fun p hp => (hports p hp).of_reaches hatPorts⟩
  unfold ModuleHead.body
  split
  · rename_i hs
    exact (hatPorts.trans hlist).trans (of_toSemicolon? hs).1
  · exact hatPorts.trans hlist

theorem shows_statements {body : Cursor} {pattern : Cursor → Option Statement}
    (hread : ∀ d s, pattern d = some s → s.Read d) {s : Statement} (hs : s ∈ body.statements pattern) :
    body.Shows s.body.offset s.body.text := by
  obtain ⟨d, hd, hp⟩ := mem_searchAllFrom (fun d s h => (hread d s h).reaches) (List.mem_filter.1 hs).1
  exact (hread d s hp).body.of_reaches hd

/-- What is marked in a module is the module itself, or it is found behind the name of the module. -/
theorem found_scanModule {head : ModuleHead} {stop : Nat} {m : Mark}
    (hm : m ∈ (scanModule head stop).marks) :
    m = ⟨head.name, .module, head.start, stop, "module_declaration"⟩ ∨
      m.Found (head.next.upTo stop) := by
  obtain ⟨hbody, hparameters, hports⟩ := found_header head stop
  rw [scanModule_eq] at hm
  simp only [List.append_assoc, List.mem_append] at hm
  -- header parameters, routines, ports, the module itself, signals, parameters, instances
  rcases hm with hm | hm | hm | hm | hm | hm | hm
  · exact .inr (hparameters m hm)
  · obtain ⟨r, hr, hmark⟩ := List.mem_filterMap.1 hm
    obtain ⟨d, hd, hp⟩ := mem_searchAllFrom (fun d r h => reaches_routine? h) hr
    exact .inr ((found_routine? hp hmark).of_reaches (hbody.trans hd))
  · refine .inr (found_modulePorts hports (fun p hp => ?_) hm)
    obtain ⟨s, hs, hp⟩ := List.mem_flatMap.1 hp
    have hshown := shows_statements (fun _ _ h => read_statement? h) hs
    exact (found_bodyPorts hshown hp).of_reaches hbody
  · exact .inl (List.mem_singleton.1 hm)
  · obtain ⟨s, hs, hm⟩ := List.mem_flatMap.1 hm
    have hshown := shows_statements (fun _ _ h => read_lineStatement? h) hs
    exact .inr ((found_signalMarks hshown hm).of_reaches hbody)
  · obtain ⟨s, hs, hm⟩ := List.mem_flatMap.1 hm
    have hshown := shows_statements (fun _ _ h => read_statement? h) hs
    exact .inr ((found_parameterMarks hshown hm).of_reaches hbody)
  · obtain ⟨⟨i, m'⟩, hf, rfl⟩ := List.mem_map.1 hm
    obtain ⟨d, hd, -, hfound, -⟩ := found_instancesFrom hf
    exact .inr (hfound.of_reaches (hbody.trans hd))

/-! ## Modules -/

theorem placed_afterWordAndBlank? {word : String}
    (h : afterWordAndBlank? word c = some d) : c.Reaches d ∧ c.offset < d.offset := by
  unfold afterWordAndBlank? at h
  split at h
  · cases h
  · simp only at h
    split at h
    · rename_i hlt
      cases h
      have hgap := (reaches_advance word.length c).offset_le
      exact ⟨(reaches_advance _ _).trans (reaches_skipBlank _), by omega⟩
    · cases h

theorem names_moduleName? {next : Cursor} {name : List Char} (h : moduleName? c = some (name, next)) :
    ∃ d, c.Reaches d ∧ d.Reaches next ∧ d.Names d.offset name := by
  unfold moduleName? at h
  split at h
  · rename_i hfound
    cases h
    obtain ⟨d, hd, hname⟩ := Option.bind_eq_some_iff.1 hfound
    obtain ⟨word, -, hword⟩ := List.exists_of_findSome?_eq_some hd
    exact ⟨d, (placed_afterWordAndBlank? hword).1, reaches_ident? hname, names_ident? hname⟩
  · exact ⟨c, Reaches.refl c, reaches_ident? h, names_ident? h⟩

/-- A module starts at its keyword, and its name ends behind that. -/
theorem names_moduleHead? {head : ModuleHead} (h : moduleHead? c = some head) :
    head.start = c.offset ∧ c.Reaches head.next ∧ c.offset < head.next.offset ∧
      ∃ k, c.offset ≤ k ∧ k ≤ head.next.offset ∧ c.Names k head.name := by
  unfold moduleHead? at h
  split at h
  · cases h
  · split at h
    · cases h
    · rename_i name next hb
      cases h
      obtain ⟨e, he, hname⟩ := Option.bind_eq_some_iff.1 hb
      obtain ⟨word, -, hword⟩ := List.exists_of_findSome?_eq_some he
      obtain ⟨hreach, hlt⟩ := placed_afterWordAndBlank? hword
      obtain ⟨d, hd, hnext, hnames⟩ := names_moduleName? hname
      refine ⟨rfl, hreach.trans (hd.trans hnext),
        Nat.lt_of_lt_of_le hlt (hd.trans hnext).offset_le, d.offset, (hreach.trans hd).offset_le,
        hnext.offset_le, hnames.of_reaches (hreach.trans hd)⟩

/-- A module of a scan begins with a head behind the place, and ends behind the head. -/
theorem mem_scanFrom {part : ModuleMark} : ∀ {fuel : Nat} {c : Cursor}, part ∈ scanFrom fuel c →
    ∃ d head stop, c.Reaches d ∧ moduleHead? d = some head ∧ part = scanModule head stop ∧
      head.next.offset ≤ stop ∧ stop ≤ c.offset + c.rest.length
  | 0, _, h => by cases h
  | fuel + 1, c, h => by
    unfold scanFrom at h
    split at h
    · cases h
    · rename_i head hhead
      obtain ⟨d, hd, hp⟩ := search_eq_some hhead
      have hnext := hd.trans (names_moduleHead? hp).2.1
      split at h
      · -- without an end it reaches to the end of the text
        obtain rfl := List.mem_singleton.1 h
        exact ⟨d, head, _, hd, hp, rfl, Nat.le_add_right _ _, Nat.le_of_eq hnext.stop_eq⟩
      · rename_i stop next hend
        obtain ⟨e, he, hword⟩ := search_eq_some hend
        obtain ⟨⟨word, next'⟩, hw, heq⟩ := Option.map_eq_some_iff.1 hword
        obtain ⟨rfl, rfl⟩ := Prod.mk.inj heq
        have hreached := hnext.trans he
        rcases List.mem_cons.1 h with rfl | h
        · have hstop := hreached.stop_eq
          exact ⟨d, head, e.offset, hd, hp, rfl, he.offset_le, by omega⟩
        · have hafter := hreached.trans (reaches_word? hw)
          obtain ⟨d', head', stop', hd', hrest⟩ := mem_scanFrom h
          exact ⟨d', head', stop', hafter.trans hd', hafter.stop_eq ▸ hrest⟩

/-- All that is marked in a module of a scan is found behind the place where the scan begins. -/
theorem found_scanFrom {fuel : Nat} {part : ModuleMark} (h : part ∈ scanFrom fuel c) {m : Mark}
    (hm : m ∈ part.marks) : m.Found c := by
  obtain ⟨d, head, stop, hd, hhead, rfl, hle, hstop⟩ := mem_scanFrom h
  obtain ⟨hstart, hnext, hlt, k, hk, hk', hnames⟩ := names_moduleHead? hhead
  rcases found_scanModule hm with rfl | hfound
  · refine ⟨?_, hstop, k, ?_, Nat.le_trans hk' hle, hnames.of_reaches hd⟩
    · exact hstart ▸ hd.offset_le
    · exact hstart ▸ hk
  · exact hfound.of_upTo.of_reaches (hd.trans hnext)

end RtlAtlas.Source
