/-
The starts of instantiations that a scan comes upon. It tries them one after the other, and goes on behind
the start it has tried or behind the instance it has found there. So the instances come in the order of
their names, and a line is looked at for an instance exactly when the scan does not go on behind it from
a start in front.
-/
import RtlAtlas.Proofs.Source.Passage

namespace RtlAtlas.Source

open RtlAtlas.Text Cursor

/-! ## One start -/

variable {routines : List Routine} {c d place : Cursor} {lead : InstanceLead} {i : InstanceMark} {m : Mark}

theorem instanceLead?_eq_some (h : instanceLead? c = some lead) :
    c.atLineStart = true ∧ lead.start = c.offset ∧
      ∃ after, (skipIndent c).ident? = some (lead.moduleType, after) ∧
        ((lead.overrides = none ∧ lead.next = after.skipBlank) ∨
          ∃ bracket, after.skipBlank.startsWith '#' = true ∧
            bracket = (after.skipBlank.advance 1).skipBlank ∧ bracket.startsWith '(' = true ∧
            lead.overrides = some bracket ∧ lead.next = bracket.advance 1) := by
  unfold instanceLead? at h
  split at h
  · cases h
  · rename_i hline
    rw [Bool.not_eq_true, Bool.not_eq_false'] at hline
    split at h
    · cases h
    · rename_i moduleType after hname
      simp only at h
      split at h
      · rename_i hstarts
        obtain ⟨hhash, hround⟩ := Bool.and_eq_true_iff.1 hstarts
        cases h
        exact ⟨hline, rfl, after, hname, .inr ⟨_, hhash, rfl, hround, rfl, rfl⟩⟩
      · cases h
        exact ⟨hline, rfl, after, hname, .inl ⟨rfl, rfl⟩⟩

theorem instanceAfter?_eq_some {moduleType : List Char} {parameters : OrderedMap String String}
    (h : instanceAfter? moduleType parameters c = some (i, m, d)) :
    ∃ name after bracket inside close, c.skipBlank.ident? = some (name, after) ∧
      bracket = skipRanges after.rest.length after.skipBlank ∧ bracket.startsWith '(' = true ∧
      bracket.enclosed? = some (inside, close) ∧
      (close.skipBlank.startsWith ';' = true ∨ close.skipBlank.startsWith ',' = true) ∧
      i.start = c.skipBlank.offset ∧ d = close.skipBlank.advance 1 := by
  unfold instanceAfter? at h
  simp only at h
  split at h
  · cases h
  · rename_i name after hname
    split at h
    · cases h
    · rename_i hbracket
      split at h
      · cases h
      · rename_i inside close henclosed
        split at h
        · rename_i htail
          cases h
          obtain ⟨hround, -⟩ : (skipRanges after.rest.length after.skipBlank).startsWith '(' = true ∧
              isKeyword name = false := by
            simpa using hbracket
          exact ⟨name, after, _, inside, close, hname, rfl, hround, henclosed, Bool.or_eq_true_iff.1 htail,
            rfl, rfl⟩
        · cases h

/-- An instance is looked for behind the module type, and behind the overrides if there are any. -/
theorem InstanceLead.instance?_eq_some (h : lead.instance? = some (i, m, d)) :
    ∃ parameters place, instanceAfter? lead.moduleType parameters place = some (i, m, d) ∧
      ((lead.overrides = none ∧ place = lead.next) ∨
        ∃ bracket inside, lead.overrides = some bracket ∧ bracket.enclosed? = some (inside, place)) := by
  unfold instance? at h
  split at h
  · rename_i hnone
    exact ⟨_, _, h, .inl ⟨hnone, rfl⟩⟩
  · rename_i bracket hbracket
    split at h
    · cases h
    · rename_i inside after henclosed
      exact ⟨_, _, h, .inr ⟨bracket, inside, hbracket, henclosed⟩⟩

theorem passes_skipIndent (c : Cursor) : ∃ indent, IsIndent indent ∧ c.Passes indent (skipIndent c) := by
  have hrest := (List.takeWhile_append_dropWhile (p := fun x => x == ' ' || x == '\t') (l := c.rest)).symm
  refine ⟨_, fun x hx => ?_, passes_append hrest⟩
  simpa using List.mem_takeWhile_imp hx

/-- The search goes on behind a start of an instantiation, and an instance that it leads to is named behind
it and in front of where the search goes on. -/
theorem order_instanceLead? (h : instanceLead? c = some lead) : c.Reaches lead.next ∧
    c.offset < lead.next.offset ∧ ∀ bracket, lead.overrides = some bracket → c.Reaches bracket := by
  obtain ⟨-, hnext, hbracket⟩ := placed_instanceLead? h
  refine ⟨hnext, ?_, hbracket⟩
  obtain ⟨-, -, after, hname, hlead⟩ := instanceLead?_eq_some h
  obtain ⟨hpass, hstarts, -⟩ := passes_ident? hname
  have hlength : 0 < lead.moduleType.length := List.length_pos_iff.2 (ne_nil_of_isIdentStart hstarts)
  have hafter := hpass.offset
  have hindent := (reaches_skipIndent c).offset_le
  have hgap := (reaches_skipBlank after).offset_le
  rcases hlead with ⟨-, hnext⟩ | ⟨bracket, -, hbracket, -, -, hnext⟩
  · rw [hnext]
    omega
  · have hhash := (reaches_advance 1 after.skipBlank).offset_le
    have hblank := (reaches_skipBlank (after.skipBlank.advance 1)).offset_le
    have hopen := (reaches_advance 1 bracket).offset_le
    rw [← hbracket] at hblank
    rw [hnext]
    omega

theorem order_instance? (hlead : instanceLead? c = some lead) (h : lead.instance? = some (i, m, d)) :
    c.Reaches d ∧ c.offset ≤ i.start ∧ i.start < d.offset := by
  obtain ⟨hreaches, hfound, hsame⟩ := found_instance? hlead h
  refine ⟨hreaches, hsame ▸ hfound.low, ?_⟩
  obtain ⟨parameters, place, hafter, -⟩ := InstanceLead.instance?_eq_some h
  obtain ⟨name, after, bracket, inside, close, hname, hbracket, hround, henclosed, -, hstart, rfl⟩ :=
    instanceAfter?_eq_some hafter
  have hnameAt := (reaches_ident? hname).offset_le
  have hgap := (reaches_skipBlank after).offset_le
  have hranges := (reaches_skipRanges after.rest.length after.skipBlank).offset_le
  have hclose := (of_enclosed? henclosed).2
  have htail := ((reaches_skipBlank close).trans (reaches_advance 1 _)).offset_le
  rw [← hbracket] at hranges
  omega

namespace InstanceLead

/-- The instance that a start of an instantiation leads to, unless it is a keyword or lies in a routine. -/
def found? (routines : List Routine) (lead : InstanceLead) : Option (InstanceMark × Mark × Cursor) :=
  if isKeyword lead.moduleType || inRoutine routines lead.start then none else lead.instance?

/-- The place where the search goes on behind a start of an instantiation. -/
def behind (routines : List Routine) (lead : InstanceLead) : Cursor :=
  ((lead.found? routines).map (·.2.2)).getD lead.next

theorem instance?_of_found? {f : InstanceMark × Mark × Cursor} (h : lead.found? routines = some f) :
    lead.instance? = some f := by
  unfold found? at h
  split at h
  · cases h
  · exact h

theorem behind_of_found? {f : InstanceMark × Mark × Cursor} (h : lead.found? routines = some f) :
    lead.behind routines = f.2.2 := by
  rw [behind, h]
  rfl

theorem reaches_behind (routines : List Routine) (h : instanceLead? c = some lead) :
    c.Reaches (lead.behind routines) ∧ c.offset < (lead.behind routines).offset := by
  cases hf : lead.found? routines with
  | none =>
    obtain ⟨hnext, hlt, -⟩ := order_instanceLead? h
    rw [behind, hf]
    exact ⟨hnext, hlt⟩
  | some f =>
    obtain ⟨hreaches, hlow, hhigh⟩ := order_instance? h (instance?_of_found? hf)
    rw [behind_of_found? hf]
    exact ⟨hreaches, Nat.lt_of_le_of_lt hlow hhigh⟩

/-- Where no overrides follow, the search goes on behind the module type. -/
theorem reaches_behind_of_plain (routines : List Routine) (hplain : lead.overrides = none) :
    lead.next.Reaches (lead.behind routines) := by
  cases hf : lead.found? routines with
  | none =>
    rw [behind, hf]
    exact .refl _
  | some f =>
    obtain ⟨parameters, place, hinstance, hplace⟩ := instance?_eq_some (instance?_of_found? hf)
    rw [behind_of_found? hf]
    rcases hplace with ⟨-, rfl⟩ | ⟨bracket, -, hsome, -⟩
    · exact (found_instanceAfter? hinstance).1
    · rw [hplain] at hsome
      cases hsome

end InstanceLead

/-! ## All starts -/

/-- The starts of instantiations that are tried from a place on. -/
def leadsFrom (routines : List Routine) : Nat → Cursor → List InstanceLead
  | 0, _ => []
  | fuel + 1, c =>
    match c.search instanceLead? with
    | none => []
    | some lead => lead :: leadsFrom routines fuel (lead.behind routines)

/-- The starts of instantiations that are tried in the body of a module. -/
def Cursor.leads (body : Cursor) : List InstanceLead :=
  leadsFrom body.routines (body.rest.length + 1) body

/-- Whether the line at an offset is looked at for an instance. -/
def Cursor.readsLine (body : Cursor) (offset : Nat) : Bool := body.leads.any (·.start == offset)

/-- The instances are those that the starts lead to. -/
theorem instancesFrom_eq : ∀ (fuel : Nat) (c : Cursor), instancesFrom routines fuel c =
    (leadsFrom routines fuel c).filterMap fun lead => (lead.found? routines).map fun f => (f.1, f.2.1)
  | 0, _ => rfl
  | fuel + 1, c => by
    unfold instancesFrom leadsFrom
    cases c.search instanceLead? with
    | none => rfl
    | some lead =>
      simp only [List.filterMap_cons, ← instancesFrom_eq fuel]
      unfold InstanceLead.behind InstanceLead.found?
      split
      · rename_i hnone
        rw [hnone]
        rfl
      · rename_i hsome
        rw [hsome]
        rfl

theorem mem_leadsFrom : ∀ {fuel : Nat} {c : Cursor}, lead ∈ leadsFrom routines fuel c →
    ∃ d, c.Reaches d ∧ instanceLead? d = some lead
  | 0, _, h => by cases h
  | fuel + 1, c, h => by
    unfold leadsFrom at h
    split at h
    · cases h
    · rename_i first hsearch
      obtain ⟨d, hd, hfirst⟩ := search_eq_some hsearch
      rcases List.mem_cons.1 h with rfl | h
      · exact ⟨d, hd, hfirst⟩
      · obtain ⟨e, he, hlead⟩ := mem_leadsFrom h
        exact ⟨e, hd.trans ((InstanceLead.reaches_behind routines hfirst).1.trans he), hlead⟩

/-- A start is tried behind where the search goes on from the starts in front. -/
theorem pairwise_leadsFrom : ∀ (fuel : Nat) (c : Cursor), (leadsFrom routines fuel c).Pairwise
    fun a b => (a.behind routines).offset ≤ b.start
  | 0, _ => .nil
  | fuel + 1, c => by
    unfold leadsFrom
    split
    · exact .nil
    · refine .cons (fun lead hlead => ?_) (pairwise_leadsFrom fuel _)
      obtain ⟨d, hd, hat⟩ := mem_leadsFrom hlead
      rw [(instanceLead?_eq_some hat).2.1]
      exact hd.offset_le

theorem mem_declaredInstances {body : Cursor} {r : InstanceMark × Mark} : r ∈ body.declaredInstances ↔
    ∃ lead ∈ body.leads, ∃ next, lead.found? body.routines = some (r.1, r.2, next) := by
  unfold Cursor.declaredInstances Cursor.leads
  rw [instancesFrom_eq, List.mem_filterMap]
  refine exists_congr fun lead => and_congr_right fun _ => ?_
  rw [Option.map_eq_some_iff]
  exact ⟨fun ⟨f, hf, he⟩ => ⟨f.2.2, he ▸ hf⟩, fun ⟨next, hf⟩ => ⟨_, hf, rfl⟩⟩

/-- The instances of a module come in the order of their names. -/
theorem pairwise_declaredInstances (body : Cursor) :
    body.declaredInstances.Pairwise fun a b => a.1.start < b.1.start := by
  have hplaced : ∀ lead ∈ body.leads, ∀ f, lead.found? body.routines = some f →
      lead.start ≤ f.1.start ∧ f.1.start < (lead.behind body.routines).offset := by
    intro lead hlead f hf
    obtain ⟨d, -, hat⟩ := mem_leadsFrom hlead
    obtain ⟨-, hlow, hhigh⟩ := order_instance? hat (InstanceLead.instance?_of_found? hf)
    rw [(instanceLead?_eq_some hat).2.1, InstanceLead.behind_of_found? hf]
    exact ⟨hlow, hhigh⟩
  unfold Cursor.declaredInstances
  rw [instancesFrom_eq, List.pairwise_filterMap]
  refine (pairwise_leadsFrom _ _).imp_of_mem fun {a b} ha hb hbehind r hr r' hr' => ?_
  obtain ⟨f, hf, rfl⟩ := Option.map_eq_some_iff.1 hr
  obtain ⟨f', hf', rfl⟩ := Option.map_eq_some_iff.1 hr'
  have hbefore := (hplaced a ha f hf).2
  have hafter := (hplaced b hb f' hf').1
  exact Nat.lt_of_lt_of_le hbefore (Nat.le_trans hbehind hafter)

/-! ## Which lines are looked at -/

/-- A search ends at the latest where its pattern matches. -/
theorem Cursor.search_of_reaches {α : Type} {pattern : Cursor → Option α} {found : α}
    (h : c.Reaches place) (hplace : pattern place = some found) :
    ∃ d first, c.Reaches d ∧ d.Reaches place ∧ pattern d = some first ∧ c.search pattern = some first := by
  obtain ⟨n, rfl⟩ := h
  induction n generalizing c with
  | zero => exact ⟨c, found, .refl c, .refl c, hplace, search_here hplace⟩
  | succ n ih =>
    cases hhere : pattern c with
    | some first => exact ⟨c, first, .refl c, reaches_advance _ c, hhere, search_here hhere⟩
    | none =>
      obtain ⟨offset, last, rest⟩ := c
      cases rest with
      | nil =>
        rw [show (⟨offset, last, []⟩ : Cursor).advance (n + 1) = ⟨offset, last, []⟩ from rfl, hhere] at hplace
        cases hplace
      | cons x xs =>
        obtain ⟨d, first, hd, hto, hfirst, hsearch⟩ := ih hplace
        refine ⟨d, first, .trans ⟨1, rfl⟩ hd, hto, hfirst, ?_⟩
        rw [← hsearch]
        simp only [search, searchIn, hhere]

/-- A place where an instantiation may start is tried, or the search goes on behind it from a start in
front. -/
theorem tried_or_passed {start : InstanceLead} (hplace : instanceLead? place = some start) :
    ∀ {fuel : Nat} {c : Cursor}, c.rest.length < fuel → c.Reaches place →
      (∃ lead ∈ leadsFrom routines fuel c, lead.start = place.offset) ∨
        ∃ lead ∈ leadsFrom routines fuel c,
          lead.start < place.offset ∧ place.offset < (lead.behind routines).offset
  | 0, _, h, _ => by cases h
  | fuel + 1, c, h, hreaches => by
    obtain ⟨d, first, hd, hto, hfirst, hsearch⟩ := search_of_reaches hreaches hplace
    obtain ⟨-, hstart, -⟩ := instanceLead?_eq_some hfirst
    obtain ⟨hbehind, hlt⟩ := InstanceLead.reaches_behind routines hfirst
    unfold leadsFrom
    rw [hsearch]
    have hhere : ∀ {p : InstanceLead → Prop},
        (∃ lead ∈ leadsFrom routines fuel (first.behind routines), p lead) →
        ∃ lead ∈ first :: leadsFrom routines fuel (first.behind routines), p lead :=
      fun ⟨lead, hlead, hp⟩ => ⟨lead, List.mem_cons_of_mem _ hlead, hp⟩
    rcases Nat.lt_or_ge d.offset place.offset with hfront | hback
    · rcases Nat.lt_or_ge place.offset (first.behind routines).offset with hover | hstill
      · exact .inr ⟨first, List.mem_cons_self, hstart ▸ hfront, hover⟩
      · -- the search goes on in front of the place
        obtain ⟨a, ha⟩ := hbehind.passes
        obtain ⟨b, hb⟩ := hto.passes
        obtain ⟨w, -, hw⟩ := ha.of_offset_le hb hstill
        have hlength := (hd.trans hbehind).stop_eq
        have hle := hd.offset_le
        exact (tried_or_passed hplace (by omega) hw.reaches).imp hhere hhere
    · exact .inl ⟨first, List.mem_cons_self, hstart.trans (Nat.le_antisymm hto.offset_le hback)⟩

/-- A line where an instantiation may start is looked at for one exactly when the search does not go on
behind it from a start in front. -/
theorem readsLine_iff {body : Cursor} {start : InstanceLead} (hplace : instanceLead? place = some start)
    (hbody : body.Reaches place) : body.readsLine place.offset = true ↔
      ∀ lead ∈ body.leads, lead.start < place.offset →
        (lead.behind body.routines).offset ≤ place.offset := by
  unfold Cursor.readsLine
  rw [List.any_eq_true]
  have hordered : ∀ a ∈ body.leads, ∀ b ∈ body.leads, a.start = b.start ∨
      (a.behind body.routines).offset ≤ b.start ∨ (b.behind body.routines).offset ≤ a.start :=
    List.Pairwise.forall_of_forall_of_flip (fun _ _ => .inl rfl)
      ((pairwise_leadsFrom _ _).imp fun h => .inr (.inl h))
      ((pairwise_leadsFrom _ _).imp fun h => .inr (.inr h))
  constructor
  · rintro ⟨tried, htried, hstart⟩ lead hlead hlt
    rw [beq_iff_eq] at hstart
    obtain ⟨d, -, hat⟩ := mem_leadsFrom htried
    have hbehind := (InstanceLead.reaches_behind body.routines hat).2
    rw [← (instanceLead?_eq_some hat).2.1] at hbehind
    rcases hordered lead hlead tried htried with h | h | h <;> omega
  · intro hnone
    rcases tried_or_passed hplace (Nat.lt_succ_self _) hbody with
      ⟨lead, hlead, hstart⟩ | ⟨lead, hlead, hlt, hover⟩
    · exact ⟨lead, hlead, beq_iff_eq.2 hstart⟩
    · exact absurd (hnone lead hlead hlt) (Nat.not_le.2 hover)

/-! ## In front of the name of an instance -/

/-- What stands in front of the name of an instance, from the start of its line on, where the last text
follows: the indentation and the module type, and the overrides if there are any. -/
inductive Introduces : List Char → List Char → Prop
  | plain {indent type gap after : List Char} : IsIndent indent → type ≠ [] → IsName type →
      (∀ x ∈ gap, isBlank x = true) → Introduces (indent ++ type ++ gap) after
  | overridden {indent type gap hash inside lead after : List Char} : IsIndent indent → type ≠ [] →
      IsName type → (∀ x ∈ gap, isBlank x = true) → (∀ x ∈ hash, isBlank x = true) →
      (∀ x ∈ lead, isBlank x = true) →
      closing? ('(' :: (inside ++ ')' :: (lead ++ after))) = some (inside.length + 1) →
      Introduces (indent ++ type ++ gap ++ ['#'] ++ hash ++ '(' :: inside ++ [')'] ++ lead) after

/-- The instance that a start leads to is introduced there. -/
theorem introduces_instance? (hlead : instanceLead? c = some lead) (h : lead.instance? = some (i, m, d)) :
    ∃ front nameAt, c.Passes front nameAt ∧ Introduces front nameAt.rest ∧ i.start = nameAt.offset := by
  obtain ⟨-, -, after, htype, hshape⟩ := instanceLead?_eq_some hlead
  obtain ⟨indent, hindent, hpassIndent⟩ := passes_skipIndent c
  obtain ⟨hpassType, hstarts, hname⟩ := passes_ident? htype
  have hne := ne_nil_of_isIdentStart hstarts
  obtain ⟨gap, hgap, hpassGap, -⟩ := passes_skipBlank after
  have hpassNext := (hpassIndent.trans hpassType).trans hpassGap
  obtain ⟨parameters, place, hafter, hplace⟩ := InstanceLead.instance?_eq_some h
  obtain ⟨-, -, -, -, -, -, -, -, -, -, hstart, -⟩ := instanceAfter?_eq_some hafter
  obtain ⟨trail, htrail, hpassName, -⟩ := passes_skipBlank place
  rcases hshape with ⟨hnone, hnext⟩ | ⟨bracket, hhash, hbracket, hround, hsome, hnext⟩
  · -- without overrides the name follows the type
    obtain rfl : place = lead.next := by
      rcases hplace with ⟨-, hplace⟩ | ⟨bracket, -, hsome, -⟩
      · exact hplace
      · rw [hnone] at hsome
        cases hsome
    rw [hnext] at hpassName
    refine ⟨_, _, hpassNext.trans hpassName, ?_, hnext ▸ hstart⟩
    rw [List.append_assoc]
    exact .plain hindent hne hname fun x hx => (List.mem_append.1 hx).elim (hgap x) (htrail x)
  · -- with overrides it follows what they are enclosed by
    obtain ⟨inside, henclosed⟩ : ∃ inside, bracket.enclosed? = some (inside, place) := by
      rcases hplace with ⟨hnone, -⟩ | ⟨bracket', inside, hsome', henclosed⟩
      · rw [hnone] at hsome
        cases hsome
      · rw [hsome] at hsome'
        cases hsome'
        exact ⟨inside, henclosed⟩
    obtain ⟨rest, hrest⟩ := of_startsWith hhash
    have hpassHash : after.skipBlank.Passes ['#'] (after.skipBlank.advance 1) := passes_append hrest
    obtain ⟨hash, hblank, hpassBlank, -⟩ := passes_skipBlank (after.skipBlank.advance 1)
    rw [← hbracket] at hpassBlank
    obtain ⟨hpassRound, hclosing⟩ := passes_enclosed? hround henclosed
    have hall := (((hpassNext.trans hpassHash).trans hpassBlank).trans hpassRound).trans hpassName
    refine ⟨_, _, hall, ?_, hstart⟩
    rw [hpassRound.text, hpassName.text] at hclosing
    rw [← List.cons_append, ← List.append_assoc]
    refine .overridden hindent hne hname hgap hblank htrail ?_
    simpa using hclosing

namespace Introduces

variable {a b u v w w' after : List Char}

theorem append_blank_inj (h : a ++ u = b ++ v) (hu : ∀ x ∈ u, isBlank x = true)
    (hv : ∀ x ∈ v, isBlank x = true) (ha : a.getLast?.any isBlank = false)
    (hb : b.getLast?.any isBlank = false) : a = b ∧ u = v := by
  obtain rfl : a = b := by rw [← trimRight_append ha hu, h, trimRight_append hb hv]
  exact ⟨rfl, List.append_cancel_left h⟩

theorem getLast?_type {type : List Char} (hne : type ≠ []) (hname : IsName type) (a : List Char) :
    ∃ x, (a ++ type).getLast? = some x ∧ isIdentRest x = true :=
  ⟨type.getLast hne, by rw [List.getLast?_append, List.getLast?_eq_some_getLast hne]; rfl,
    hname _ (List.getLast_mem hne)⟩

theorem type_not_blank {type : List Char} (hne : type ≠ []) (hname : IsName type) (a : List Char) :
    (a ++ type).getLast?.any isBlank = false := by
  obtain ⟨x, hx, hrest⟩ := getLast?_type hne hname a
  rw [hx]
  exact not_blank_of_isIdentRest hrest

/-- A place that starts a line. -/
def StartsLine (a : List Char) : Prop := ∀ x, a.getLast? = some x → x = '\n'

/-- The start of a line is found from any place on the line. -/
theorem line_unique (h : a ++ w = b ++ w') (ha : StartsLine a) (hb : StartsLine b) (hw : '\n' ∉ w)
    (hw' : '\n' ∉ w') : a = b := by
  have hsame : ∀ {a t w : List Char}, StartsLine (a ++ t) → '\n' ∉ t ++ w → t = [] := by
    intro a t w hstarts hnot
    by_contra hne
    have hlast := hstarts (t.getLast hne) (by
      rw [List.getLast?_append, List.getLast?_eq_some_getLast hne]
      rfl)
    exact hnot (List.mem_append_left _ (hlast ▸ List.getLast_mem hne))
  rcases List.append_eq_append_iff.1 h with ⟨t, rfl, rfl⟩ | ⟨t, rfl, rfl⟩
  · rw [hsame hb hw, List.append_nil]
  · rw [hsame ha hw', List.append_nil]

/-- The bracket that is closed by a given one is found from there. -/
theorem bracket_unique (h : a ++ '(' :: u = b ++ '(' :: v)
    (hu : closing? ('(' :: (u ++ ')' :: after)) = some (u.length + 1))
    (hv : closing? ('(' :: (v ++ ')' :: after)) = some (v.length + 1)) : a = b := by
  have hinner : ∀ {u v t : List Char}, '(' :: u = t ++ '(' :: v →
      closing? ('(' :: (u ++ ')' :: after)) = some (u.length + 1) →
      closing? ('(' :: (v ++ ')' :: after)) = some (v.length + 1) → t = [] := by
    intro u v t he hu hv
    cases t with
    | nil => rfl
    | cons x t =>
      obtain ⟨rfl, rfl⟩ := List.cons.inj he
      refine absurd ?_ (closing?_nested hv t)
      simpa using hu
  rcases List.append_eq_append_iff.1 h with ⟨t, rfl, he⟩ | ⟨t, rfl, he⟩
  · rw [hinner he hu hv, List.append_nil]
  · rw [hinner he hv hu, List.append_nil]

theorem mark_not_blank {x : Char} (hx : isBlank x = false) (a : List Char) :
    (a ++ [x]).getLast?.any isBlank = false := by
  rw [List.getLast?_concat, Option.any_some, hx]

theorem type_ne_mark {type : List Char} {x : Char} (hne : type ≠ []) (hname : IsName type)
    (hx : isIdentRest x = false) : a ++ type ≠ b ++ [x] := by
  intro h
  obtain ⟨y, hy, hrest⟩ := getLast?_type hne hname a
  rw [h, List.getLast?_concat] at hy
  cases hy
  rw [hx] at hrest
  cases hrest

/-- An instance is introduced at one place only. -/
theorem unique (hu : Introduces u after) (hv : Introduces v after) (h : a ++ u = b ++ v)
    (ha : StartsLine a) (hb : StartsLine b) : a = b := by
  -- from the module types on the two lines are one
  have hline : ∀ {indent indent' type type' gap gap' : List Char}, IsIndent indent → IsIndent indent' →
      type ≠ [] → type' ≠ [] → IsName type → IsName type' → (∀ x ∈ gap, isBlank x = true) →
      (∀ x ∈ gap', isBlank x = true) →
      a ++ indent ++ type ++ gap = b ++ indent' ++ type' ++ gap' → a = b := by
    intro indent indent' type type' gap gap' hi hi' ht ht' hn hn' hg hg' he
    obtain ⟨htypes, -⟩ := append_blank_inj he hg hg' (type_not_blank ht hn _) (type_not_blank ht' hn' _)
    rw [List.append_assoc, List.append_assoc] at htypes
    exact line_unique htypes ha hb
      (fun hx => (List.mem_append.1 hx).elim hi.newline_notMem hn.newline_notMem)
      (fun hx => (List.mem_append.1 hx).elim hi'.newline_notMem hn'.newline_notMem)
  cases hu with
  | plain hi ht hn hg =>
    cases hv with
    | plain hi' ht' hn' hg' =>
      simp only [← List.append_assoc] at h
      exact hline hi hi' ht ht' hn hn' hg hg' h
    | overridden _ _ _ _ _ hl' _ =>
      simp only [← List.append_assoc] at h
      obtain ⟨he, -⟩ := append_blank_inj h hg hl' (type_not_blank ht hn _) (mark_not_blank (by decide) _)
      exact absurd he (type_ne_mark ht hn (by decide))
  | overridden hi ht hn hg hh hl hclose =>
    cases hv with
    | plain _ ht' hn' hg' =>
      simp only [← List.append_assoc] at h
      obtain ⟨he, -⟩ := append_blank_inj h hl hg' (mark_not_blank (by decide) _) (type_not_blank ht' hn' _)
      exact absurd he.symm (type_ne_mark ht' hn' (by decide))
    | overridden hi' ht' hn' hg' hh' hl' hclose' =>
      simp only [← List.append_assoc] at h
      obtain ⟨hgroups, rfl⟩ := append_blank_inj h hl hl' (mark_not_blank (by decide) _)
        (mark_not_blank (by decide) _)
      have hfronts := bracket_unique (List.append_cancel_right hgroups) hclose hclose'
      obtain ⟨hmarks, -⟩ := append_blank_inj hfronts hh hh' (mark_not_blank (by decide) _)
        (mark_not_blank (by decide) _)
      exact hline hi hi' ht ht' hn hn' hg hg' (List.append_cancel_right hmarks)

/-- No instance is introduced by a comma. -/
theorem not_behind_comma (hu : Introduces u after) (hv : ∀ x ∈ v, isBlank x = true) :
    a ++ u ≠ b ++ [','] ++ v := by
  intro h
  cases hu with
  | plain _ ht hn hg =>
    simp only [← List.append_assoc] at h
    obtain ⟨he, -⟩ := append_blank_inj h hg hv (type_not_blank ht hn _) (mark_not_blank (by decide) _)
    exact type_ne_mark ht hn (by decide) he
  | overridden _ _ _ _ _ hl _ =>
    simp only [← List.append_assoc] at h
    obtain ⟨he, -⟩ := append_blank_inj h hl hv (mark_not_blank (by decide) _) (mark_not_blank (by decide) _)
    have hlast := congrArg List.getLast? he
    rw [List.getLast?_concat, List.getLast?_concat] at hlast
    cases hlast

end Introduces

end RtlAtlas.Source
