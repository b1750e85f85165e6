/-
Instantiations of several instances. Of the instances of one statement only the first one is recorded: its
name follows the module type or the overrides, and all others follow a comma. The first one is recorded
exactly when the scan looks at the line of the statement; outside of brackets it does so unless the line is
indented and the line in front holds a single word, which the scan takes for a module type and reads on to
the next word.
-/
import RtlAtlas.Proofs.Source.Lead
import RtlAtlas.Proofs.Source.Names

namespace RtlAtlas.Source

open RtlAtlas.Text Cursor

/-! ## Statements -/

/-- White space in a statement. -/
structure Gap where
  text : List Char
  blank : ∀ x ∈ text, isBlank x = true

/-- An identifier that is not a keyword. -/
structure Identifier where
  text : List Char
  starts : text.head?.any isIdentStart = true
  isName : IsName text
  free : isKeyword text = false

/-- A text with well-nested brackets. -/
structure Balanced where
  text : List Char
  nested : Nested (fun _ => True) text

/-- The parameter overrides `#(P)` of an instantiation. -/
structure ValueAssignment where
  gap : Gap
  hash : Gap
  bindings : Balanced

/-- One instance `n (c)` of an instantiation. -/
structure HierarchicalInstance where
  lead : Gap
  name : Identifier
  gap : Gap
  connections : Balanced
  trail : Gap

/-- A statement `T #(P) n1 (c1), ..., nk (ck);`, with overrides or without. -/
structure Instantiation where
  indent : List Char
  indented : IsIndent indent
  moduleType : Identifier
  assignment : Option ValueAssignment
  first : HierarchicalInstance
  others : List HierarchicalInstance
  apart : assignment = none → first.lead.text ≠ []

namespace HierarchicalInstance

/-- An instance from its name on. -/
def core (h : HierarchicalInstance) : List Char :=
  h.name.text ++ (h.gap.text ++ '(' :: (h.connections.text ++ ')' :: h.trail.text))

def text (h : HierarchicalInstance) : List Char := h.lead.text ++ h.core

/-- What is recorded of an instance whose name stands at an offset. -/
def mark (moduleType : List Char) (parameters : OrderedMap String String) (h : HierarchicalInstance)
    (offset : Nat) : InstanceMark × Mark :=
  (⟨h.name.text, moduleType, offset, parseConnections h.connections.text, parameters⟩,
    ⟨h.name.text, .instantiation, offset,
      offset + h.name.text.length + h.gap.text.length + h.connections.text.length + 1,
      "module_instantiation"⟩)

/-- What follows an instance: a comma and the next one, or the semicolon. -/
def listText : List HierarchicalInstance → List Char
  | [] => [';']
  | h :: hs => ',' :: (h.text ++ listText hs)

/-- What is recorded of the instances of a list that starts at an offset. -/
def marksFrom (moduleType : List Char) (parameters : OrderedMap String String) :
    Nat → List HierarchicalInstance → List (InstanceMark × Mark)
  | _, [] => []
  | offset, h :: hs => h.mark moduleType parameters (offset + h.lead.text.length) ::
      marksFrom moduleType parameters (offset + h.text.length + 1) hs

theorem length_marksFrom (moduleType : List Char) (parameters : OrderedMap String String) :
    ∀ (offset : Nat) (hs : List HierarchicalInstance),
      (marksFrom moduleType parameters offset hs).length = hs.length
  | _, [] => rfl
  | _, _ :: hs => congrArg (· + 1) (length_marksFrom moduleType parameters _ hs)

end HierarchicalInstance

def ValueAssignment.text (v : ValueAssignment) : List Char :=
  v.gap.text ++ '#' :: (v.hash.text ++ '(' :: (v.bindings.text ++ [')']))

namespace Instantiation

/-- A statement in front of its instances. -/
def front (s : Instantiation) : List Char :=
  s.indent ++ (s.moduleType.text ++ s.assignment.elim [] ValueAssignment.text)

def text (s : Instantiation) : List Char :=
  s.front ++ (s.first.text ++ HierarchicalInstance.listText s.others)

def parameters (s : Instantiation) : OrderedMap String String :=
  s.assignment.elim .empty fun v => parseBindings v.bindings.text

/-- What is to be recorded of a statement at an offset: all of its instances in order, with the module type
and the parameters of the statement and with their own connections. -/
def marks (s : Instantiation) (offset : Nat) : List (InstanceMark × Mark) :=
  HierarchicalInstance.marksFrom s.moduleType.text s.parameters (offset + s.front.length)
    (s.first :: s.others)

/-- What is to be recorded of the first instance of a statement at an offset. -/
def firstMark (s : Instantiation) (offset : Nat) : InstanceMark × Mark :=
  s.first.mark s.moduleType.text s.parameters (offset + s.front.length + s.first.lead.text.length)

theorem firstMark_mem_marks (s : Instantiation) (offset : Nat) : s.firstMark offset ∈ s.marks offset :=
  List.mem_cons_self

theorem take_one_marks (s : Instantiation) (offset : Nat) :
    (s.marks offset).take 1 = [s.firstMark offset] := rfl

theorem length_marks (s : Instantiation) (offset : Nat) : (s.marks offset).length = s.others.length + 1 :=
  HierarchicalInstance.length_marksFrom _ _ _ _

end Instantiation

/-! ## Reading a statement -/

variable {c : Cursor} {cs post : List Char}

theorem Identifier.ne_nil (n : Identifier) : n.text ≠ [] := ne_nil_of_isIdentStart n.starts

theorem Identifier.head_not_blank (n : Identifier) (cs : List Char) :
    (n.text ++ cs).head?.any isBlank = false := by
  obtain ⟨x, name, hx⟩ := List.exists_cons_of_ne_nil n.ne_nil
  rw [hx]
  exact not_blank_of_isIdentRest (n.isName x (hx ▸ List.mem_cons_self))

theorem Identifier.head_ne (n : Identifier) {x : Char} (hx : isIdentRest x = false) (cs : List Char) :
    (n.text ++ cs).head? ≠ some x := by
  obtain ⟨y, name, hy⟩ := List.exists_cons_of_ne_nil n.ne_nil
  rw [hy]
  intro h
  cases h
  rw [n.isName x (hy ▸ List.mem_cons_self)] at hx
  cases hx

theorem Gap.ends_name (g : Gap) (h : cs.head?.any isIdentRest = false) :
    (g.text ++ cs).head?.any isIdentRest = false := by
  cases hg : g.text with
  | nil => exact h
  | cons x gap => exact isIdentRest_of_isBlank (g.blank x (hg ▸ List.mem_cons_self))

theorem Gap.skipBlank_eq (g : Gap) (hc : c.rest = g.text ++ cs) (h : cs.head?.any isBlank = false) :
    c.Passes g.text c.skipBlank := by
  rw [Cursor.skipBlank_eq hc g.blank h]
  exact passes_append hc

theorem Identifier.ident?_eq (n : Identifier) (hc : c.rest = n.text ++ cs)
    (h : cs.head?.any isIdentRest = false) :
    ∃ after, c.ident? = some (n.text, after) ∧ c.Passes n.text after :=
  ⟨_, Cursor.ident?_eq hc n.starts n.isName h, passes_append hc⟩

theorem Balanced.enclosed?_eq (b : Balanced) (hc : c.rest = '(' :: (b.text ++ ')' :: cs)) :
    ∃ close, c.enclosed? = some (b.text, close) ∧ c.Passes ('(' :: (b.text ++ [')'])) close := by
  refine ⟨_, Cursor.enclosed?_eq rfl b.nested hc, ?_⟩
  have hpass : c.Passes ('(' :: (b.text ++ [')'])) _ := passes_append (b := cs) (by simp [hc])
  simpa using hpass

theorem skipRanges_of_not (h : c.startsWith '[' = false) (fuel : Nat) : skipRanges fuel c = c := by
  cases fuel with
  | zero => rfl
  | succ fuel =>
    unfold skipRanges
    rw [if_neg (by simp [h])]

theorem HierarchicalInstance.core_not_blank (h : HierarchicalInstance) (cs : List Char) :
    (h.core ++ cs).head?.any isBlank = false := by
  rw [core, List.append_assoc]
  exact h.name.head_not_blank _

theorem HierarchicalInstance.core_ne_hash (h : HierarchicalInstance) (cs : List Char) :
    (h.core ++ cs).head? ≠ some '#' := by
  rw [core, List.append_assoc]
  exact h.name.head_ne (by decide) _

theorem HierarchicalInstance.listText_cons (hs : List HierarchicalInstance) (post : List Char) :
    ∃ x behind, listText hs ++ post = x :: behind ∧ (x = ';' ∨ x = ',') := by
  cases hs with
  | nil => exact ⟨_, _, rfl, .inl rfl⟩
  | cons h hs => exact ⟨_, _, rfl, .inr rfl⟩

/-- The instance behind a place is read, in front of a comma or a semicolon. -/
theorem HierarchicalInstance.instanceAfter?_eq (h : HierarchicalInstance) {x : Char} (hx : x = ';' ∨ x = ',')
    (hc : c.skipBlank.rest = h.core ++ x :: post) (moduleType : List Char)
    (parameters : OrderedMap String String) : ∃ next, instanceAfter? moduleType parameters c =
      some ((h.mark moduleType parameters c.skipBlank.offset).1,
        (h.mark moduleType parameters c.skipBlank.offset).2, next) := by
  simp only [core, List.append_assoc, List.cons_append] at hc
  obtain ⟨after, hname, hpassName⟩ := h.name.ident?_eq hc (h.gap.ends_name rfl)
  have hgap := h.gap.skipBlank_eq (hpassName.rest_eq hc) rfl
  have hround := hgap.rest_eq (hpassName.rest_eq hc)
  have hranges := skipRanges_of_not (startsWith_eq hround '[') after.rest.length
  obtain ⟨close, henclosed, hpassGroup⟩ := h.connections.enclosed?_eq hround
  have hclose : close.rest = h.trail.text ++ x :: post := hpassGroup.rest_eq (by simp [hround])
  have hblank : (x :: post).head?.any isBlank = false := by
    rcases hx with rfl | rfl <;> rfl
  have htail := (h.trail.skipBlank_eq hclose hblank).rest_eq hclose
  have hends : (close.skipBlank.startsWith ';' || close.skipBlank.startsWith ',') = true := by
    rw [startsWith_eq htail, startsWith_eq htail]
    rcases hx with rfl | rfl <;> rfl
  have hstop : close.offset - 1 = c.skipBlank.offset + h.name.text.length + h.gap.text.length +
      h.connections.text.length + 1 := by
    have := hpassName.offset
    have := hgap.offset
    have := hpassGroup.offset
    simp only [List.length_cons, List.length_append, List.length_nil] at this
    omega
  unfold instanceAfter?
  simp only [hname, hranges, startsWith_eq hround, h.name.free, henclosed, hends, hstop]
  exact ⟨_, rfl⟩

theorem skipIndent_eq {indent : List Char} (hindent : IsIndent indent) (hc : c.rest = indent ++ cs)
    (h : cs.head?.any isBlank = false) : c.Passes indent (skipIndent c) := by
  have hrun : (indent ++ cs).takeWhile (fun x => x == ' ' || x == '\t') = indent := by
    refine takeWhile_run (fun x hx => by simpa using hindent x hx) ?_
    cases cs with
    | nil => rfl
    | cons x cs =>
      have hx : x ≠ ' ' ∧ x ≠ '\t' := by
        constructor <;> (rintro rfl; cases h)
      simpa using hx
  unfold skipIndent
  rw [hc, hrun]
  exact passes_append hc

/-- A start of an instantiation is read up to the next word, if no overrides follow. -/
theorem instanceLead?_plain {indent type gap : List Char} (hline : c.atLineStart = true)
    (hc : c.rest = indent ++ (type ++ (gap ++ cs))) (hindent : IsIndent indent)
    (hstarts : type.head?.any isIdentStart = true) (hname : IsName type)
    (hgap : ∀ x ∈ gap, isBlank x = true) (hne : gap ≠ []) (hblank : cs.head?.any isBlank = false) (hhash : cs.head? ≠ some '#') :
    ∃ next, instanceLead? c = some ⟨c.offset, type, none, next⟩ ∧ c.Passes (indent ++ (type ++ gap)) next := by
  have hends : (gap ++ cs).head?.any isIdentRest = false := by
    obtain ⟨x, gap, rfl⟩ := List.exists_cons_of_ne_nil hne
    exact isIdentRest_of_isBlank (hgap x List.mem_cons_self)
  have hfirst : (type ++ (gap ++ cs)).head?.any isBlank = false := by
    cases type with
    | nil => cases hstarts
    | cons x type => exact not_blank_of_isIdentRest (hname x List.mem_cons_self)
  have hpassIndent := skipIndent_eq hindent hc hfirst
  have htype := hpassIndent.rest_eq hc
  have hident := Cursor.ident?_eq htype hstarts hname hends
  have hpassType : (skipIndent c).Passes type _ := passes_append htype
  have hafter := hpassType.rest_eq htype
  have hpassGap : ((skipIndent c).advance type.length).Passes gap _ := passes_append hafter
  rw [← Cursor.skipBlank_eq hafter hgap hblank] at hpassGap
  have hnot : ((skipIndent c).advance type.length).skipBlank.startsWith '#' = false := by
    rw [startsWith, hpassGap.rest_eq hafter]
    simpa using hhash
  refine ⟨_, ?_, hpassIndent.trans (hpassType.trans hpassGap)⟩
  unfold instanceLead?
  simp only [hline, hident, hnot, Bool.not_true, Bool.false_and, Bool.false_eq_true, if_false]

/-- A start of an instantiation is read over its overrides. -/
theorem instanceLead?_overridden {indent : List Char} {n : Identifier} {v : ValueAssignment}
    (hline : c.atLineStart = true) (hc : c.rest = indent ++ (n.text ++ (v.text ++ cs)))
    (hindent : IsIndent indent) : ∃ bracket close,
      instanceLead? c = some ⟨c.offset, n.text, some bracket, bracket.advance 1⟩ ∧
      bracket.enclosed? = some (v.bindings.text, close) ∧ c.Passes (indent ++ (n.text ++ v.text)) close := by
  simp only [ValueAssignment.text, List.append_assoc, List.cons_append, List.nil_append] at hc
  have hpassIndent := skipIndent_eq hindent hc (n.head_not_blank _)
  have htype := hpassIndent.rest_eq hc
  obtain ⟨after, hident, hpassType⟩ := n.ident?_eq htype (v.gap.ends_name rfl)
  have hgap := hpassType.rest_eq htype
  have hpassGap := v.gap.skipBlank_eq hgap rfl
  have hhash := hpassGap.rest_eq hgap
  have hpassHash : after.skipBlank.Passes ['#'] (after.skipBlank.advance 1) := passes_append hhash
  have hblank := hpassHash.rest_eq hhash
  have hpassBlank := v.hash.skipBlank_eq hblank rfl
  have hround := hpassBlank.rest_eq hblank
  obtain ⟨close, henclosed, hpassGroup⟩ := v.bindings.enclosed?_eq hround
  refine ⟨_, close, ?_, henclosed, ?_⟩
  · unfold instanceLead?
    simp only [hline, hident, startsWith_eq hhash, startsWith_eq hround]
    rfl
  · have hpass := hpassIndent.trans (hpassType.trans (hpassGap.trans (hpassHash.trans
      (hpassBlank.trans hpassGroup))))
    simpa [ValueAssignment.text] using hpass

namespace Instantiation

variable {s : Instantiation}

/-- At the start of its line a statement is read up to its first instance. -/
theorem instanceLead?_eq (hline : c.atLineStart = true) (hc : c.rest = s.text ++ post) :
    ∃ lead next, instanceLead? c = some lead ∧ lead.start = c.offset ∧
      lead.moduleType = s.moduleType.text ∧
      lead.instance? = some ((s.firstMark c.offset).1, (s.firstMark c.offset).2, next) := by
  obtain ⟨x, behind, hlist, hx⟩ := HierarchicalInstance.listText_cons s.others post
  simp only [text, front, HierarchicalInstance.text, List.append_assoc, hlist] at hc
  have hapart := s.apart
  unfold firstMark front parameters
  -- the type, the gap behind it and the first instance
  cases hassignment : s.assignment with
  | none =>
    rw [hassignment] at hc hapart
    rw [Option.elim_none, List.nil_append] at hc
    obtain ⟨next, hlead, hpass⟩ := instanceLead?_plain hline hc s.indented s.moduleType.starts
      s.moduleType.isName s.first.lead.blank (hapart rfl) (s.first.core_not_blank _)
      (s.first.core_ne_hash _)
    have hrest : next.rest = s.first.core ++ x :: behind := hpass.rest_eq (by simpa using hc)
    have hskip : next.skipBlank = next :=
      skipBlank_of_head (by rw [hrest]; exact s.first.core_not_blank _)
    obtain ⟨after, hinstance⟩ :=
      s.first.instanceAfter?_eq hx (hskip.symm ▸ hrest) s.moduleType.text .empty
    rw [hskip, hpass.offset] at hinstance
    refine ⟨_, after, hlead, rfl, rfl, ?_⟩
    unfold InstanceLead.instance?
    simp only [hinstance, Option.elim_none, List.append_nil, List.length_append, Nat.add_assoc]
  | some v =>
    -- overrides are enclosed first, and read from what the brackets hold
    rw [hassignment] at hc
    obtain ⟨bracket, close, hlead, henclosed, hpass⟩ := instanceLead?_overridden hline hc s.indented
    have hclose : close.rest = s.first.lead.text ++ (s.first.core ++ x :: behind) :=
      hpass.rest_eq (by simpa using hc)
    have hpassName := s.first.lead.skipBlank_eq hclose (s.first.core_not_blank _)
    obtain ⟨after, hinstance⟩ := s.first.instanceAfter?_eq hx (hpassName.rest_eq hclose)
      s.moduleType.text (parseBindings v.bindings.text)
    rw [hpassName.offset, hpass.offset] at hinstance
    refine ⟨_, after, hlead, rfl, rfl, ?_⟩
    unfold InstanceLead.instance?
    simp only [henclosed, hinstance, Option.elim_some]

/-! ## Recording a statement -/

/-- The first instance of a statement is introduced by what stands in front of it. -/
theorem introduces_first (s : Instantiation) (behind : List Char) :
    Introduces (s.front ++ s.first.lead.text) behind := by
  unfold front
  cases s.assignment with
  | none =>
    rw [Option.elim_none, List.append_nil]
    exact .plain s.indented s.moduleType.ne_nil s.moduleType.isName s.first.lead.blank
  | some v =>
    have hclosing := closing?_group (show closer? '(' = some ')' from rfl) v.bindings.nested
      (s.first.lead.text ++ behind)
    have h := Introduces.overridden s.indented s.moduleType.ne_nil s.moduleType.isName v.gap.blank
      v.hash.blank s.first.lead.blank hclosing
    simpa [ValueAssignment.text] using h

/-- The other instances of a statement stand behind commas. -/
theorem others_behind_comma (moduleType : List Char) (parameters : OrderedMap String String) :
    ∀ {hs : List HierarchicalInstance} {c : Cursor}, c.rest = HierarchicalInstance.listText hs ++ post →
      ∀ r ∈ HierarchicalInstance.marksFrom moduleType parameters (c.offset + 1) hs,
        ∃ front lead nameAt, c.Passes (front ++ [','] ++ lead) nameAt ∧
          (∀ x ∈ lead, isBlank x = true) ∧ r.1.start = nameAt.offset
  | [], _, _, r, hr => by cases hr
  | h :: hs, c, hc, r, hr => by
    rw [HierarchicalInstance.listText, List.cons_append, List.append_assoc] at hc
    have hcomma : c.Passes [','] (c.advance 1) := passes_append hc
    have hrest := hcomma.rest_eq hc
    have hinstance : (c.advance 1).Passes h.text _ := passes_append hrest
    have hbehind := hcomma.trans hinstance
    have hoffset := hbehind.offset
    rw [List.length_append, List.length_singleton] at hoffset
    rcases List.mem_cons.1 hr with rfl | hr
    · obtain ⟨nameAt, hname, -⟩ := hinstance.split (a := h.lead.text)
      refine ⟨[], h.lead.text, nameAt, hcomma.trans hname, h.lead.blank, ?_⟩
      have := (hcomma.trans hname).offset
      rw [List.length_append, List.length_singleton] at this
      simp only [HierarchicalInstance.mark]
      omega
    · rw [show c.offset + 1 + h.text.length = c.offset + (1 + h.text.length) by omega, ← hoffset] at hr
      obtain ⟨front, lead, nameAt, hpass, hlead, hstart⟩ :=
        others_behind_comma moduleType parameters (hinstance.rest_eq hrest) r hr
      refine ⟨[','] ++ h.text ++ front, lead, nameAt, ?_, hlead, hstart⟩
      simpa using hbehind.trans hpass

theorem startsLine_of_passes {body d : Cursor} {a : List Char} (h : body.Passes a d)
    (hline : d.atLineStart = true) : Introduces.StartsLine a := by
  intro x hx
  have hlast := h.last
  rw [hx, Option.some_or] at hlast
  unfold atLineStart at hline
  rw [hlast] at hline
  simpa using hline

section

variable {body place : Cursor} {pre : List Char} (hpass : body.Passes pre place)
  (hline : place.atLineStart = true) (hrest : place.rest = s.text ++ post)
include hpass hline hrest

section

variable {d nameAt : Cursor} {a front : List Char} (ha : body.Passes a d)
  (hfront : d.Passes front nameAt) (hintroduced : Introduces front nameAt.rest)
include ha hfront hintroduced

/-- At the name of the first instance only the statement itself introduces an instance. -/
theorem introduced_first (hlineAt : d.atLineStart = true)
    (hname : nameAt.offset = place.offset + s.front.length + s.first.lead.text.length) : d = place := by
  rw [text, List.append_assoc, HierarchicalInstance.text] at hrest
  have hplace : place.Passes (s.front ++ s.first.lead.text) _ :=
    passes_append (b := s.first.core ++ (HierarchicalInstance.listText s.others ++ post))
      (by simpa using hrest)
  obtain ⟨hfronts, -⟩ := (ha.trans hfront).eq_of_offset (hpass.trans hplace)
    (by rw [hname, hplace.offset, List.length_append, Nat.add_assoc])
  obtain rfl := hintroduced.unique (introduces_first s _) hfronts (startsLine_of_passes ha hlineAt)
    (startsLine_of_passes hpass hline)
  exact ha.place.trans hpass.place.symm

omit hline in
/-- At the names of the other instances no instance is introduced. -/
theorem not_introduced_others {r : InstanceMark × Mark}
    (hr : r ∈ HierarchicalInstance.marksFrom s.moduleType.text s.parameters
      (place.offset + s.front.length + s.first.text.length + 1) s.others) :
    nameAt.offset ≠ r.1.start := by
  rw [text, List.append_assoc, List.append_assoc, ← List.append_assoc] at hrest
  obtain ⟨behind, hplace⟩ : ∃ behind, place.Passes (s.front ++ s.first.text) behind :=
    ⟨_, passes_append hrest⟩
  have hlist := hplace.offset
  rw [List.length_append, ← Nat.add_assoc] at hlist
  rw [← hlist] at hr
  obtain ⟨front', lead, nameAt', hpass', hblank, hstart⟩ :=
    others_behind_comma _ _ (hplace.rest_eq hrest) r hr
  intro hname
  obtain ⟨hfronts, -⟩ := (ha.trans hfront).eq_of_offset ((hpass.trans hplace).trans hpass')
    (hname.trans hstart)
  rw [← List.append_assoc, ← List.append_assoc] at hfronts
  exact hintroduced.not_behind_comma hblank hfronts

end

/-- What is recorded at the names of a statement is its first instance, if its line is looked at. -/
theorem recorded_first {r : InstanceMark × Mark} (hr : r ∈ body.declaredInstances)
    (hname : r.1.start ∈ (s.marks place.offset).map (·.1.start)) :
    r = s.firstMark place.offset ∧ body.readsLine place.offset = true := by
  obtain ⟨lead, hlead, next, hfound⟩ := mem_declaredInstances.1 hr
  obtain ⟨d, hd, hat⟩ := mem_leadsFrom hlead
  obtain ⟨a, ha⟩ := hd.passes
  have hhere := InstanceLead.instance?_of_found? hfound
  obtain ⟨front, nameAt, hfront, hintroduced, hstart⟩ := introduces_instance? hat hhere
  obtain ⟨hlineAt, hoffset, -⟩ := instanceLead?_eq_some hat
  obtain ⟨r', hr', hsame⟩ := List.mem_map.1 hname
  have hnameAt := hstart.symm.trans hsame.symm
  rcases List.mem_cons.1 hr' with rfl | hother
  · obtain rfl := introduced_first hpass hline hrest ha hfront hintroduced hlineAt hnameAt
    obtain ⟨start, next', hstarts, -, -, hinstance⟩ := instanceLead?_eq hline hrest
    obtain rfl : lead = start := Option.some.inj (hat.symm.trans hstarts)
    obtain ⟨hmark, hsymbol⟩ := Prod.mk.inj (Option.some.inj (hhere.symm.trans hinstance))
    exact ⟨Prod.ext hmark (Prod.mk.inj hsymbol).1,
      List.any_eq_true.2 ⟨lead, hlead, beq_iff_eq.2 hoffset⟩⟩
  · exact absurd hnameAt (not_introduced_others hpass hrest ha hfront hintroduced hother)

/-- The first instance of a statement is recorded if its line is looked at. -/
theorem first_recorded (houtside : inRoutine body.routines place.offset = false)
    (hread : body.readsLine place.offset = true) :
    s.firstMark place.offset ∈ body.declaredInstances := by
  obtain ⟨lead, hlead, hstart⟩ := List.any_eq_true.1 hread
  obtain ⟨d, hd, hat⟩ := mem_leadsFrom hlead
  obtain ⟨a, ha⟩ := hd.passes
  have hsame := (instanceLead?_eq_some hat).2.1
  obtain ⟨-, rfl⟩ := ha.eq_of_offset hpass (hsame ▸ beq_iff_eq.1 hstart)
  obtain ⟨start, next, hstarts, hat', htype, hinstance⟩ := instanceLead?_eq hline hrest
  obtain rfl : lead = start := Option.some.inj (hat.symm.trans hstarts)
  refine mem_declaredInstances.2 ⟨lead, hlead, next, ?_⟩
  unfold InstanceLead.found?
  rw [htype, s.moduleType.free, hat', houtside]
  exact hinstance

end

end Instantiation

end RtlAtlas.Source
