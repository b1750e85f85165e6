/-
What is recorded of an instantiation. At the names of a statement stand its first instance, if the scan
looks at its line, and nothing else; so all of its instances are recorded exactly when it has only one and
its line is looked at.
-/
import RtlAtlas.Proofs.Source.Instantiation.Line

namespace RtlAtlas.Source

open RtlAtlas.Text Cursor

/-- What is recorded in a module is reported by the extraction. -/
theorem extract_of_mem_scan {content : List Char} {head : ModuleHead} {stop : Nat}
    (hnul : Char.ofNat 0 ∉ content) (h : scanModule head stop ∈ scan (stripComments content)) (file : Path) :
    let text := stripComments content
    ∃ e, extract file content = .ok e ∧
      (∃ front back, e.instances =
        front ++ ((head.body stop).declaredInstances.map fun r => r.1.inst file text) ++ back) ∧
      ∃ front back, e.symbols =
        front ++ ((head.body stop).declaredInstances.map fun r => r.2.extracted text) ++ back := by
  refine ⟨_, extract_eq_ok hnul file, ?_⟩
  obtain ⟨before, after, hscan⟩ := List.append_of_mem h
  have hinstances : (scanModule head stop).instances = (head.body stop).declaredInstances.map (·.1) := rfl
  obtain ⟨others, hmarks⟩ : ∃ others, (scanModule head stop).marks =
      others ++ (head.body stop).declaredInstances.map (·.2) := ⟨_, rfl⟩
  simp only [hscan, List.flatMap_append, List.flatMap_cons, hinstances, hmarks, List.map_append, List.map_map,
    List.append_assoc]
  refine ⟨⟨_, _, rfl⟩, ?_⟩
  rw [← List.append_assoc]
  exact ⟨_, _, rfl⟩

namespace Instantiation

variable {s : Instantiation} {pre post : List Char} {body place : Cursor}

/-- The instances of a module that are recorded at the names of a statement at an offset. -/
def recordedIn (body : Cursor) (s : Instantiation) (offset : Nat) : List (InstanceMark × Mark) :=
  body.declaredInstances.filter fun r => r.1.start ∈ (s.marks offset).map (·.1.start)

/-- At the names of a statement its first instance is recorded if its line is looked at, and nothing else. -/
theorem recorded_eq (hpass : body.Passes pre place) (hline : place.atLineStart = true)
    (hrest : place.rest = s.text ++ post) (hroutine : inRoutine body.routines place.offset = false) :
    recordedIn body s place.offset =
      if body.readsLine place.offset then (s.marks place.offset).take 1 else [] := by
  cases hread : body.readsLine place.offset with
  | false =>
    refine List.filter_eq_nil_iff.2 fun r hr hname => ?_
    rw [(recorded_first hpass hline hrest hr (by simpa using hname)).2] at hread
    cases hread
  | true =>
    have hfirst := first_recorded hpass hline hrest hroutine hread
    have hnodup : body.declaredInstances.Nodup :=
      (pairwise_declaredInstances body).imp fun {a b} (hlt : a.1.start < b.1.start) (he : a = b) =>
        Nat.lt_irrefl _ (he ▸ hlt)
    rw [if_pos rfl, take_one_marks]
    refine List.perm_singleton.1 ((List.perm_ext_iff_of_nodup (hnodup.filter _) (by simp)).2 ?_)
    intro r
    rw [List.mem_filter, List.mem_singleton]
    constructor
    · rintro ⟨hr, hname⟩
      exact (recorded_first hpass hline hrest hr (by simpa using hname)).1
    · rintro rfl
      exact ⟨hfirst, decide_eq_true (List.mem_map_of_mem (s.firstMark_mem_marks _))⟩

/-- What is reported of a statement. The instances and symbols of a module are reported in order, and of those
at the names of a statement there is the first one if its line is looked at, with the module type, the
parameters and its own connections, and nothing else. So all are there exactly when the statement has only
one and its line is looked at; outside of brackets a line is looked at unless it is indented and behind a
line that holds a single word and is looked at itself. -/
theorem instances_recorded_iff (file : Path) {content : List Char} {head : ModuleHead} {stop : Nat}
    (hnul : Char.ofNat 0 ∉ content) (hscan : scanModule head stop ∈ scan (stripComments content))
    (hbody : (head.body stop).rest = pre ++ (s.text ++ post))
    (hline : ((head.body stop).advance pre.length).atLineStart = true)
    (hroutine : inRoutine (head.body stop).routines ((head.body stop).offset + pre.length) = false) :
    let text := stripComments content
    let body := head.body stop
    let offset := body.offset + pre.length
    (∃ e, extract file content = .ok e ∧
      (∃ front back, e.instances =
        front ++ (body.declaredInstances.map fun r => r.1.inst file text) ++ back) ∧
      ∃ front back, e.symbols =
        front ++ (body.declaredInstances.map fun r => r.2.extracted text) ++ back) ∧
    recordedIn body s offset = (if body.readsLine offset then (s.marks offset).take 1 else []) ∧
    (recordedIn body s offset = s.marks offset ↔ s.others = [] ∧ body.readsLine offset = true) ∧
    (OutsideBrackets pre (s.text ++ post) → (body.readsLine offset = true ↔ s.indent = [] ∨
      ∀ a b, pre = a ++ b → LoneWord b → body.readsLine (body.offset + a.length) = false)) := by
  intro text body offset
  have hpass := passes_append hbody
  have hrest := hpass.rest_eq hbody
  have hoffset := hpass.offset
  rw [← hoffset] at hroutine
  have hrecorded := recorded_eq hpass hline hrest hroutine
  obtain ⟨start, -, hstart, -⟩ := instanceLead?_eq hline hrest
  rw [hoffset] at hrecorded
  refine ⟨extract_of_mem_scan hnul hscan file, hrecorded, ?_, fun houtside => ?_⟩
  · rw [show recordedIn body s offset = _ from hrecorded]
    have hlength := s.length_marks offset
    -- the statement is read, and its first instance recorded, or passed over as a whole
    cases hread : body.readsLine offset with
    | false =>
      have hne : [] ≠ s.marks offset := fun he => by
        rw [← he] at hlength
        cases hlength
      simpa [offset, hread] using hne
    | true =>
      rw [if_pos rfl, List.take_eq_self_iff, hlength, and_iff_left rfl, ← List.length_eq_zero_iff]
      omega
  · obtain ⟨typeAt, hopening⟩ := opening_of_text hline hrest houtside
    rw [← hopening.readsLine_iff hpass hstart, hoffset]

-- behind a line with a single word the instance of an indented line is lost, though it is the only one
example : ∃ e, extract ⟨.root, ["a.v"]⟩
      "module m;\ngenerate\n  T u (x);\nendgenerate\nendmodule\n".toList = .ok e ∧
    e.modules.map (·.name) = ["m"] ∧ e.instances.map (·.name) = [] :=
  ⟨_, rfl, by decide +kernel, by decide +kernel⟩

/-- A text with an instantiation that has overrides, on an indented line. -/
def overriddenText : List Char := "module m;\n  T #(4) u (a, b);\nendmodule\n".toList

/-- A text with an instantiation of two instances. -/
def pairText : List Char := "module m;\nT a (x), b (y);\nendmodule\n".toList

/-- The head of the module in either text. -/
def headOf (text : List Char) : ModuleHead := ⟨['m'], 0, (Cursor.start text).advance 8⟩

def spaces (n : Nat) : Gap := ⟨List.replicate n ' ', fun x hx => by
  rw [List.eq_of_mem_replicate hx]
  decide⟩

def letter (x : Char) (hstart : isIdentStart x = true) (hfree : isKeyword [x] = false) : Identifier :=
  ⟨[x], hstart, fun y hy => by
    rw [List.mem_singleton.1 hy]
    exact isIdentStart_imp_rest hstart, hfree⟩

def unbracketed (cs : List Char) (h : cs.all (nesting · == 0) = true) : Balanced :=
  ⟨cs, .of_forall fun x hx => ⟨beq_iff_eq.1 (List.all_eq_true.1 h x hx), trivial⟩⟩

/-- An instance with a space in front of its name and of its brackets. -/
def spaced (name : Identifier) (connections : Balanced) : HierarchicalInstance :=
  ⟨spaces 1, name, spaces 1, connections, spaces 0⟩

def overriddenStatement : Instantiation where
  indent := [' ', ' ']
  indented := fun x hx => .inl (List.eq_of_mem_replicate (n := 2) hx)
  moduleType := letter 'T' rfl (by decide +kernel)
  assignment := some ⟨spaces 1, spaces 0, unbracketed ['4'] rfl⟩
  first := spaced (letter 'u' rfl (by decide +kernel)) (unbracketed "a, b".toList rfl)
  others := []
  apart := nofun

def pairStatement : Instantiation where
  indent := []
  indented := nofun
  moduleType := letter 'T' rfl (by decide +kernel)
  assignment := none
  first := spaced (letter 'a' rfl (by decide +kernel)) (unbracketed ['x'] rfl)
  others := [spaced (letter 'b' rfl (by decide +kernel)) (unbracketed ['y'] rfl)]
  apart := fun _ => List.cons_ne_nil _ _

/-- An instance with overrides on an indented line is recorded as it is written. -/
theorem instances_recorded_overridden :
    recordedIn ((headOf overriddenText).body 29) overriddenStatement 10 = overriddenStatement.marks 10 := by
  have hscan : scan (stripComments overriddenText) = [scanModule (headOf overriddenText) 29] := rfl
  have hbody : ((headOf overriddenText).body 29).rest = ['\n'] ++ (overriddenStatement.text ++ ['\n']) := by
    decide +kernel
  obtain ⟨-, -, hall, hline⟩ := instances_recorded_iff ⟨.root, ["a.v"]⟩ (by decide +kernel)
    (hscan ▸ List.mem_singleton_self _) hbody (by decide +kernel) (by decide +kernel)
  have houtside := (unbracketed ['\n'] rfl).nested.outsideBrackets (overriddenStatement.text ++ ['\n'])
  refine hall.2 ⟨rfl, (hline houtside).2 (.inr fun a b hab hword => ?_)⟩
  -- the line break in front of the statement is no word
  obtain ⟨indent, word, gap, rfl, -, hstarts, hname, -⟩ := hword
  obtain ⟨x, word, rfl⟩ := List.exists_cons_of_ne_nil (ne_nil_of_isIdentStart hstarts)
  have hx : x ∈ ['\n'] := by
    rw [hab]
    simp
  rw [List.mem_singleton.1 hx] at hstarts
  cases hstarts

/-- Of two instances in one statement the second one is not recorded. -/
theorem second_instance_lost :
    recordedIn ((headOf pairText).body 26) pairStatement 10 ≠ pairStatement.marks 10 ∧
    (pairStatement.marks 10).map (·.1.name) = [['a'], ['b']] ∧
    ((headOf pairText).body 26).rest = ['\n'] ++ (pairStatement.text ++ ['\n']) ∧
    ∃ e, extract ⟨.root, ["a.v"]⟩ pairText = .ok e ∧ e.instances.map (·.name) = ["a"] ∧
      (e.symbols.filter (·.kind == .instantiation)).map (·.name) = ["a"] := by
  refine ⟨by decide +kernel, by decide +kernel, by decide +kernel, _, rfl, ?_, ?_⟩ <;> decide +kernel

end Instantiation

end RtlAtlas.Source
