/-
The ports of a module with a non-ANSI header. The names of the header are read back without directions,
so the ports are put together from the header and the declarations of the body: the header gives their
order, the last declaration of a name its direction and type.
-/
import RtlAtlas.Proofs.Source.NonAnsi.Body
import RtlAtlas.Proofs.Source.PortMarks

namespace RtlAtlas.Source.NonAnsi

open RtlAtlas.Text

/-! ## The header -/

/-- A name alone is an entry whose direction the header does not give. -/
theorem headerPortsFrom_name {s : Segment} {n : Name} (htrim : trim s.text = n.text) (type : List Char)
    (ss : List Segment) : headerPortsFrom none type (s :: ss) =
      ⟨n.text, s.offset + nameOffset s.text n.text, none⟩ :: headerPortsFrom none type ss := by
  have hname : declaredName ([] ++ n.text) = some n.text := n.declaredName_text .nil rfl
  rw [List.nil_append] at hname
  rw [headerPortsFrom]
  simp only [htrim, if_neg n.nonempty, direction?_plain n.plain n.free, hname]
  rfl

theorem headerPortsFrom_names (type : List Char) : ∀ (ns : List Name) (offset : Nat),
    (headerPortsFrom none type (segmentsFrom offset (ns.map (' ' :: ·.text)))).map
      (fun p => (p.name, p.port)) = ns.map fun n => (n.text, none)
  | [], _ => rfl
  | n :: ns, offset => by
    have htrim : trim (' ' :: n.text) = n.text := trim_append_plain n.nonempty n.plain [' ']
    rw [List.map_cons, segmentsFrom, headerPortsFrom_name htrim, List.map_cons, headerPortsFrom_names type ns]
    rfl

/-- The header is read back as its names, without directions. -/
theorem headerPorts_nameList (names : List Name) (offset : Nat) :
    (headerPorts ⟨nameList names, offset⟩).map (fun p => (p.name, p.port)) =
      names.map fun n => (n.text, none) := by
  cases names with
  | nil => rfl
  | cons n ns =>
    have hsplit : splitTopLevel (nameList (n :: ns)) offset =
        segmentsFrom offset (n.text :: ns.map (' ' :: ·.text)) := by
      have h := splitTopLevel_nameList .nil n ns offset
      rwa [List.nil_append, List.nil_append] at h
    have htrim : trim n.text = n.text := trim_append_plain n.nonempty n.plain []
    unfold headerPorts
    rw [hsplit, segmentsFrom, headerPortsFrom_name htrim, List.map_cons, headerPortsFrom_names]
    rfl

/-! ## Header and body together -/

/-- The last declaration of a name gives the port, a name without one is an `inout` wire. -/
theorem getD_ofList (declared : List Port) (name : String) :
    ((OrderedMap.ofList (declared.map fun p => (p.name, p))).get? name).getD ⟨name, .inout, "wire"⟩ =
      portNamed declared name := by
  rw [OrderedMap.get?_ofList, List.filter_map, List.getLast?_map, Option.map_map,
    show (Prod.snd ∘ fun p : Port => (p.name, p)) = id from rfl, Option.map_id]
  rfl

/-- A header without directions is put together with the declarations of the body. -/
theorem modulePorts_names {names : List Name} {header : List HeaderPort} {body : List (Port × Mark)}
    {declared : List Port} (hdeclared : body.map (·.1) = declared)
    (h : header.map (fun p => (p.name, p.port)) = names.map fun n => (n.text, none)) :
    modulePorts header body =
      ((if names = [] then (declared.map (·.name)).eraseDups else names.map Name.string).map
        (portNamed declared), body.map (·.2)) := by
  -- names alone have no direction, so the ports are those of the body
  have hundirected : ¬(!header.isEmpty && header.all (·.port.isSome)) = true := by
    cases header with
    | nil => simp
    | cons p ps =>
      cases names with
      | nil => cases h
      | cons n ns =>
        have hport : p.port = none := (Prod.mk.inj (List.cons.inj h).1).2
        simp [hport]
  have hentries : (body.map fun e => (e.1.name, e.1)) = declared.map fun p => (p.name, p) := by
    rw [← hdeclared, List.map_map]
    rfl
  -- in the order of the names, or of the declarations where there are none
  have horder : (if header.isEmpty then (OrderedMap.ofList (declared.map fun p => (p.name, p))).keys
      else header.map (String.ofList ·.name)) =
        if names = [] then (declared.map (·.name)).eraseDups else names.map Name.string := by
    cases names with
    | nil =>
      obtain rfl : header = [] := List.map_eq_nil_iff.1 h
      rw [OrderedMap.keys_ofList, List.map_map]
      rfl
    | cons n ns =>
      have hnames := congrArg (List.map fun p : List Char × Option Port => String.ofList p.1) h
      rw [List.map_map, List.map_map] at hnames
      cases header with
      | nil => cases hnames
      | cons p ps => exact hnames
  unfold modulePorts
  rw [if_neg hundirected]
  simp only [hentries, horder, getD_ofList]

/-! ## The module -/

namespace Module

variable (m : Module)

/-- The start of a module, as a scan finds it at an offset. -/
def head (offset : Nat) (cs : List Char) : ModuleHead :=
  ⟨m.name.text, offset, ⟨offset + (m.name.text.length + 7), m.name.text.getLast?.or (some ' '),
    m.inside ++ cs⟩⟩

/-- The offset of the word that ends a module which starts at an offset. -/
def stopAt (offset : Nat) : Nat := offset + (m.name.text.length + 7) + m.inside.length

variable (offset : Nat) (cs : List Char)

theorem parameters_head : (m.head offset cs).parameters (m.stopAt offset) =
    ([], ⟨offset + (m.name.text.length + 7) + 1, some ' ',
      '(' :: (nameList m.header ++ ')' :: ';' :: m.body)⟩) := by
  unfold ModuleHead.parameters
  rw [show (m.head offset cs).next.upTo (m.stopAt offset) = _ from upTo_inside _ _ cs, inside,
    skipBlank_space _ rfl]
  rfl

/-- The port list of a module is read back up to the bracket behind it. -/
theorem portList_head : ∃ header last, (m.head offset cs).portList (m.stopAt offset) =
    (header, ⟨last, some ')', ';' :: m.body⟩) ∧
      header.map (fun p => (p.name, p.port)) = m.header.map fun n => (n.text, none) := by
  have hnested : Nested (fun _ => True) (nameList m.header) :=
    nameList_of .nil (fun _ _ => .append) (.char (by decide) trivial (.char (by decide) trivial .nil))
      (fun n => n.nested.mono fun _ _ => trivial) m.header
  unfold ModuleHead.portList
  rw [m.parameters_head, headerPortList]
  simp only [enclosed?_group (show closer? '(' = some ')' from rfl) hnested]
  exact ⟨_, _, rfl, headerPorts_nameList m.header _⟩

/-- What a module has as ports, and what is marked as a port in it. -/
theorem scanModule_head :
    let mark := scanModule (m.head offset cs) (m.stopAt offset)
    mark.name = m.name.text ∧ mark.ports = m.ports ∧
      (mark.marks.filter (·.kind == .port)).map (fun p => String.ofList p.name) =
        m.declared.map (·.name) := by
  obtain ⟨header, last, hlist, hheader⟩ := m.portList_head offset cs
  have hbody : (m.head offset cs).body (m.stopAt offset) = ⟨last + 1, some ';', m.body⟩ := by
    unfold ModuleHead.body
    rw [hlist]
    rfl
  have hdeclared := m.declaredPorts_body (last + 1)
  have hports := modulePorts_names hdeclared hheader
  intro mark
  refine ⟨name_scanModule _ _, ?_, ?_⟩
  · rw [ports_scanModule, hlist, hbody, hports]
    rfl
  · rw [portMarks_scanModule, hlist, hbody, hports, ← hdeclared, List.map_map, List.map_map]
    refine List.map_congr_left fun p hp => ?_
    exact (kind_declaredPorts hp).2.symm

end Module

/-- The module that is written is the only one that is found. -/
theorem scan_text (m : Module) :
    scan m.text = [scanModule (m.head 0 ("endmodule".toList ++ ['\n'])) (m.stopAt 0)] := by
  have hmodule := scanFrom_module (by decide) (by decide) m.name.starts m.name.plain m.name.free
    m.without_inside (List.cons_ne_nil _ _) rfl m.text.length 0 (show (none : Option Char).any isWord = false
      from rfl) []
  have hrest : scanFrom m.text.length ⟨m.stopAt 0 + 10, some '\n', []⟩ = [] := by
    cases m.text.length <;> rfl
  exact hmodule.trans (congrArg _ hrest)

/-- From the text of a module with a non-ANSI header one module is extracted. Its ports are those of the
header, in this order, each with the direction and type of the last declaration of its name outside of
functions and tasks, or an `inout` wire; with an empty header they are the declared names in the order of
their first declarations. What such declarations name is marked as a port, and nothing else is. -/
theorem extract_nonAnsi (file : Path) (m : Module) : ∃ e d, extract file m.text = .ok e ∧
    e.modules = [d] ∧ d.name = m.name.string ∧ d.ports = m.ports ∧ d.ports.map (·.name) = m.order ∧
    (e.symbols.filter (·.kind == .port)).map (·.name) = m.declared.map (·.name) := by
  obtain ⟨hname, hports, hmarks⟩ := m.scanModule_head 0 ("endmodule".toList ++ ['\n'])
  have hscan := scan_text m
  generalize scanModule (m.head 0 ("endmodule".toList ++ ['\n'])) (m.stopAt 0) = mark at *
  refine ⟨_, mark.definition file m.text, m.bare_text.extract_eq file, ?_, ?_, hports, ?_, ?_⟩
  · rw [hscan, List.map_singleton]
  · exact congrArg String.ofList hname
  · exact (congrArg (List.map Port.name) hports).trans m.names_ports
  · rw [hscan, List.flatMap_singleton, List.filter_map, List.map_map]
    exact hmarks

example :
    let plain {w : List Char} (h : w.all isPlain = true) := List.all_eq_true.1 h
    let clk : Name := ⟨"clk".toList, by decide, plain (by decide), by decide +kernel⟩
    let count : Name := ⟨"count".toList, by decide, plain (by decide), by decide +kernel⟩
    let top : Name := ⟨"top".toList, by decide, plain (by decide), by decide +kernel⟩
    let bits : Range := ⟨⟨["7:0".toList], by simp [isBlank, inRanges, blankRanges],
      .char (by decide) trivial (.char (by decide) trivial (.char (by decide) trivial .nil))⟩,
      by decide, by decide, .of_all (by decide)⟩
    let next : Subroutine := ⟨.function, "next;\n    input v".toList, "\n    next = v + 1;\n  ".toList,
      by decide, by decide, .of_all (by decide)⟩
    let m : Module := ⟨top, [count, clk, top], [.declaration ⟨.input, none, clk, []⟩, .subroutine next,
      .declaration ⟨.output, some bits, count, []⟩]⟩
    m.text = "module top (count, clk, top);\n  input clk;\n  function next;\n    input v;\n".toList ++
        "    next = v + 1;\n  endfunction\n  output [7:0] count;\nendmodule\n".toList ∧
      m.ports = [⟨"count", .output, "[7:0]"⟩, ⟨"clk", .input, "wire"⟩, ⟨"top", .inout, "wire"⟩] := by
  decide +kernel

end RtlAtlas.Source.NonAnsi
