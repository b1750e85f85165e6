/-
The body of a module with a non-ANSI header. Each declaration is read back as the ports it declares. The
search for functions and tasks finds exactly those that are written, and what the search for declarations
finds inside of one of them ends there and is left out. So what is declared is read off item by item.
-/
import RtlAtlas.Proofs.Source.NonAnsi.Text
import RtlAtlas.Proofs.Source.SearchAll

namespace RtlAtlas.Source.NonAnsi

open RtlAtlas.Text

/-- Where no direction stands, no declaration starts. -/
theorem not_declaration? {c : Cursor} (h : c.atWordOf (isAmong directionWords) = false) :
    statement? directionWords c = none :=
  not_statement? (isReserved_of_keywords (by decide)) (fun _ hw => isAmong_toList.2 hw) h

/-! ## Lists of names -/

/-- What stands in front of a list of names belongs to the first one. -/
theorem splitTopLevel_nameList {lead : List Char} (hlead : Nested Kept lead) (n : Name) (ns : List Name)
    (offset : Nat) : splitTopLevel (lead ++ nameList (n :: ns)) offset =
      segmentsFrom offset ((lead ++ n.text) :: ns.map (' ' :: ·.text)) := by
  have hpull : ∀ ts : List (List Char), lead ++ [','].intercalate (n.text :: ts) =
      [','].intercalate ((lead ++ n.text) :: ts) := by
    intro ts
    cases ts <;> simp [List.intercalate_cons_cons]
  have hkept : ∀ {a : List Char}, Nested Kept a → Nested (· ≠ ',') a := fun h =>
    h.mono fun _ hx => hx.1
  have hnested : ∀ t ∈ (lead ++ n.text) :: ns.map (' ' :: ·.text), Nested (· ≠ ',') t := by
    intro t ht
    rcases List.mem_cons.1 ht with rfl | ht
    · exact hkept (hlead.append n.nested)
    · obtain ⟨k, -, rfl⟩ := List.mem_map.1 ht
      exact .char (by decide) (by decide) (hkept k.nested)
  rw [nameList, List.map_cons, intercalate_space, hpull, List.map_map]
  exact splitTopLevel_join hnested offset

namespace Name

variable (n : Name) {lead : List Char}

theorem declaredName_text (hlead : Nested Kept lead) (hlast : lead.getLast?.any isIdentRest = false) :
    declaredName (lead ++ n.text) = some n.text :=
  declaredName_append n.nonempty n.plain n.start n.free (hlead.append n.nested) (by decide) hlast

theorem typeBefore_text (hlead : Nested Kept lead) :
    typeBefore (lead ++ n.text) n.text = collapse lead :=
  typeBefore_append n.nonempty (hlead.append n.nested) (by decide)

end Name

/-! ## One declaration -/

/-- A segment of a declaration has its own type, or that of the segments before it. -/
theorem bodyPortsFrom_cons {lead : List Char} (hlead : Nested Kept lead)
    (hlast : lead.getLast?.any isIdentRest = false) (d : Direction) (type : List Char) (n : Name)
    (offset : Nat) (ss : List Segment) :
    let type' := orType (collapse lead) type
    (bodyPortsFrom d type (⟨lead ++ n.text, offset⟩ :: ss)).map (·.1) =
      ⟨n.string, d, String.ofList type'⟩ :: (bodyPortsFrom d type' ss).map (·.1) := by
  rw [bodyPortsFrom]
  simp only [n.declaredName_text hlead hlast, n.typeBefore_text hlead, List.map_cons]
  rfl

theorem bodyPortsFrom_names (d : Direction) (type : List Char) : ∀ (ns : List Name) (offset : Nat),
    (bodyPortsFrom d type (segmentsFrom offset (ns.map (' ' :: ·.text)))).map (·.1) =
      ns.map fun n => ⟨n.string, d, String.ofList type⟩
  | [], _ => rfl
  | n :: ns, offset => by
    have hspace : Nested Kept [' '] := .char (by decide) (by decide) .nil
    have hcons := bodyPortsFrom_cons hspace (by decide) d type n offset
    rw [List.map_cons, segmentsFrom, List.map_cons, ← bodyPortsFrom_names d type ns]
    exact hcons _

namespace Declaration

variable (d : Declaration)

/-- A declaration is read back as the ports it declares, all of one direction and of one type. -/
theorem bodyPorts_body (start offset : Nat) (next : Cursor) :
    (bodyPorts ⟨start, d.direction.word, ⟨d.body, offset⟩, next⟩).map (·.1) = d.ports := by
  have hword : Direction.ofWord? d.direction.word = some d.direction := by
    cases d.direction <;> rfl
  have hlead : Nested Kept (' ' :: d.lead) := .char (by decide) (by decide) d.nested_lead
  have hlast : (' ' :: d.lead).getLast?.any isIdentRest = false := by
    have h := d.getLast?_lead
    rw [List.getLast?_cons]
    cases hend : d.lead.getLast? with
    | none => decide
    | some x => rwa [hend] at h
  have hsplit : splitTopLevel d.body offset = segmentsFrom offset
      ((' ' :: d.lead ++ d.first.text) :: d.others.map (' ' :: ·.text)) :=
    splitTopLevel_nameList hlead d.first d.others offset
  unfold bodyPorts
  simp only [hword, hsplit]
  rw [segmentsFrom, bodyPortsFrom_cons hlead hlast, d.orType_lead, bodyPortsFrom_names]
  rfl

/-- A declaration is read as a statement where it stands. -/
theorem statement?_text (offset : Nat) {last : Option Char} (hlast : last.any isWord = false)
    (cs : List Char) : ∃ s, statement? directionWords ⟨offset, last, d.text ++ cs⟩ = some s ∧
      s.start = offset ∧ (bodyPorts s).map (·.1) = d.ports ∧
      s.next = ⟨offset + d.text.length, some ';', cs⟩ := by
  have htext : d.text ++ cs = d.direction.word.toList ++ (d.body ++ ';' :: cs) := by
    rw [text, List.append_assoc, List.append_assoc]
    rfl
  -- the statement is found by its direction and read up to its semicolon
  have hmem : d.direction.word ∈ directionWords := by cases d.direction <;> decide
  have hword := Cursor.word?_here (isReserved_of_keywords (by decide)) hmem hlast
    (show (d.body ++ ';' :: cs).head?.any isWord = false from rfl) offset
  have hrun : (d.body ++ ';' :: cs).takeWhile (· != ';') = d.body := by
    refine takeWhile_run (fun x hx => ?_) rfl
    have hne : x ≠ ';' := fun he => d.notMem_body (he ▸ hx)
    simpa using hne
  have hbody : (⟨offset + d.direction.word.length, d.direction.word.toList.getLast?.or last,
      d.body ++ ';' :: cs⟩ : Cursor).toSemicolon? =
        some (d.body, ⟨offset + d.text.length, some ';', cs⟩) := by
    have hlength : (d.body ++ [';']).length = d.body.length + 1 := List.length_append
    have hsplit : d.body ++ ';' :: cs = (d.body ++ [';']) ++ cs := by simp
    have hoffset : offset + d.direction.word.length + (d.body ++ [';']).length =
        offset + d.text.length := by
      simp only [text, List.length_append, String.length_toList]
      omega
    unfold Cursor.toSemicolon?
    simp only [hrun]
    rw [if_pos (by simp), ← hlength, hsplit, Cursor.advance_append, hoffset, List.getLast?_concat]
    rfl
  refine ⟨_, ?_, rfl, d.bodyPorts_body _ (offset + d.direction.word.length) _, rfl⟩
  unfold statement?
  rw [htext, hword]
  simp only [hbody, Option.map_some]

end Declaration

/-! ## One function or task -/

namespace Subroutine

variable (s : Subroutine)

/-- A function or task is found where it stands, and it reaches to the first word that ends it. -/
theorem routine?_text (offset : Nat) {last : Option Char} (hlast : last.any isWord = false)
    (cs : List Char) : ∃ r x, routine? ⟨offset, last, s.text ++ '\n' :: cs⟩ = some r ∧
      r.start = offset ∧ r.stop = offset + s.text.length ∧
      r.next = ⟨offset + s.text.length, x, '\n' :: cs⟩ := by
  have htext : s.text ++ '\n' :: cs =
      s.kind.word.toList ++ (s.body ++ (("end" ++ s.kind.word).toList ++ '\n' :: cs)) := by
    rw [text, List.append_assoc, List.append_assoc]
  have hlength : offset + s.text.length =
      offset + s.kind.word.length + s.body.length + ("end" ++ s.kind.word).length := by
    simp only [text, List.length_append, String.length_toList]
    omega
  have hmem : s.kind.word ∈ ["function", "task"] := by cases s.kind <;> decide
  have hword := Cursor.word?_here (isReserved_of_keywords (by decide)) hmem hlast (show (s.body ++ (("end" ++
    s.kind.word).toList ++ '\n' :: cs)).head?.any isWord = false from rfl) offset
  -- behind the keyword the first word that ends a routine is the one it is written with
  have hreserved : ∀ w ∈ ["end" ++ s.kind.word], isReserved w.toList = true :=
    isReserved_of_keywords (by cases s.kind <;> decide)
  have hends : ∀ w ∈ ["end" ++ s.kind.word], isAmong endWords w.toList = true := by
    cases s.kind <;> decide
  have hclose := Cursor.word?_here hreserved (List.mem_singleton.2 rfl)
    (s.without_body.last_or (List.cons_ne_nil _ _) (s.kind.word.toList.getLast?.or last))
    (show ('\n' :: cs).head?.any isWord = false from rfl) (offset + s.kind.word.length + s.body.length)
  have hsearch : (⟨offset + s.kind.word.length, s.kind.word.toList.getLast?.or last,
      s.body ++ (("end" ++ s.kind.word).toList ++ '\n' :: cs)⟩ : Cursor).search
        (·.word? ["end" ++ s.kind.word]) = some _ :=
    (Cursor.search_without (fun d hd => Cursor.not_word? hreserved hends hd) (by decide)
      s.without_body _ fun _ => rfl).trans (Cursor.search_here hclose)
  unfold routine?
  rw [htext, hword]
  simp only [hsearch]
  exact ⟨_, _, rfl, rfl, hlength.symm, by rw [hlength]⟩

/-- A declaration inside of a function or task ends there. -/
theorem statement?_within {c : Cursor} {cs : List Char} (hrest : c.rest = s.text ++ '\n' :: cs) {m : Nat}
    (hm : m < s.text.length) {a : Statement}
    (ha : statement? directionWords (c.advance m) = some a) :
    a.start = c.offset + m ∧ a.next.offset ≤ c.offset + s.text.length := by
  have hoffset : (c.advance m).offset = c.offset + m := by
    rw [Cursor.offset_advance, hrest, List.length_append]
    omega
  obtain ⟨-, -, -, -, -, hstart⟩ := statement?_eq_some ha
  refine ⟨hstart.trans hoffset, ?_⟩
  have hlength : s.signature.length + s.remainder.length = s.text.length + 1 := by
    have h := congrArg List.length (s.text_signature [])
    simp only [List.length_append, List.length_cons, List.length_nil] at h
    omega
  rw [s.text_signature] at hrest
  rcases Nat.lt_or_ge m s.signature.length with hlt | hge
  · -- it ends at the semicolon behind the signature, if not before
    have hpos : 2 ≤ s.remainder.length := by
      simp only [remainder, List.length_cons, List.length_append]
      omega
    have hdrop : (c.advance m).rest = s.signature.drop m ++ ';' :: (s.tail ++ (("end" ++
        s.kind.word).toList ++ ['\n']) ++ cs) := by
      rw [Cursor.rest_advance, hrest, List.drop_append_of_le_length (Nat.le_of_lt hlt)]
      rfl
    have hle := next_le_of_semicolon (by decide) ha hdrop
    rw [hoffset, List.length_drop] at hle
    omega
  · -- behind the signature no direction stands
    obtain ⟨offset, last, rest⟩ := c
    obtain rfl : rest = _ := hrest
    obtain ⟨k, rfl⟩ := Nat.exists_eq_add_of_le hge
    rw [← Cursor.advance_advance, Cursor.advance_append, not_declaration?
      (Cursor.not_atWordOf (by decide) s.without_remainder cs (fun _ => rfl) (by omega))] at ha
    cases ha

end Subroutine

/-! ## Where functions and tasks lie -/

/-- The offsets of a function or task that stands at an offset. -/
def Item.span? (offset : Nat) : Item → Option (Nat × Nat)
  | declaration _ => none
  | subroutine s => some (offset, offset + s.text.length)

/-- The offsets of the functions and tasks among items whose lines start at an offset. -/
def spans (offset : Nat) : List Item → List (Nat × Nat)
  | [] => []
  | i :: is => (i.span? (offset + 2)).toList ++ spans (offset + i.text.length) is

/-- Whether an offset lies between two others of a list. -/
def covers (ps : List (Nat × Nat)) (x : Nat) : Bool := ps.any fun p => p.1 ≤ x && x < p.2

theorem inRoutine_eq (rs : List RtlAtlas.Source.Routine) (x : Nat) :
    inRoutine rs x = covers (rs.map fun r => (r.start, r.stop)) x := by
  rw [inRoutine, covers, List.any_map]
  rfl

theorem Item.length_text (i : Item) : i.text.length = i.core.length + 3 := by
  simp only [text, List.length_cons, List.length_append, List.length_nil]

theorem of_mem_span? {i : Item} {offset : Nat} {p : Nat × Nat} (h : p ∈ (i.span? (offset + 2)).toList) :
    offset + 2 ≤ p.1 ∧ p.2 ≤ offset + i.text.length := by
  rw [Option.mem_toList] at h
  cases i with
  | declaration d => cases h
  | subroutine s =>
    obtain rfl := Option.some.inj h
    rw [Item.length_text]
    constructor
    · exact Nat.le_refl _
    · show offset + 2 + s.text.length ≤ offset + (s.text.length + 3)
      omega

theorem le_of_mem_spans : ∀ {items : List Item} {offset : Nat} {p : Nat × Nat},
    p ∈ spans offset items → offset ≤ p.1
  | [], _, _, h => by cases h
  | i :: is, offset, p, h => by
    rcases List.mem_append.1 h with h | h
    · have hlow := (of_mem_span? h).1
      omega
    · have hlow := le_of_mem_spans h
      omega

/-- What lies in the lines of an item lies in no later function or task. -/
theorem covers_spans_of_lt {i : Item} {is : List Item} {offset x : Nat} (hx : x < offset + i.text.length) :
    covers (spans offset (i :: is)) x = covers (i.span? (offset + 2)).toList x := by
  have hlater : covers (spans (offset + i.text.length) is) x = false := by
    rw [covers, List.any_eq_false]
    intro p hp
    have hlow := le_of_mem_spans hp
    simp
    omega
  rw [covers, spans, List.any_append]
  exact (congrArg _ hlater).trans (Bool.or_false _)

/-- What lies behind the lines of an item does not lie in the item. -/
theorem covers_spans_of_le {i : Item} {is : List Item} {offset x : Nat} (hx : offset + i.text.length ≤ x) :
    covers (spans offset (i :: is)) x = covers (spans (offset + i.text.length) is) x := by
  have hearlier : covers (i.span? (offset + 2)).toList x = false := by
    rw [covers, List.any_eq_false]
    intro p hp
    have hhigh := (of_mem_span? hp).2
    simp
    omega
  rw [covers, spans, List.any_append]
  exact (congrArg (· || _) hearlier).trans (Bool.false_or _)

/-! ## Item by item -/

section

variable {α : Type} {pattern : Cursor → Option α} {next : α → Cursor} {sort : List Char → Bool}
  (h : Cursor.MovesOn pattern next) (hpattern : ∀ c, c.atWordOf sort = false → pattern c = none)
  (hnil : sort [] = false)

include h hpattern hnil

/-- The search of an item begins at its first word. -/
theorem searchAll_item (i : Item) (offset : Nat) (rest : List Char) :
    (⟨offset, some '\n', i.text ++ rest⟩ : Cursor).searchAll pattern next =
      (⟨offset + 2, some ' ', i.core ++ '\n' :: rest⟩ : Cursor).searchAll pattern next := by
  have hspaces : Without sort [' ', ' '] := .mark (by decide) (.mark (by decide) .nil)
  have htext : i.text ++ rest = [' ', ' '] ++ (i.core ++ '\n' :: rest) := by
    simp [Item.text]
  rw [htext]
  exact Cursor.searchAll_without h hpattern hnil hspaces _ fun _ => rfl

/-- Behind an item the search goes on in the next line. -/
theorem searchAll_behind (i : Item) (offset : Nat) (last : Option Char) (rest : List Char) :
    (⟨offset + 2 + i.core.length, last, '\n' :: rest⟩ : Cursor).searchAll pattern next =
      (⟨offset + i.text.length, some '\n', rest⟩ : Cursor).searchAll pattern next := by
  have hoffset : offset + i.text.length = offset + 2 + i.core.length + 1 := by
    rw [i.length_text]
    omega
  rw [hoffset]
  exact Cursor.searchAll_mark h hpattern hnil (by decide) _ _ _

end

/-- Of an item the search for functions and tasks finds the item if it is one. -/
theorem routines_item (i : Item) (offset : Nat) (rest : List Char) :
    ((⟨offset, some '\n', i.text ++ rest⟩ : Cursor).routines).map (fun r => (r.start, r.stop)) =
      (i.span? (offset + 2)).toList ++
        ((⟨offset + i.text.length, some '\n', rest⟩ : Cursor).routines).map fun r => (r.start, r.stop) := by
  have hpattern : ∀ c : Cursor, c.atWordOf (isAmong routineWords) = false → routine? c = none :=
    fun c hc => not_routine? (by decide) hc
  have hitem := searchAll_item movesOn_routine? hpattern (by decide) i offset rest
  have hbehind := searchAll_behind movesOn_routine? hpattern (by decide) i offset
  unfold Cursor.routines
  rw [hitem]
  -- A declaration has no routine's word in it, a routine is found at its own first character.
  cases i with
  | declaration d =>
    have hclear : Without (isAmong routineWords) (d.text ++ ['\n']) :=
      d.without.mono (isAmong_of_subset (by decide))
    have hskip : (⟨offset + 2, some ' ', d.text ++ ['\n'] ++ rest⟩ : Cursor).searchAll routine? (·.next) =
        (⟨offset + 2 + (d.text ++ ['\n']).length, (d.text ++ ['\n']).getLast?.or (some ' '), rest⟩ :
          Cursor).searchAll routine? (·.next) :=
      Cursor.searchAll_without movesOn_routine? hpattern (by decide) hclear rest
        fun hword => absurd hword (by decide)
    have hoffset : offset + 2 + (d.text ++ ['\n']).length = offset + (Item.declaration d).text.length := by
      rw [Item.length_text, List.length_append, Nat.add_assoc, Nat.add_comm 2]
      rfl
    rw [List.append_assoc, hoffset, List.getLast?_concat] at hskip
    exact congrArg (List.map fun r => (r.start, r.stop)) hskip
  | subroutine s =>
    obtain ⟨r, x, hr, hstart, hstop, hnext⟩ := s.routine?_text (offset + 2)
      (show (some ' ').any isWord = false by decide) rest
    simp only [Item.core] at hbehind ⊢
    rw [Cursor.searchAll_here movesOn_routine? hr, hnext, hbehind, List.map_cons, hstart, hstop]
    rfl

/-- The functions and tasks of a body are those that are written. -/
theorem routines_items : ∀ (items : List Item) (offset : Nat),
    ((⟨offset, some '\n', items.flatMap Item.text⟩ : Cursor).routines).map (fun r => (r.start, r.stop)) =
      spans offset items
  | [], _ => rfl
  | i :: is, offset => by
    rw [List.flatMap_cons, routines_item, routines_items is, spans]

/-- Of a declaration its own ports are read, and what is found inside of a function or task is left out. -/
theorem declarations_item (i : Item) (offset : Nat) (rest : List Char) : ∃ found,
    (⟨offset, some '\n', i.text ++ rest⟩ : Cursor).searchAll (statement? directionWords) (·.next) =
      found ++ (⟨offset + i.text.length, some '\n', rest⟩ : Cursor).searchAll (statement? directionWords)
        (·.next) ∧
    (∀ s ∈ found, offset ≤ s.start ∧ s.start < offset + i.text.length) ∧
    ((found.filter fun s => !covers (i.span? (offset + 2)).toList s.start).flatMap bodyPorts).map (·.1) =
      i.ports := by
  have hmoves := movesOn_statement? directionWords
  have hitem := searchAll_item hmoves (fun _ => not_declaration?) (by decide) i offset rest
  have hbehind := searchAll_behind hmoves (fun _ => not_declaration?) (by decide) i offset
  rw [hitem]
  cases i with
  | declaration d =>
    -- a declaration is found once, where it starts
    obtain ⟨s, hs, hstart, hports, hnext⟩ := d.statement?_text (offset + 2)
      (show (some ' ').any isWord = false by decide) ('\n' :: rest)
    simp only [Item.core] at hbehind ⊢
    refine ⟨[s], ?_, ?_, ?_⟩
    · rw [Cursor.searchAll_here hmoves hs, hnext, hbehind]
      rfl
    · intro s' hs'
      obtain rfl := List.mem_singleton.1 hs'
      rw [hstart, Item.length_text]
      omega
    · show (bodyPorts s ++ []).map Prod.fst = d.ports
      rw [List.append_nil, hports]
  | subroutine s =>
    -- whatever is found inside a subroutine is covered by it and gives no ports
    have hrest : (⟨offset + 2, some ' ', s.text ++ '\n' :: rest⟩ : Cursor).rest = s.text ++ '\n' :: rest := rfl
    obtain ⟨found, hfound, hplaces⟩ := Cursor.searchAll_within hmoves (n := s.text.length)
      (by rw [hrest, List.length_append]; omega) fun m hm a ha => (s.statement?_within hrest hm ha).2
    have hinside : ∀ a ∈ found, offset + 2 ≤ a.start ∧ a.start < offset + 2 + s.text.length := by
      intro a ha
      obtain ⟨m, hm, hp⟩ := hplaces a ha
      have hstart := (s.statement?_within hrest hm hp).1
      simp only at hstart
      omega
    simp only [Item.core] at hbehind ⊢
    refine ⟨found, ?_, ?_, ?_⟩
    · rw [hfound, Cursor.advance_append, hbehind]
    · intro a ha
      have hbounds := hinside a ha
      rw [Item.length_text, show Item.core (.subroutine s) = s.text from rfl]
      omega
    · have hnone : (found.filter fun a => !covers ((Item.subroutine s).span? (offset + 2)).toList a.start) =
          [] := by
        rw [List.filter_eq_nil_iff]
        intro a ha
        have hbounds := hinside a ha
        simp [Item.span?, covers, hbounds]
      rw [hnone]
      rfl

/-! ## The whole body -/

/-- The declarations outside of functions and tasks are those of the items, one after the other. -/
theorem declarations_items : ∀ (items : List Item) (offset : Nat) (inside : Nat → Bool),
    (∀ x, offset ≤ x → inside x = covers (spans offset items) x) →
    ((((⟨offset, some '\n', items.flatMap Item.text⟩ : Cursor).searchAll (statement? directionWords)
      (·.next)).filter fun s => !inside s.start).flatMap bodyPorts).map (·.1) = items.flatMap Item.ports
  | [], _, _, _ => rfl
  | i :: is, offset, inside, h => by
    obtain ⟨found, hfound, hplaces, hports⟩ := declarations_item i offset (is.flatMap Item.text)
    have hrest := declarations_items is (offset + i.text.length) inside fun x hx => by
      rw [h x (by omega), covers_spans_of_le hx]
    have hsame : (found.filter fun s => !inside s.start) =
        found.filter fun s => !covers (i.span? (offset + 2)).toList s.start := by
      refine List.filter_congr fun s hs => ?_
      obtain ⟨hlow, hhigh⟩ := hplaces s hs
      rw [h _ hlow, covers_spans_of_lt hhigh]
    rw [List.flatMap_cons, List.flatMap_cons, hfound, List.filter_append, List.flatMap_append,
      List.map_append, hsame, hports, hrest]

/-- A body declares the ports of its items. -/
theorem Module.declaredPorts_body (m : Module) (offset : Nat) :
    ((⟨offset, some ';', m.body⟩ : Cursor).declaredPorts).map (·.1) = m.declared := by
  have hroutines : (⟨offset, some ';', m.body⟩ : Cursor).routines =
      (⟨offset + 1, some '\n', m.items.flatMap Item.text⟩ : Cursor).routines :=
    Cursor.searchAll_mark movesOn_routine? (fun c hc => not_routine? (fun _ hw => isAmong_toList.2 hw) hc)
      (by decide) (by decide) _ _ _
  have hstatements : (⟨offset, some ';', m.body⟩ : Cursor).searchAll (statement? directionWords) (·.next) =
      (⟨offset + 1, some '\n', m.items.flatMap Item.text⟩ : Cursor).searchAll (statement? directionWords)
        (·.next) :=
    Cursor.searchAll_mark (movesOn_statement? _) (fun _ => not_declaration?) (by decide) (by decide) _ _ _
  have hitems := declarations_items m.items (offset + 1)
    (inRoutine (⟨offset, some ';', m.body⟩ : Cursor).routines) fun x _ => by
      rw [inRoutine_eq, hroutines, routines_items]
  rw [← hstatements] at hitems
  exact hitems

end RtlAtlas.Source.NonAnsi
