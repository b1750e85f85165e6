/-
The make-up of modules with non-ANSI headers: the words and the brackets of their texts, and that no
item holds a word at which the search for another one would stop.
-/
import RtlAtlas.Proofs.Source.Declarator
import RtlAtlas.Proofs.Source.NonAnsi.Basic

namespace RtlAtlas.Source.NonAnsi

open RtlAtlas.Text

/-! ## Words -/

/-- The words that start or end a function or a task, or end the module. -/
def edgeWords : List String := routineWords ++ endWords

theorem isAmong_toList {words : List String} {w : String} :
    isAmong words w.toList = true ↔ w ∈ words := by
  rw [isAmong, String.ofList_toList, List.contains_iff_mem]

theorem isAmong_of_subset {words words' : List String} (h : ∀ w ∈ words', w ∈ words) (w : List Char)
    (hw : isAmong words w = false) : isAmong words' w = false := by
  rw [Bool.eq_false_iff, isAmong, ne_eq, List.contains_iff_mem] at hw ⊢
  exact fun hmem => hw (h _ hmem)

section

variable {sort : List Char → Bool} {x : Char} {cs : List Char}

/-- A word of the language. -/
theorem without_word {w : String} (hplain : w.toList.all isPlain = true) (hw : sort w.toList = false)
    (hx : isWord x = false) (h : Without sort (x :: cs)) : Without sort (w.toList ++ x :: cs) :=
  .word (List.all_eq_true.1 hplain) hw hx h

theorem without_space (h : Without sort cs) : Without sort (' ' :: cs) := .mark (by decide) h

end

namespace Name

theorem nonempty (n : Name) : n.text ≠ [] := ne_nil_of_isIdentStart n.starts

theorem start (n : Name) : n.text.head?.all isIdentStart = true := by
  obtain ⟨x, cs, htext⟩ := List.exists_cons_of_ne_nil n.nonempty
  have hstarts := n.starts
  rwa [htext] at hstarts ⊢

theorem not_among {words : List String} (hwords : ∀ w ∈ words, w ∈ keywords) (n : Name) :
    isAmong words n.text = false := isAmong_of_subset hwords _ n.free

theorem nested (n : Name) : Nested Kept n.text := nested_plain n.plain

theorem bare_text (n : Name) : Bare n.text :=
  .of_all (List.all_eq_true.2 fun x hx => isBare_of_isPlain (n.plain x hx))

end Name

theorem nameList_cons_cons (n k : Name) (ns : List Name) :
    nameList (n :: k :: ns) = n.text ++ ',' :: ' ' :: nameList (k :: ns) := by
  simp [nameList, List.intercalate_cons_cons]

theorem without_nameList {words : List String} (hwords : ∀ w ∈ words, w ∈ keywords) {x : Char}
    {cs : List Char} (hx : isWord x = false) (h : Without (isAmong words) (x :: cs)) :
    ∀ names : List Name, Without (isAmong words) (nameList names ++ x :: cs)
  | [] => h
  | [n] => by
    rw [show nameList [n] = n.text from List.intercalate_singleton ..]
    exact .word n.plain (n.not_among hwords) hx h
  | n :: k :: ns => by
    rw [nameList_cons_cons, List.append_assoc]
    exact .word n.plain (n.not_among hwords) (by decide)
      (.mark (by decide) (without_space (without_nameList hwords hx h (k :: ns))))

/-- A property that texts hand on to what they make up, and that commas and spaces have, is one of lists
of names. -/
theorem nameList_of {P : List Char → Prop} (hnil : P []) (happend : ∀ a b, P a → P b → P (a ++ b))
    (hseparator : P [',', ' ']) (hname : ∀ n : Name, P n.text) (names : List Name) : P (nameList names) := by
  refine of_intercalate hnil happend hseparator fun t ht => ?_
  obtain ⟨n, -, rfl⟩ := List.mem_map.1 ht
  exact hname n

/-! ## Declarations -/

namespace Range

variable (r : Range)

theorem singleSpaced : SingleSpaced r.text :=
  (r.bounds.singleSpaced.concat (by decide)).cons (by decide)

theorem nested {out : Char → Prop} : Nested out r.text := .group rfl r.bounds.nested .nil

theorem without : Without (isAmong edgeWords) r.text := .mark (by decide) r.free

theorem notMem_semicolon : ';' ∉ r.text := by
  intro h
  simp only [text, List.mem_cons, List.mem_append, List.not_mem_nil, or_false] at h
  rcases h with h | h | h
  · cases h
  · exact r.unended h
  · cases h

theorem bare_text : Bare r.text :=
  .append (a := ['[']) (.of_all (by decide)) (r.bare.append (.of_all (by decide)))

end Range

namespace Declaration

variable (d : Declaration)

theorem nested_lead : Nested Kept d.lead := by
  unfold lead
  cases d.range with
  | none => exact .nil
  | some r => exact r.nested.append (.char (by decide) (by decide) .nil)

theorem getLast?_lead : d.lead.getLast?.any isIdentRest = false := by
  unfold lead
  cases d.range with
  | none => rfl
  | some r =>
    rw [Option.elim_some, List.getLast?_concat]
    decide

/-- The type of a declaration with a range is the range. -/
theorem orType_lead : orType (collapse (' ' :: d.lead)) "wire".toList = d.type := by
  unfold lead type
  cases d.range with
  | none => rfl
  | some r =>
    rw [Option.elim_some, r.singleSpaced.collapse_spaces]
    exact if_neg (List.cons_ne_nil _ _)

theorem without_lead : Without (isAmong edgeWords) d.lead := by
  unfold lead
  cases d.range with
  | none => exact .nil
  | some r => exact r.without.append (without_space .nil)

theorem without : Without (isAmong edgeWords) (d.text ++ ['\n']) := by
  have hlist : Without (isAmong edgeWords) (nameList d.names ++ ';' :: ['\n']) :=
    without_nameList (by decide) (by decide) (.mark (by decide) (.mark (by decide) .nil)) d.names
  have hbody := without_space (d.without_lead.append hlist)
  have hword : Without (isAmong edgeWords) (d.direction.word.toList ++
      ' ' :: (d.lead ++ (nameList d.names ++ [';', '\n']))) := by
    cases d.direction <;> exact without_word (by decide) (by decide) (by decide) hbody
  rw [text, body, List.append_assoc, List.append_assoc, List.cons_append, List.append_assoc]
  exact hword

theorem notMem_body : ';' ∉ d.body := by
  have hlead : ';' ∉ d.lead := by
    unfold lead
    cases d.range with
    | none => simp
    | some r => simpa using r.notMem_semicolon
  have hnames : ';' ∉ nameList d.names :=
    nameList_of (P := (';' ∉ ·)) (by simp) (fun a b ha hb => by simp [ha, hb]) (by decide)
      (fun n hn => absurd (n.plain _ hn) (by decide)) d.names
  simp [body, hlead, hnames]

theorem bare_text : Bare d.text := by
  have hword : Bare d.direction.word.toList := by
    cases d.direction <;> exact .of_all (by decide)
  have hlead : Bare d.lead := by
    unfold lead
    cases d.range with
    | none => exact .of_all rfl
    | some r => exact r.bare_text.append (.of_all (by decide))
  have hnames : Bare (nameList d.names) :=
    nameList_of (.of_all rfl) (fun _ _ => .append) (.of_all (by decide)) Name.bare_text _
  have hbody : Bare d.body := .append (a := [' ']) (.of_all (by decide)) (hlead.append hnames)
  rw [text]
  exact hword.append (hbody.append (.of_all (by decide)))

end Declaration

/-! ## Functions and tasks -/

namespace Subroutine

variable (s : Subroutine)

theorem without_body : Without (isAmong endWords) s.body := without_space s.unended

/-- The word that ends a function or task, and the line break behind it. -/
theorem without_end {words : List String} (hwords : "endfunction" ∉ words ∧ "endtask" ∉ words) :
    Without (isAmong words) (("end" ++ s.kind.word).toList ++ ['\n']) := by
  have hword : isAmong words ("end" ++ s.kind.word).toList = false := by
    rw [Bool.eq_false_iff, ne_eq, isAmong_toList]
    cases s.kind
    · exact hwords.1
    · exact hwords.2
  have hplain : ("end" ++ s.kind.word).toList.all isPlain = true := by
    cases s.kind <;> decide
  exact without_word hplain hword (by decide) (.mark (by decide) .nil)

/-- A function or task up to the semicolon behind which no argument is declared. -/
def signature : List Char := s.kind.word.toList ++ ' ' :: s.head

/-- What follows its signature, with the line break behind its end. -/
def remainder : List Char := ';' :: (s.tail ++ (("end" ++ s.kind.word).toList ++ ['\n']))

theorem text_signature (cs : List Char) :
    s.text ++ '\n' :: cs = s.signature ++ (s.remainder ++ cs) := by
  simp [text, body, signature, remainder]

theorem without_remainder : Without (isAmong directionWords) s.remainder :=
  .mark (by decide) (s.settled.append (s.without_end (by decide)))

/-- A function or task does not end the module. -/
theorem without : Without (isAmong ["endmodule"]) (s.text ++ ['\n']) := by
  have hbody : Without (isAmong ["endmodule"]) s.body :=
    s.without_body.mono (isAmong_of_subset (by decide))
  have hend := hbody.append (s.without_end (by decide))
  obtain ⟨hplain, hkind⟩ : s.kind.word.toList.all isPlain = true ∧
      isAmong ["endmodule"] s.kind.word.toList = false := by
    cases s.kind <;> decide
  have hword : Without (isAmong ["endmodule"]) (s.kind.word.toList ++
      (s.body ++ (("end" ++ s.kind.word).toList ++ ['\n']))) :=
    without_word hplain hkind (by decide) hend
  rw [text, List.append_assoc, List.append_assoc]
  exact hword

theorem bare_text : Bare s.text := by
  have hword : Bare s.kind.word.toList := by
    cases s.kind <;> exact .of_all (by decide)
  have hend : Bare ("end" ++ s.kind.word).toList := by
    cases s.kind <;> exact .of_all (by decide)
  have hbody : Bare s.body := .append (a := [' ']) (.of_all (by decide)) s.bare
  rw [text]
  exact hword.append (hbody.append hend)

end Subroutine

/-! ## Modules -/

theorem Item.without : ∀ i : Item, Without (isAmong ["endmodule"]) i.text
  | declaration d => without_space (without_space (d.without.mono (isAmong_of_subset (by decide))))
  | subroutine s => without_space (without_space s.without)

theorem Item.bare_text (i : Item) : Bare i.text := by
  have hcore : Bare i.core := by
    cases i with
    | declaration d => exact d.bare_text
    | subroutine s => exact s.bare_text
  exact .append (a := [' ', ' ']) (.of_all (by decide)) (hcore.append (.of_all (by decide)))

namespace Module

variable (m : Module)

/-- The word that ends the module is the first such word in its text. -/
theorem without_inside : Without (isAmong ["endmodule"]) m.inside := by
  have hbody : Without (isAmong ["endmodule"]) m.body :=
    .mark (by decide) (.flatMap fun i _ => i.without)
  have hlist : Without (isAmong ["endmodule"]) (nameList m.header ++ ')' :: ';' :: m.body) :=
    without_nameList (by decide) (by decide) (.mark (by decide) (.mark (by decide) hbody)) m.header
  exact without_space (.mark (by decide) hlist)

theorem bare_text : Bare m.text := by
  have hheader : Bare (nameList m.header) :=
    nameList_of (.of_all rfl) (fun _ _ => .append) (.of_all (by decide)) Name.bare_text _
  have hbody : Bare m.body :=
    .append (a := ['\n']) (.of_all (by decide)) (.flatMap fun i _ => i.bare_text)
  have hinside : Bare m.inside := .append (a := [' ', '(']) (.of_all (by decide))
    (hheader.append (.append (a := [')', ';']) (.of_all (by decide)) hbody))
  have hword : Bare ("module".toList ++ [' ']) := .of_all (by decide)
  have hend : Bare "endmodule\n".toList := .of_all (by decide)
  have htext := hword.append (m.name.bare_text.append (hinside.append hend))
  rwa [List.append_assoc] at htext

end Module

end RtlAtlas.Source.NonAnsi
