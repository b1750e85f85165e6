/-
The text of a module between its keyword and the word that ends it. A scan that begins at the keyword
takes the name behind it for that of the module, reads the module up to the first word that ends one, and
goes on in the line behind that word.
-/
import RtlAtlas.Proofs.Source.Names
import RtlAtlas.Proofs.Source.Passage
import RtlAtlas.Proofs.Source.Reserved

namespace RtlAtlas.Source

open RtlAtlas.Text

/-! ## The start of a module -/

theorem skipBlank_space (cs : List Char) (h : cs.head?.any isBlank = false) (offset : Nat)
    (last : Option Char) :
    (⟨offset, last, ' ' :: cs⟩ : Cursor).skipBlank = ⟨offset + 1, some ' ', cs⟩ := by
  rw [Cursor.skipBlank_eq (a := [' ']) rfl (List.all_eq_true.1 (by decide)) h]
  rfl

theorem afterWordAndBlank?_eq_some (word : String) {cs : List Char}
    (hcs : cs.head?.any isBlank = false) (offset : Nat) (last : Option Char) :
    afterWordAndBlank? word ⟨offset, last, word.toList ++ ' ' :: cs⟩ =
      some ⟨offset + word.length + 1, some ' ', cs⟩ := by
  unfold afterWordAndBlank?
  rw [show dropLead? word.toList (word.toList ++ ' ' :: cs) = some (' ' :: cs) from
    dropLead?_eq_some.2 rfl]
  simp only [← String.length_toList, Cursor.advance_append, skipBlank_space cs hcs]
  rw [if_pos (Nat.lt_succ_self _)]

section

variable {name inside cs : List Char} (hstarts : name.head?.any isIdentStart = true)
  (hplain : ∀ x ∈ name, isPlain x = true) (hfree : isKeyword name = false)

include hstarts hplain hfree

/-- A name that is no keyword is the name of the module. -/
theorem moduleHead?_named (hcs : cs.head?.any isIdentRest = false) (offset : Nat) {last : Option Char}
    (hlast : last.any isWord = false) :
    moduleHead? ⟨offset, last, "module".toList ++ ' ' :: (name ++ cs)⟩ = some ⟨name, offset,
      ⟨offset + (name.length + 7), name.getLast?.or (some ' '), cs⟩⟩ := by
  have hne := ne_nil_of_isIdentStart hstarts
  have hblank : (name ++ cs).head?.any isBlank = false := by
    obtain ⟨x, name, rfl⟩ := List.exists_cons_of_ne_nil hne
    exact isBlank_of_isPlain (hplain x (List.mem_cons_self ..))
  have hword := afterWordAndBlank?_eq_some "module" hblank offset last
  have hrun : (name ++ cs).takeWhile isPlain = name := by
    refine takeWhile_run hplain ?_
    cases cs with
    | nil => rfl
    | cons x cs =>
      have hx : (isWord x || x == '$') = false := hcs
      exact isPlain_eq_false (Bool.or_eq_false_iff.1 hx).1
  -- the name is no keyword that may stand in front of one
  have hname : moduleName? ⟨offset + 6 + 1, some ' ', name ++ cs⟩ =
      some (name, ⟨offset + 6 + 1 + name.length, name.getLast?.or (some ' '), cs⟩) := by
    have hkeywords : ∀ w ∈ ["automatic", "static"], w ∈ keywords := by decide
    unfold moduleName?
    rw [@not_afterWordAndBlank? isKeyword _ _ (isReserved_of_keywords hkeywords)
      (fun w hw => isKeyword_toList (hkeywords w hw)) (by rw [hrun]; exact hfree)]
    have hident := Cursor.ident?_eq (c := ⟨offset + 6 + 1, some ' ', name ++ cs⟩) rfl hstarts
      (fun x hx => isIdentRest_of_isPlain (hplain x hx)) hcs
    rw [Cursor.advance_append] at hident
    exact hident
  have hoffset : offset + 6 + 1 + name.length = offset + (name.length + 7) := by omega
  unfold moduleHead?
  rw [show (⟨offset, last, "module".toList ++ ' ' :: (name ++ cs)⟩ : Cursor).atWordStart = true by
    simp [Cursor.atWordStart, hlast], List.findSome?_cons, hword]
  simp only [Option.bind_some]
  rw [show offset + "module".length + 1 = offset + 6 + 1 from rfl, hname, hoffset]
  rfl

end

/-! ## The end of a module -/

section

variable {sort : List Char → Bool} {inside : List Char}

/-- Of the words that end a module the first one is found. -/
theorem search_endmodule (hnil : sort [] = false) (hsort : sort "endmodule".toList = true)
    (h : Without sort inside) (hne : inside ≠ []) (hhead : inside.head?.any isWord = false)
    (offset : Nat) (last : Option Char) (cs : List Char) :
    (⟨offset, last, inside ++ ("endmodule".toList ++ '\n' :: cs)⟩ : Cursor).search
        (fun d => (d.word? ["endmodule"]).map fun (_, next) => (d.offset, next)) =
      some (offset + inside.length, ⟨offset + inside.length + 9, some 'e', '\n' :: cs⟩) := by
  have hreserved : ∀ w ∈ ["endmodule"], isReserved w.toList = true :=
    isReserved_of_keywords (by decide)
  have hnone : ∀ d : Cursor, d.atWordOf sort = false →
      ((d.word? ["endmodule"]).map fun (_, next) => (d.offset, next)) = none := fun d hd => by
    rw [Cursor.not_word? hreserved (by simpa using hsort) hd]
    rfl
  have hword := Cursor.word?_here hreserved (List.mem_singleton.2 rfl) (h.last_or hne last)
    (show ('\n' :: cs).head?.any isWord = false from rfl) (offset + inside.length)
  rw [Cursor.search_without hnone hnil h _ fun _ => hhead]
  refine Cursor.search_here ?_
  rw [hword]
  rfl

/-- The text that ends at the word behind is the one in front of it. -/
theorem upTo_inside (offset : Nat) (last : Option Char) (cs : List Char) :
    (⟨offset, last, inside ++ cs⟩ : Cursor).upTo (offset + inside.length) = ⟨offset, last, inside⟩ := by
  unfold Cursor.upTo
  rw [Nat.add_sub_cancel_left, List.take_left]

end

/-! ## One module -/

/-- The scan of a module goes on in the line behind the word that ends it. -/
theorem scanFrom_module {sort : List Char → Bool} (hnil : sort [] = false)
    (hsort : sort "endmodule".toList = true) {name inside : List Char}
    (hstarts : name.head?.any isIdentStart = true) (hplain : ∀ x ∈ name, isPlain x = true)
    (hfree : isKeyword name = false) (h : Without sort inside) (hne : inside ≠ [])
    (hhead : inside.head?.any isIdentRest = false) (fuel offset : Nat) {last : Option Char}
    (hlast : last.any isWord = false) (cs : List Char) :
    let behind := inside ++ ("endmodule".toList ++ '\n' :: cs)
    let stop := offset + (name.length + 7) + inside.length
    scanFrom (fuel + 1) ⟨offset, last, "module".toList ++ ' ' :: (name ++ behind)⟩ =
      scanModule ⟨name, offset, ⟨offset + (name.length + 7), name.getLast?.or (some ' '), behind⟩⟩ stop ::
        scanFrom fuel ⟨stop + 10, some '\n', cs⟩ := by
  intro behind stop
  have hword : inside.head?.any isWord = false := by
    cases inside with
    | nil => rfl
    | cons x inside =>
      have hx : (isWord x || x == '$') = false := hhead
      exact (Bool.or_eq_false_iff.1 hx).1
  have hbehind : behind.head?.any isIdentRest = false := by
    obtain ⟨x, inside, rfl⟩ := List.exists_cons_of_ne_nil hne
    exact hhead
  have hstart := moduleHead?_named hstarts hplain hfree hbehind offset hlast
  have hend : (⟨offset + (name.length + 7), name.getLast?.or (some ' '), behind⟩ : Cursor).search
      (fun d => (d.word? ["endmodule"]).map fun (_, next) => (d.offset, next)) =
        some (stop, ⟨stop + 9, some 'e', '\n' :: cs⟩) :=
    search_endmodule hnil hsort h hne hword _ _ cs
  -- no word starts at the line break behind the module
  have hbreak : scanFrom fuel ⟨stop + 9, some 'e', '\n' :: cs⟩ =
      scanFrom fuel ⟨stop + 10, some '\n', cs⟩ := by
    cases fuel <;> rfl
  rw [scanFrom, Cursor.search_here hstart]
  simp only [hend, hbreak]

/-! ## Comments -/

/-- A character that neither begins a comment or a string literal nor is refused. -/
def isBare (x : Char) : Bool := x != '/' && x != '"' && x != Char.ofNat 0

theorem of_isBare {x : Char} (h : isBare x = true) : x ≠ '/' ∧ x ≠ '"' ∧ x ≠ Char.ofNat 0 := by
  simpa [isBare, and_assoc] using h

theorem isBare_of_isPlain {x : Char} (h : isPlain x = true) : isBare x = true := by
  have hne : ∀ y, isPlain y = false → x ≠ y := fun y hy he => by
    rw [he, hy] at h
    cases h
  simp [isBare, hne '/' (by decide), hne '"' (by decide), hne (Char.ofNat 0) (by decide)]

/-- A text that is scanned as it stands, whatever follows it: it has no comments and no NUL character. -/
structure Bare (a : List Char) : Prop where
  uncommented : ∀ cs, stripComments (a ++ cs) = a ++ stripComments cs
  noNull : Char.ofNat 0 ∉ a

namespace Bare

variable {a b : List Char}

theorem append (ha : Bare a) (hb : Bare b) : Bare (a ++ b) where
  uncommented cs := by
    rw [List.append_assoc, ha.uncommented, hb.uncommented, List.append_assoc]
  noNull h := (List.mem_append.1 h).elim ha.noNull hb.noNull

/-- A text without slashes and quotes has no comments. -/
theorem of_all (h : a.all isBare = true) : Bare a where
  uncommented cs := by
    induction a with
    | nil => rfl
    | cons x a ih =>
      rw [List.all_cons, Bool.and_eq_true] at h
      obtain ⟨hslash, hquote, -⟩ := of_isBare h.1
      have hrest := ih h.2
      unfold stripComments at hrest ⊢
      rw [List.cons_append, stripFrom, if_neg (by simpa using hquote), hrest, List.cons_append]
      · exact fun _ hx => absurd hx hslash
      · exact fun _ hx => absurd hx hslash
  noNull hx := (of_isBare (List.all_eq_true.1 h _ hx)).2.2 rfl

theorem flatMap {α : Type} {f : α → List Char} : ∀ {xs : List α}, (∀ x ∈ xs, Bare (f x)) →
    Bare (xs.flatMap f)
  | [], _ => of_all rfl
  | x :: xs, h => by
    rw [List.forall_mem_cons] at h
    rw [List.flatMap_cons]
    exact h.1.append (flatMap h.2)

/-- What is extracted from such a text is what the scan of the text itself finds. -/
theorem extract_eq (h : Bare a) (file : Path) : extract file a = .ok {
    file := file
    symbols := (scan a).flatMap fun m => m.marks.map (·.extracted a)
    modules := (scan a).map (·.definition file a)
    instances := (scan a).flatMap fun m => m.instances.map (·.inst file a) } := by
  have hstrip : stripComments a = a := by
    have huncommented := h.uncommented []
    rwa [List.append_nil, show stripComments [] = [] from rfl, List.append_nil] at huncommented
  rw [extract_eq_ok h.noNull, hstrip]

end Bare

end RtlAtlas.Source
