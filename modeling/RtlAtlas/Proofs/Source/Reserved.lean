/-
Reserved words. But for instances, whatever a scan looks for begins with a reserved word, and a search
for some of these words passes over a text that has none of them.
-/
import RtlAtlas.Proofs.Source.Cursor
import RtlAtlas.Proofs.Text.Token

namespace RtlAtlas.Source

open RtlAtlas.Text

/-- A character of a plain word: an ASCII letter, an ASCII digit or the underscore. -/
def isPlain (x : Char) : Bool := isLetter x || ('0' ≤ x && x ≤ '9') || x == '_'

/-- The words that a scan looks for, and those that name nothing. -/
def isReserved (word : List Char) : Bool := isKeyword word || word == "macromodule".toList

/-! ## Characters -/

theorem toNat_of_isPlain {x : Char} (h : isPlain x = true) : 0x30 ≤ x.toNat ∧ x.toNat < 0x80 := by
  simp only [isPlain, isLetter, Bool.or_eq_true, Bool.and_eq_true, decide_eq_true_eq, beq_iff_eq,
    Char.le_def] at h
  rcases h with ((⟨h, h'⟩ | ⟨h, h'⟩) | ⟨h, h'⟩) | rfl
  · exact ⟨Nat.le_trans (by decide) h, Nat.lt_of_le_of_lt h' (by decide)⟩
  · exact ⟨Nat.le_trans (by decide) h, Nat.lt_of_le_of_lt h' (by decide)⟩
  · exact ⟨h, Nat.lt_of_le_of_lt h' (by decide)⟩
  · decide

theorem isWord_of_isPlain {x : Char} (h : isPlain x = true) : isWord x = true := by
  unfold isWord
  rw [if_pos (toNat_of_isPlain h).2]
  exact h

theorem isPlain_eq_false {x : Char} (h : isWord x = false) : isPlain x = false := by
  cases hp : isPlain x with
  | false => rfl
  | true => rw [isWord_of_isPlain hp] at h; cases h

theorem isIdentRest_of_isPlain {x : Char} (h : isPlain x = true) : isIdentRest x = true := by
  rw [isIdentRest, isWord_of_isPlain h, Bool.true_or]

theorem isBlank_of_isPlain {x : Char} (h : isPlain x = true) : isBlank x = false := by
  obtain ⟨hlow, hhigh⟩ := toNat_of_isPlain h
  simp only [isBlank, blankRanges, inRanges, List.any_cons, List.any_nil, Bool.or_eq_false_iff]
  simp
  omega

/-- Reserved words are plain. -/
theorem plain_of_isReserved {word : List Char} (h : isReserved word = true) :
    ∀ x ∈ word, isPlain x = true := by
  have hkeywords : ∀ w ∈ keywords, w.toList.all isPlain = true := by decide +kernel
  rw [isReserved, Bool.or_eq_true] at h
  rcases h with h | h
  · have := hkeywords _ (List.contains_iff_mem.1 h)
    rw [String.toList_ofList] at this
    exact List.all_eq_true.1 this
  · rw [beq_iff_eq.1 h]
    exact List.all_eq_true.1 (by decide)

theorem isReserved_nil : isReserved [] = false := by decide

theorem isKeyword_toList {w : String} (h : w ∈ keywords) : isKeyword w.toList = true := by
  rw [isKeyword, String.ofList_toList]
  exact List.contains_iff_mem.2 h

theorem isReserved_of_keywords {words : List String} (h : ∀ w ∈ words, w ∈ keywords) :
    ∀ w ∈ words, isReserved w.toList = true := fun w hw => by
  rw [isReserved, isKeyword_toList (h w hw), Bool.true_or]

/-! ## Places where a reserved word stands -/

section

variable {c d : Cursor} {word : String} {words : List String}

theorem Cursor.takeWhile_of_afterWord? (hword : isReserved word.toList = true)
    (h : c.afterWord? word = some d) : c.rest.takeWhile isPlain = word.toList := by
  unfold afterWord? at h
  split at h
  · cases h
  · rename_i rest hrest
    split at h
    · cases h
    · rename_i hnext
      rw [dropLead?_eq_some.1 hrest]
      refine takeWhile_run (plain_of_isReserved hword) ?_
      cases rest with
      | nil => rfl
      | cons x rest => exact isPlain_eq_false (by simpa using hnext)

/-- What stands before white space is the word that was read. -/
theorem takeWhile_of_afterWordAndBlank? (hword : isReserved word.toList = true)
    (h : afterWordAndBlank? word c = some d) : c.rest.takeWhile isPlain = word.toList := by
  unfold afterWordAndBlank? at h
  split at h
  · cases h
  · rename_i rest hrest
    have hsplit := dropLead?_eq_some.1 hrest
    simp only at h
    split at h
    · rename_i hlt
      have hgap : (c.advance word.length).rest = rest := by
        rw [Cursor.rest_advance, hsplit, ← String.length_toList, List.drop_left]
      rw [hsplit]
      refine takeWhile_run (plain_of_isReserved hword) ?_
      cases rest with
      | nil => rfl
      | cons x rest =>
        cases hx : isPlain x with
        | false => exact hx
        | true =>
          rw [Cursor.skipBlank_of_head (by rw [hgap]; exact isBlank_of_isPlain hx)] at hlt
          exact absurd hlt (Nat.lt_irrefl _)
    · cases h

theorem Cursor.of_word? {w : String} (hwords : ∀ w ∈ words, isReserved w.toList = true)
    (h : c.word? words = some (w, d)) :
    w ∈ words ∧ c.atWordStart = true ∧ c.rest.takeWhile isPlain = w.toList := by
  unfold word? at h
  split at h
  · rename_i hstart
    obtain ⟨w', hmem, hw⟩ := List.exists_of_findSome?_eq_some h
    obtain ⟨d', hd, he⟩ := Option.map_eq_some_iff.1 hw
    cases he
    exact ⟨hmem, hstart, takeWhile_of_afterWord? (hwords w hmem) hd⟩
  · cases h

theorem Cursor.afterWord?_eq_some {rest : List Char} (hrest : c.rest = word.toList ++ rest)
    (hnext : rest.head?.any isWord = false) : c.afterWord? word = some (c.advance word.length) := by
  unfold afterWord?
  rw [dropLead?_eq_some.2 hrest]
  simp [hnext]

/-- The reserved word that stands here is found when it is looked for. -/
theorem Cursor.word?_eq_some {rest : List Char} (hwords : ∀ w ∈ words, isReserved w.toList = true)
    (hmem : word ∈ words) (hstart : c.atWordStart = true) (hrest : c.rest = word.toList ++ rest)
    (hnext : rest.head?.any isWord = false) : c.word? words = some (word, c.advance word.length) := by
  have hafter := afterWord?_eq_some hrest hnext
  unfold word?
  rw [if_pos hstart]
  cases hf : words.findSome? fun w => (c.afterWord? w).map (w, ·) with
  | none =>
    have := List.findSome?_eq_none_iff.1 hf word hmem
    rw [hafter] at this
    cases this
  | some found =>
    obtain ⟨w, hw, hfound⟩ := List.exists_of_findSome?_eq_some hf
    obtain ⟨d, hd, rfl⟩ := Option.map_eq_some_iff.1 hfound
    -- both words are the one that stands here
    have hsame : w = word := String.toList_injective
      ((takeWhile_of_afterWord? (hwords w hw) hd).symm.trans
        (takeWhile_of_afterWord? (hwords word hmem) hafter))
    subst hsame
    rw [hafter] at hd
    cases hd
    rfl

/-- The place behind the reserved word is where the text goes on. -/
theorem Cursor.word?_here (hwords : ∀ w ∈ words, isReserved w.toList = true) (hmem : word ∈ words)
    {last : Option Char} (hlast : last.any isWord = false) {cs : List Char}
    (hcs : cs.head?.any isWord = false) (offset : Nat) :
    (⟨offset, last, word.toList ++ cs⟩ : Cursor).word? words =
      some (word, ⟨offset + word.length, word.toList.getLast?.or last, cs⟩) := by
  have hstart : (⟨offset, last, word.toList ++ cs⟩ : Cursor).atWordStart = true := by
    simp [atWordStart, hlast]
  rw [word?_eq_some hwords hmem hstart rfl hcs, ← String.length_toList, advance_append]

end

/-! ## Readers that begin with a reserved word -/

section

variable {sort : List Char → Bool} {c : Cursor} {words : List String}

/-- Whether a word of a sort stands here. -/
def Cursor.atWordOf (sort : List Char → Bool) (c : Cursor) : Bool :=
  c.atWordStart && sort (c.rest.takeWhile isPlain)

theorem Cursor.not_word? (hwords : ∀ w ∈ words, isReserved w.toList = true)
    (hsort : ∀ w ∈ words, sort w.toList = true) (h : c.atWordOf sort = false) :
    c.word? words = none := by
  cases hw : c.word? words with
  | none => rfl
  | some found =>
    obtain ⟨hmem, hstart, htake⟩ := of_word? hwords hw
    rw [atWordOf, hstart, htake, hsort _ hmem] at h
    cases h

theorem not_statement? (hwords : ∀ w ∈ words, isReserved w.toList = true)
    (hsort : ∀ w ∈ words, sort w.toList = true) (h : c.atWordOf sort = false) :
    statement? words c = none := by
  unfold statement?
  rw [Cursor.not_word? hwords hsort h]

theorem not_lineStatement? (hwords : ∀ w ∈ words, isReserved w.toList = true)
    (h : (skipIndent c).atWordOf isReserved = false) : lineStatement? words c = none := by
  unfold lineStatement?
  rw [not_statement? hwords hwords h]
  simp

theorem not_routine? (hsort : ∀ w ∈ ["function", "task"], sort w.toList = true)
    (h : c.atWordOf sort = false) : routine? c = none := by
  unfold routine?
  rw [Cursor.not_word? (isReserved_of_keywords (by decide)) hsort h]

/-- Where no word of a sort stands, none with white space behind it is read. -/
theorem not_afterWordAndBlank? (hwords : ∀ w ∈ words, isReserved w.toList = true)
    (hsort : ∀ w ∈ words, sort w.toList = true) (h : sort (c.rest.takeWhile isPlain) = false) :
    words.findSome? (afterWordAndBlank? · c) = none := by
  rw [List.findSome?_eq_none_iff]
  intro w hw
  cases ha : afterWordAndBlank? w c with
  | none => rfl
  | some d =>
    rw [takeWhile_of_afterWordAndBlank? (hwords w hw) ha, hsort w hw] at h
    cases h

/-- A word that is no keyword starts no declaration of a port. -/
theorem direction?_plain {w : List Char} (hplain : ∀ x ∈ w, isPlain x = true)
    (hfree : isKeyword w = false) : direction? w = none := by
  have hrun : (Cursor.start w).rest.takeWhile isPlain = w := by
    have h := takeWhile_run (b := []) hplain rfl
    rwa [List.append_nil] at h
  have hclear : (Cursor.start w).atWordOf isKeyword = false := by
    rw [Cursor.atWordOf, hrun, hfree, Bool.and_false]
  have hkeywords : ∀ w ∈ ["input", "output", "inout"], w ∈ keywords := by decide
  have hword : (Cursor.start w).word? ["input", "output", "inout"] = none :=
    Cursor.not_word? (isReserved_of_keywords hkeywords) (fun w hw => isKeyword_toList (hkeywords w hw))
      hclear
  unfold direction?
  rw [hword]

theorem not_moduleHead? (h : c.atWordOf isReserved = false) : moduleHead? c = none := by
  unfold moduleHead?
  split
  · rfl
  · rename_i hstart
    have hfree : isReserved (c.rest.takeWhile isPlain) = false := by
      rw [Cursor.atWordOf] at h
      simp_all
    have hreserved : ∀ w ∈ ["module", "macromodule"], isReserved w.toList = true := by decide
    rw [not_afterWordAndBlank? hreserved hreserved hfree]
    rfl

end

/-! ## Texts without words of a sort -/

/-- A text that is made of words that are not of a sort, each with a character behind it that ends it,
and of characters outside of words. -/
inductive Without (sort : List Char → Bool) : List Char → Prop
  | nil : Without sort []
  | mark {x : Char} {cs : List Char} : isWord x = false → Without sort cs → Without sort (x :: cs)
  | word {w : List Char} {x : Char} {cs : List Char} : (∀ y ∈ w, isPlain y = true) →
      sort w = false → isWord x = false → Without sort (x :: cs) → Without sort (w ++ x :: cs)

variable {sort : List Char → Bool}

theorem Without.append {a b : List Char} (ha : Without sort a) (hb : Without sort b) :
    Without sort (a ++ b) := by
  induction ha with
  | nil => exact hb
  | mark hx _ ih => exact .mark hx ih
  | word hplain hsort hx _ ih =>
    rw [List.append_assoc]
    exact .word hplain hsort hx ih

theorem Without.mono {sort' : List Char → Bool} (hle : ∀ w, sort w = false → sort' w = false) {a : List Char}
    (h : Without sort a) : Without sort' a := by
  induction h with
  | nil => exact .nil
  | mark hx _ ih => exact .mark hx ih
  | word hplain hsort hx _ ih => exact .word hplain (hle _ hsort) hx ih

theorem Without.flatMap {α : Type} {f : α → List Char} : ∀ {xs : List α},
    (∀ x ∈ xs, Without sort (f x)) → Without sort (xs.flatMap f)
  | [], _ => .nil
  | x :: _, h => by
    rw [List.flatMap_cons]
    exact (h x (List.mem_cons_self ..)).append (flatMap fun y hy => h y (List.mem_cons_of_mem _ hy))

/-- Whether a text is without words of a sort, when the start of a word has been read. -/
def withoutFrom (sort : List Char → Bool) : List Char → List Char → Bool
  | front, [] => front.isEmpty
  | front, x :: cs =>
    if isPlain x then withoutFrom sort (front ++ [x]) cs
    else !isWord x && (front.isEmpty || !sort front) && withoutFrom sort [] cs

theorem Without.of_withoutFrom : ∀ {cs front : List Char}, (∀ y ∈ front, isPlain y = true) →
    withoutFrom sort front cs = true → Without sort (front ++ cs)
  | [], front, _, h => by
    obtain rfl := List.isEmpty_iff.1 h
    exact .nil
  | x :: cs, front, hplain, h => by
    unfold withoutFrom at h
    split at h
    · rename_i hx
      have hlonger : ∀ y ∈ front ++ [x], isPlain y = true := by
        intro y hy
        rcases List.mem_append.1 hy with hy | hy
        · exact hplain y hy
        · rwa [List.mem_singleton.1 hy]
      have hrest := of_withoutFrom hlonger h
      rwa [List.append_assoc] at hrest
    · simp only [Bool.and_eq_true, Bool.or_eq_true, Bool.not_eq_true', List.isEmpty_iff] at h
      obtain ⟨⟨hx, hfront⟩, hcs⟩ := h
      have hrest : Without sort cs := of_withoutFrom (List.forall_mem_nil _) hcs
      rcases hfront with rfl | hfront
      · exact .mark hx hrest
      · exact .word hplain hfront hx (.mark hx hrest)

theorem withoutFrom_append (cs : List Char) : ∀ {w front : List Char}, (∀ y ∈ w, isPlain y = true) →
    withoutFrom sort front (w ++ cs) = withoutFrom sort (front ++ w) cs
  | [], front, _ => by rw [List.append_nil, List.nil_append]
  | x :: w, front, h => by
    rw [List.forall_mem_cons] at h
    rw [List.cons_append, withoutFrom, if_pos h.1, withoutFrom_append cs h.2, List.append_assoc]
    rfl

theorem Without.withoutFrom_eq {a : List Char} (h : Without sort a) : withoutFrom sort [] a = true := by
  induction h with
  | nil => rfl
  | mark hx _ ih => simp [withoutFrom, isPlain_eq_false hx, hx, ih]
  | @word w x cs hplain hsort hx _ ih =>
    rw [withoutFrom_append _ hplain]
    simp only [withoutFrom, isPlain_eq_false hx, Bool.false_eq_true, if_false, hx, Bool.not_false,
      Bool.true_and, List.isEmpty_nil, Bool.true_or] at ih ⊢
    simp [hsort, ih]

instance (a : List Char) : Decidable (Without sort a) :=
  decidable_of_iff (withoutFrom sort [] a = true)
    ⟨Without.of_withoutFrom (List.forall_mem_nil _), Without.withoutFrom_eq⟩

/-- A text without words of a sort does not end inside of a word. -/
theorem Without.getLast? {a : List Char} (h : Without sort a) : a.getLast?.any isWord = false := by
  induction h with
  | nil => rfl
  | @mark x cs hx _ ih =>
    rw [List.getLast?_cons]
    cases hcs : cs.getLast? with
    | none => exact hx
    | some y => rwa [hcs] at ih
  | @word w x cs _ _ _ _ ih =>
    rw [List.getLast?_append]
    cases hcs : (x :: cs).getLast? with
    | none => simp at hcs
    | some y => rwa [hcs] at ih

/-- Behind such a text a word may start. -/
theorem Without.last_or {a : List Char} (h : Without sort a) (hne : a ≠ []) (last : Option Char) :
    (a.getLast?.or last).any isWord = false := by
  obtain ⟨x, hx⟩ := Option.ne_none_iff_exists'.1 (mt List.getLast?_eq_none_iff.1 hne)
  have hend := h.getLast?
  rwa [hx] at hend ⊢

namespace Cursor

theorem not_atWordOf_mark (hnil : sort [] = false) {offset : Nat} {last : Option Char} {x : Char}
    {cs : List Char} (hx : isWord x = false) :
    (⟨offset, last, x :: cs⟩ : Cursor).atWordOf sort = false := by
  rw [atWordOf, List.takeWhile_cons_of_neg (by simp [isPlain_eq_false hx]), hnil, Bool.and_false]

/-- No word stands inside of a word: it would start there. -/
theorem not_atWordOf_inside {offset : Nat} {last : Char} {cs : List Char}
    (hlast : isPlain last = true) : (⟨offset, some last, cs⟩ : Cursor).atWordOf sort = false := by
  have hstart : (⟨offset, some last, cs⟩ : Cursor).atWordStart = false := by
    simp [atWordStart, isWord_of_isPlain hlast]
  rw [atWordOf, hstart, Bool.false_and]

theorem not_atWordOf_word {w : List Char} (hplain : ∀ y ∈ w, isPlain y = true)
    (hsort : sort w = false) {offset : Nat} {last : Option Char} {cs : List Char}
    (hcs : cs.head?.any isPlain = false) {n : Nat} (hn : n < w.length) :
    ((⟨offset, last, w ++ cs⟩ : Cursor).advance n).atWordOf sort = false := by
  cases n with
  | zero => rw [advance_zero, atWordOf, takeWhile_run hplain hcs, hsort, Bool.and_false]
  | succ n =>
    have hlength : (w.take (n + 1)).length = n + 1 := by
      rw [List.length_take]
      omega
    have hne : w.take (n + 1) ≠ [] := fun hnil => by
      rw [hnil] at hlength
      cases hlength
    have hlast := hplain _ (List.mem_of_mem_take (List.getLast_mem hne))
    have hadvance := advance_append (w.take (n + 1)) (w.drop (n + 1) ++ cs) offset last
    rw [hlength, ← List.append_assoc, List.take_append_drop,
      List.getLast?_eq_some_getLast hne] at hadvance
    rw [hadvance]
    exact not_atWordOf_inside hlast

/-- In a text without words of a sort none stands anywhere, whatever follows the text. -/
theorem not_atWordOf (hnil : sort [] = false) {a : List Char} (h : Without sort a)
    (rest : List Char) {offset : Nat} {last : Option Char}
    (hlast : last.any isWord = true → a.head?.any isWord = false) {n : Nat} (hn : n < a.length) :
    ((⟨offset, last, a ++ rest⟩ : Cursor).advance n).atWordOf sort = false := by
  induction h generalizing offset last n with
  | nil => cases hn
  | @mark x cs hx _ ih =>
    cases n with
    | zero => exact not_atWordOf_mark hnil hx
    | succ n => exact ih (by simp [hx]) (Nat.lt_of_succ_lt_succ hn)
  | @word w x cs hplain hsort hx _ ih =>
    rw [List.append_assoc]
    -- the place is in the word, or at or behind the character that ends it
    rcases Nat.lt_or_ge n w.length with hlt | hge
    · exact not_atWordOf_word hplain hsort (by simpa using isPlain_eq_false hx) hlt
    · obtain ⟨m, rfl⟩ := Nat.exists_eq_add_of_le hge
      rw [← advance_advance, advance_append]
      rw [List.length_append] at hn
      exact ih (fun _ => by simpa using hx) (by omega)

theorem not_atWordOf_of_reaches (hnil : sort [] = false) {a : List Char} (h : Without sort a)
    {offset : Nat} {last : Option Char} (hlast : last.any isWord = true → a.head?.any isWord = false)
    {d : Cursor} (hd : (⟨offset, last, a⟩ : Cursor).Reaches d) : d.atWordOf sort = false := by
  obtain ⟨n, rfl⟩ := hd
  rcases Nat.lt_or_ge n a.length with hlt | hge
  · have hnone : ((⟨offset, last, a ++ []⟩ : Cursor).advance n).atWordOf sort = false :=
      not_atWordOf hnil h [] hlast hlt
    rwa [List.append_nil] at hnone
  · rw [atWordOf, rest_advance, List.drop_eq_nil_of_le hge, List.takeWhile_nil, hnil, Bool.and_false]

/-- A search for a word of a sort goes on behind a text that has none. -/
theorem search_without {α : Type} {pattern : Cursor → Option α}
    (hpattern : ∀ c, c.atWordOf sort = false → pattern c = none) (hnil : sort [] = false)
    {a : List Char} (h : Without sort a) (rest : List Char) {offset : Nat} {last : Option Char}
    (hlast : last.any isWord = true → a.head?.any isWord = false) :
    (⟨offset, last, a ++ rest⟩ : Cursor).search pattern =
      (⟨offset + a.length, a.getLast?.or last, rest⟩ : Cursor).search pattern := by
  rw [search_advance (n := a.length) (by simp)
      fun m hm => hpattern _ (not_atWordOf hnil h rest hlast hm), advance_append]

end Cursor

end RtlAtlas.Source
