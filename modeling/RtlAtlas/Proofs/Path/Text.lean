/-
Paths and their texts. A path whose components are such as a text can write (`Proper`) is read back
from its text, so different proper paths have different texts. A resolved path (`Resolved`) is one
that leads from the root to a place without `..`; resolving gives such a path and changes it no more.
-/
import RtlAtlas.FileTree

namespace RtlAtlas

/-! ## Splitting at a character and joining -/

namespace Text

theorem splitAt_of_notMem {sep : Char} : ∀ {cs : List Char}, sep ∉ cs → splitAt sep cs = [cs]
  | [], _ => rfl
  | c :: cs, h => by
    rw [List.mem_cons, not_or] at h
    rw [splitAt, if_neg (by simpa using fun e : c = sep => h.1 e.symm), splitAt_of_notMem h.2]

theorem splitAt_append {sep : Char} {rest : List Char} : ∀ {cs : List Char}, sep ∉ cs →
    splitAt sep (cs ++ sep :: rest) = cs :: splitAt sep rest
  | [], _ => by rw [List.nil_append, splitAt, if_pos (by simp)]
  | c :: cs, h => by
    rw [List.mem_cons, not_or] at h
    rw [List.cons_append, splitAt, if_neg (by simpa using fun e : c = sep => h.1 e.symm),
      splitAt_append h.2]

/-- Splitting undoes joining. -/
theorem splitAt_intercalate {sep : Char} : ∀ {ps : List (List Char)}, ps ≠ [] →
    (∀ p ∈ ps, sep ∉ p) → splitAt sep ([sep].intercalate ps) = ps
  | [p], _, h => by simp [splitAt_of_notMem (h p (by simp))]
  | p :: q :: ps, _, h => by
    rw [List.intercalate_cons_cons, List.append_assoc, List.singleton_append,
      splitAt_append (h p (by simp)),
      splitAt_intercalate (by simp) fun r hr => h r (List.mem_cons_of_mem _ hr)]

theorem notMem_of_mem_splitAt {sep : Char} : ∀ {cs p : List Char}, p ∈ splitAt sep cs → sep ∉ p
  | [], p, h => by rw [splitAt, List.mem_singleton] at h; simp [h]
  | c :: cs, p, h => by
    unfold splitAt at h
    split at h
    · rcases List.mem_cons.1 h with rfl | h
      · simp
      · exact notMem_of_mem_splitAt h
    · rename_i hc
      have hne : ¬sep = c := fun e => hc (by simp [e])
      cases hs : splitAt sep cs with
      | nil => rw [hs, List.mem_singleton] at h; simp [h, hne]
      | cons q qs =>
        rw [hs] at h
        rcases List.mem_cons.1 h with rfl | h
        · have := notMem_of_mem_splitAt (hs ▸ List.mem_cons_self : q ∈ splitAt sep cs)
          simp [hne, this]
        · exact notMem_of_mem_splitAt (hs ▸ List.mem_cons_of_mem _ h : p ∈ splitAt sep cs)

/-- The parts of a text hold nothing that the text does not hold. -/
theorem mem_of_mem_splitAt {α : Type} [BEq α] {sep x : α} : ∀ {cs p : List α}, p ∈ splitAt sep cs → x ∈ p →
    x ∈ cs
  | [], p, h, hx => by
    rw [splitAt, List.mem_singleton] at h
    rwa [h] at hx
  | c :: cs, p, h, hx => by
    have hrest : ∀ {q : List α}, q ∈ splitAt sep cs → x ∈ q → x ∈ c :: cs := fun hq hx =>
      List.mem_cons_of_mem _ (mem_of_mem_splitAt hq hx)
    unfold splitAt at h
    split at h
    · rcases List.mem_cons.1 h with rfl | h
      · cases hx
      · exact hrest h hx
    · split at h
      · rw [List.mem_singleton] at h
        rw [h, List.mem_singleton] at hx
        exact hx ▸ List.mem_cons_self
      · rename_i q qs hs
        rcases List.mem_cons.1 h with rfl | h
        · rcases List.mem_cons.1 hx with rfl | hx
          · exact List.mem_cons_self
          · exact hrest (hs ▸ List.mem_cons_self) hx
        · exact hrest (hs ▸ List.mem_cons_of_mem _ h) hx

/-- What holds of the parts of a text and of what stands between them holds of the text. -/
theorem of_intercalate {P : List Char → Prop} (hnil : P []) (happend : ∀ a b, P a → P b → P (a ++ b))
    {sep : List Char} (hsep : P sep) : ∀ {ts : List (List Char)}, (∀ t ∈ ts, P t) →
    P (sep.intercalate ts)
  | [], _ => hnil
  | [t], h => by
    rw [List.intercalate_singleton]
    exact h t (List.mem_cons_self ..)
  | t :: u :: ts, h => by
    have hrest : P (sep.intercalate (u :: ts)) :=
      of_intercalate hnil happend hsep fun v hv => h v (List.mem_cons_of_mem _ hv)
    rw [List.intercalate_cons_cons]
    exact happend _ _ (happend _ _ (h t (List.mem_cons_self ..)) hsep) hrest

end Text

namespace Path

/-! ## Proper paths -/

/-- A component as a text writes it: not empty, no single dot, no slash in it. -/
structure IsPart (part : String) : Prop where
  nonempty : part ≠ ""
  noDot : part ≠ "."
  noSlash : '/' ∉ part.toList

instance (part : String) : Decidable (IsPart part) :=
  decidable_of_iff (part ≠ "" ∧ part ≠ "." ∧ '/' ∉ part.toList)
    ⟨fun ⟨he, hd, hs⟩ => ⟨he, hd, hs⟩, fun ⟨he, hd, hs⟩ => ⟨he, hd, hs⟩⟩

/-- A path that some text writes. -/
def Proper (p : Path) : Prop := ∀ part ∈ p.parts, IsPart part

instance (p : Path) : Decidable p.Proper := inferInstanceAs (Decidable (∀ part ∈ p.parts, IsPart part))

theorem proper_ofString (s : String) : (ofString s).Proper := by
  intro part hp
  obtain ⟨hs, hne⟩ := List.mem_filter.1 hp
  obtain ⟨cs, hcs, rfl⟩ := List.mem_map.1 hs
  simp only [Bool.and_eq_true, bne_iff_ne] at hne
  exact ⟨hne.1, hne.2, by rw [String.toList_ofList]; exact Text.notMem_of_mem_splitAt hcs⟩

/-- A text without NUL writes a path without NUL. -/
theorem hasNull_ofString {s : String} (h : Char.ofNat 0 ∉ s.toList) : (ofString s).hasNull = false := by
  refine List.any_eq_false.2 fun part hpart => ?_
  obtain ⟨cs, hcs, rfl⟩ := List.mem_map.1 (List.mem_filter.1 hpart).1
  rw [String.toList_ofList, List.contains_iff_mem]
  exact fun hc => h (Text.mem_of_mem_splitAt hcs hc)

theorem Proper.parent {p : Path} (h : p.Proper) : p.parent.Proper :=
  fun part hp => h part (List.dropLast_subset _ hp)

/-- The characters between the slashes are the components, when there are any. -/
theorem splitAt_joined {parts : List String} (hne : parts ≠ []) (h : ∀ part ∈ parts, IsPart part) :
    (Text.splitAt '/' ("/".intercalate parts).toList).map String.ofList = parts := by
  have hcs : ∀ p ∈ parts.map String.toList, '/' ∉ p := by
    intro p hp
    obtain ⟨part, hpart, rfl⟩ := List.mem_map.1 hp
    exact (h part hpart).noSlash
  have hmap : parts.map String.toList ≠ [] := by simpa using hne
  rw [String.toList_intercalate, show "/".toList = ['/'] from rfl, Text.splitAt_intercalate hmap hcs,
    List.map_map]
  exact List.map_id'' (fun _ => String.ofList_toList) parts

theorem filter_parts {parts : List String} (h : ∀ part ∈ parts, IsPart part) :
    (parts.filter fun p => p != "" && p != ".") = parts :=
  List.filter_eq_self.2 fun part hp => by simp [(h part hp).nonempty, (h part hp).noDot]

theorem partsOf_joined {parts : List String} (h : ∀ part ∈ parts, IsPart part) :
    partsOf ("/".intercalate parts).toList = parts := by
  unfold partsOf
  by_cases hne : parts = []
  · subst hne; rfl
  · rw [splitAt_joined hne h, filter_parts h]

theorem partsOf_slash (cs : List Char) : partsOf ('/' :: cs) = partsOf cs := by
  simp [partsOf, Text.splitAt]

/-- The joined components do not start with a slash. -/
theorem head?_joined_ne {parts : List String} (h : ∀ part ∈ parts, IsPart part) :
    ("/".intercalate parts).toList.head? ≠ some '/' := by
  cases parts with
  | nil => simp
  | cons part rest =>
    have hp := h part (by simp)
    have hcs : part.toList ≠ [] := fun e => hp.nonempty (String.toList_eq_nil_iff.1 e)
    have hhead : part.toList.head? ≠ some '/' := fun e => hp.noSlash (List.mem_of_head? e)
    obtain ⟨c, cs, hc⟩ := List.exists_cons_of_ne_nil hcs
    rw [hc] at hhead
    cases rest with
    | nil => simpa [hc] using hhead
    | cons q qs => simpa [String.intercalate_cons_cons, hc] using hhead

theorem anchorOf_slash {cs : List Char} (h : cs.head? ≠ some '/') : anchorOf ('/' :: cs) = .root := by
  unfold anchorOf
  split
  · rfl
  · rename_i heq
    rw [List.cons.injEq] at heq
    exact absurd (by rw [heq.2]; rfl) h
  · rfl
  · rename_i hno; exact absurd rfl (hno cs)

theorem anchorOf_slashes {cs : List Char} (h : cs.head? ≠ some '/') :
    anchorOf ('/' :: '/' :: cs) = .doubleRoot := by
  unfold anchorOf
  split
  · rename_i heq
    rw [List.cons.injEq, List.cons.injEq] at heq
    exact absurd (by rw [heq.2.2]; rfl) h
  · rfl
  · rename_i _ hno heq
    rw [List.cons.injEq] at heq
    exact absurd heq.2.symm (hno cs)
  · rename_i hno; exact absurd rfl (hno _)

theorem anchorOf_other {cs : List Char} (h : cs.head? ≠ some '/') : anchorOf cs = .relative := by
  unfold anchorOf
  split
  · exact absurd rfl h
  · exact absurd rfl h
  · exact absurd rfl h
  · rfl

theorem text_relative {parts : List String} (hne : parts ≠ []) :
    (⟨.relative, parts⟩ : Path).text = "/".intercalate parts := by
  simp [text, hne, anchorText]

theorem text_root (parts : List String) :
    (⟨.root, parts⟩ : Path).text.toList = '/' :: ("/".intercalate parts).toList := by
  simp [text, anchorText]

theorem text_doubleRoot (parts : List String) :
    (⟨.doubleRoot, parts⟩ : Path).text.toList = '/' :: '/' :: ("/".intercalate parts).toList := by
  simp [text, anchorText]

/-- A proper path is read back from its text. -/
theorem ofString_text {p : Path} (h : p.Proper) : ofString p.text = p := by
  obtain ⟨anchor, parts⟩ := p
  have hhead := head?_joined_ne h
  unfold ofString
  cases anchor with
  | relative =>
    by_cases hne : parts = []
    · subst hne; rfl
    · rw [text_relative hne, anchorOf_other hhead, partsOf_joined h]
  | root => rw [text_root, anchorOf_slash hhead, partsOf_slash, partsOf_joined h]
  | doubleRoot =>
    rw [text_doubleRoot, anchorOf_slashes hhead, partsOf_slash, partsOf_slash, partsOf_joined h]

theorem text_injective {p q : Path} (hp : p.Proper) (hq : q.Proper) (h : p.text = q.text) : p = q := by
  rw [← ofString_text hp, ← ofString_text hq, h]

/-! ## Resolved paths -/

/-- A path from the root to a place, without `..` and without a NUL character. -/
structure Resolved (p : Path) : Prop where
  anchor : p.anchor = .root
  proper : p.Proper
  plain : ".." ∉ p.parts
  clean : p.hasNull = false

instance (p : Path) : Decidable p.Resolved :=
  decidable_of_iff (p.anchor = .root ∧ p.Proper ∧ ".." ∉ p.parts ∧ p.hasNull = false)
    ⟨fun ⟨ha, hp, hd, hn⟩ => ⟨ha, hp, hd, hn⟩, fun ⟨ha, hp, hd, hn⟩ => ⟨ha, hp, hd, hn⟩⟩

theorem Resolved.isAbsolute {p : Path} (h : p.Resolved) : p.isAbsolute = true := by
  simp [Path.isAbsolute, h.anchor]

/-- No NUL character stands in the text of a resolved path. -/
theorem Resolved.null_notMem {p : Path} (h : p.Resolved) : Char.ofNat 0 ∉ p.text.toList := by
  have hparts : ∀ cs ∈ p.parts.map String.toList, Char.ofNat 0 ∉ cs := by
    intro cs hcs
    obtain ⟨part, hpart, rfl⟩ := List.mem_map.1 hcs
    have := List.any_eq_false.1 h.clean part hpart
    simpa using this
  have hjoined : Char.ofNat 0 ∉ ['/'].intercalate (p.parts.map String.toList) :=
    Text.of_intercalate (P := fun cs => Char.ofNat 0 ∉ cs) (by simp)
      (fun _ _ ha hb hc => (List.mem_append.1 hc).elim ha hb) (by decide) hparts
  obtain ⟨anchor, parts⟩ := p
  obtain rfl : anchor = .root := h.anchor
  rw [text_root, String.toList_intercalate, List.mem_cons, not_or]
  exact ⟨by decide, hjoined⟩

theorem fold_eq_self : ∀ {parts done : List String}, ".." ∉ parts →
    parts.foldl (fun done part => if part == ".." then done.dropLast else done ++ [part]) done =
      done ++ parts
  | [], done, _ => by simp
  | part :: parts, done, h => by
    rw [List.mem_cons, not_or] at h
    rw [List.foldl_cons, if_neg (by simpa using fun e : part = ".." => h.1 e.symm), fold_eq_self h.2,
      List.append_assoc, List.singleton_append]

theorem mem_of_mem_fold : ∀ {parts done : List String} {x : String},
    x ∈ parts.foldl (fun done part => if part == ".." then done.dropLast else done ++ [part]) done →
      x ∈ done ∨ x ∈ parts ∧ x ≠ ".."
  | [], _, _, h => Or.inl h
  | part :: parts, done, x, h => by
    rw [List.foldl_cons] at h
    rcases mem_of_mem_fold h with h | ⟨h, hne⟩
    · split at h
      · -- going up only takes components away
        exact Or.inl (List.dropLast_subset _ h)
      · rename_i hp
        rcases List.mem_append.1 h with h | h
        · exact Or.inl h
        · rw [List.mem_singleton] at h
          subst h
          exact Or.inr ⟨List.mem_cons_self, by simpa using hp⟩
    · exact Or.inr ⟨List.mem_cons_of_mem _ h, hne⟩

theorem mem_fold {parts : List String} {x : String} (h : x ∈ fold parts) : x ∈ parts ∧ x ≠ ".." :=
  (mem_of_mem_fold h).resolve_left (by simp)

end Path

namespace FileTree

open RtlAtlas.Path

theorem plain_of_resolved {p : Path} (h : p.Resolved) : plain p = p := by
  obtain ⟨anchor, parts⟩ := p
  obtain rfl : anchor = .root := h.anchor
  show (⟨.root, fold parts⟩ : Path) = _
  unfold fold
  rw [fold_eq_self h.plain, List.nil_append]

/-- What a path means as a place, when there is one: the path without `..`. -/
theorem placeOf_eq_ok {p place : Path} : placeOf p = .ok place ↔ p.hasNull = false ∧ place = plain p := by
  unfold placeOf
  cases p.hasNull <;> simp [eq_comm]

end FileTree

end RtlAtlas
