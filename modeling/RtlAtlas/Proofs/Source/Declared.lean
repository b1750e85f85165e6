/-
Names that declarations introduce. A declarator is searched for the last place of its name in front of
its value, so it has to be shown that the name was read there too: all that is dropped before it is
read (a direction, a keyword, dimensions, white space) leaves a part of what stands in front of the
value. So the name of a declarator stands behind every place behind which the declaration does.
-/
import Mathlib.Data.List.Infix
import Mathlib.Data.List.TakeWhile
import RtlAtlas.Proofs.Source.Nesting
import RtlAtlas.Proofs.Text.Token

namespace RtlAtlas.Source

open RtlAtlas.Text Cursor

/-! ## Pieces of a text -/

namespace Cursor

variable {c d : Cursor} {text piece part : List Char} {offset : Nat}

/-- A piece of text stands at an offset behind a place. -/
def Shows (c : Cursor) (offset : Nat) (piece : List Char) : Prop :=
  ∃ before after, c.rest = before ++ (piece ++ after) ∧ offset = c.offset + before.length

theorem shows_of_prefix (h : piece <+: c.rest) : c.Shows c.offset piece := by
  obtain ⟨after, hafter⟩ := h
  exact ⟨[], after, hafter.symm, rfl⟩

namespace Shows

theorem low (h : c.Shows offset piece) : c.offset ≤ offset := by
  obtain ⟨before, after, -, rfl⟩ := h
  exact Nat.le_add_right _ _

theorem high (h : c.Shows offset piece) : offset + piece.length ≤ c.offset + c.rest.length := by
  obtain ⟨before, after, hrest, rfl⟩ := h
  rw [hrest, List.length_append, List.length_append]
  omega

/-- What stands behind a later place stands behind an earlier one. -/
theorem of_reaches (hr : c.Reaches d) (h : d.Shows offset piece) : c.Shows offset piece := by
  obtain ⟨n, rfl⟩ := hr
  obtain ⟨before, after, hrest, rfl⟩ := h
  rw [rest_advance] at hrest
  refine ⟨c.rest.take n ++ before, after, ?_, ?_⟩
  · rw [List.append_assoc, ← hrest, List.take_append_drop]
  · rw [offset_advance, List.length_append, List.length_take]
    omega

theorem of_upTo {stop : Nat} (h : (c.upTo stop).Shows offset piece) : c.Shows offset piece := by
  obtain ⟨before, after, hrest, rfl⟩ := h
  refine ⟨before, after ++ c.rest.drop (stop - c.offset), ?_, rfl⟩
  rw [← List.append_assoc piece, ← List.append_assoc before, ← hrest]
  exact (List.take_append_drop _ _).symm

/-- A part stands where it does in the whole. -/
theorem of_part {before after : List Char} (h : c.Shows offset (before ++ (part ++ after))) :
    c.Shows (offset + before.length) part := by
  obtain ⟨before', after', hrest, rfl⟩ := h
  refine ⟨before' ++ before, after ++ after', ?_, ?_⟩
  · simp only [hrest, List.append_assoc]
  · rw [List.length_append, Nat.add_assoc]

theorem of_prefix (h : c.Shows offset piece) (hpart : part <+: piece) : c.Shows offset part := by
  obtain ⟨after, rfl⟩ := hpart
  have hwhole : c.Shows offset ([] ++ (part ++ after)) := h
  exact hwhole.of_part

theorem prefix_drop (hc : c.In text) (h : c.Shows offset piece) : piece <+: text.drop offset := by
  obtain ⟨front, rfl, ho, -⟩ := hc
  obtain ⟨before, after, hrest, rfl⟩ := h
  rw [hrest, ho, ← List.append_assoc, ← List.length_append, List.drop_left]
  exact List.prefix_append _ _

end Shows

end Cursor

/-! ## Names -/

/-- All characters of a name are such as continue an identifier. -/
def IsName (name : List Char) : Prop := ∀ c ∈ name, isIdentRest c = true

theorem ne_nil_of_isIdentStart {name : List Char} (h : name.head?.any isIdentStart = true) : name ≠ [] := by
  rintro rfl
  cases h

theorem IsName.colon_notMem {name : List Char} (h : IsName name) : ':' ∉ name := fun hc =>
  absurd (h _ hc) (by decide)

/-- A name that begins and goes on like an identifier stands at an offset behind a place. -/
structure Cursor.Names (c : Cursor) (offset : Nat) (name : List Char) : Prop where
  starts : name.head?.any isIdentStart = true
  isName : IsName name
  shown : c.Shows offset name

variable {c : Cursor} {name : List Char}

theorem Cursor.Names.of_reaches {d : Cursor} {offset : Nat} (hr : c.Reaches d)
    (h : d.Names offset name) : c.Names offset name :=
  ⟨h.starts, h.isName, h.shown.of_reaches hr⟩

theorem identifier?_eq_some {cs rest : List Char} (h : identifier? cs = some (name, rest)) :
    name.head?.any isIdentStart = true ∧ IsName name := by
  cases cs with
  | nil => cases h
  | cons x cs =>
    rw [identifier?] at h
    split at h
    · rename_i hx
      cases h
      refine ⟨hx, fun y hy => ?_⟩
      rcases List.mem_cons.1 hy with rfl | hy
      · exact isIdentStart_imp_rest hx
      · exact List.mem_takeWhile_imp hy
    · cases h

theorem Cursor.names_ident? {after : Cursor} (h : c.ident? = some (name, after)) :
    c.Names c.offset name := by
  obtain ⟨⟨name', rest⟩, hname, he⟩ := Option.map_eq_some_iff.1 h
  obtain ⟨rfl, -⟩ := Prod.mk.inj he
  obtain ⟨hstarts, hisName⟩ := identifier?_eq_some hname
  exact ⟨hstarts, hisName, shows_of_prefix (identifier?_append hname ▸ List.prefix_append _ _)⟩

/-- The identifier that a text ends with is its end. -/
theorem lastIdentifier?_eq_some {text : List Char} (h : lastIdentifier? text = some name) :
    name.head?.any isIdentStart = true ∧ IsName name ∧ name <:+ text := by
  have hrun : (text.reverse.takeWhile isIdentRest).reverse <:+ text := by
    rw [← List.reverse_prefix, List.reverse_reverse]
    exact List.takeWhile_prefix _
  unfold lastIdentifier? at h
  split at h
  · cases h
  · rename_i hne
    cases h
    have hend := List.dropWhile_suffix (l := (text.reverse.takeWhile isIdentRest).reverse) (! isIdentStart ·)
    refine ⟨?_, fun x hx => ?_, hend.trans hrun⟩
    · have hhead := List.head_dropWhile_not (! isIdentStart ·) hne
      rw [List.head?_eq_some_head hne]
      simpa using hhead
    · exact List.mem_takeWhile_imp (List.mem_reverse.1 (hend.subset hx))

/-! ## What is dropped -/

theorem dropDimension?_suffix {backwards rest : List Char} (h : dropDimension? backwards = some rest) :
    rest <:+ backwards := by
  unfold dropDimension? at h
  split at h
  · rename_i cs hclose
    split at h
    · rename_i inside hopen
      cases h
      have hgroup : ']' :: cs <:+ backwards := hclose ▸ List.dropWhile_suffix _
      have hinside : '[' :: inside <:+ cs := hopen ▸ List.dropWhile_suffix _
      exact (List.dropWhile_suffix _).trans ((List.suffix_cons _ _).trans
        (hinside.trans ((List.suffix_cons _ _).trans hgroup)))
    · cases h
  · cases h

theorem dropDimensionsFrom_suffix : ∀ (fuel : Nat) (backwards : List Char),
    dropDimensionsFrom fuel backwards <:+ backwards
  | 0, _ => List.suffix_rfl
  | fuel + 1, backwards => by
    unfold dropDimensionsFrom
    split
    · rename_i rest hrest
      exact (dropDimensionsFrom_suffix fuel rest).trans (dropDimension?_suffix hrest)
    · exact List.suffix_rfl

theorem isPrefix_dropDimensions (cs : List Char) : dropDimensions cs <+: cs := by
  rw [← List.reverse_suffix, dropDimensions, List.reverse_reverse]
  exact dropDimensionsFrom_suffix _ _

theorem isPrefix_trim (cs : List Char) : trim cs <+: trimLeft cs := by
  rw [← List.reverse_suffix, trim, trimRight, List.reverse_reverse]
  exact List.dropWhile_suffix _

/-- The name of a declarator is an identifier in front of its value. -/
theorem declaredName_eq_some {declaration : List Char} (h : declaredName declaration = some name) :
    name.head?.any isIdentStart = true ∧ IsName name ∧ name <:+: cutTopLevel declaration '=' := by
  obtain ⟨hstarts, hname, hlast⟩ := lastIdentifier?_eq_some (Option.filter_eq_some_iff.1 h).1
  have hfront := (isPrefix_dropDimensions (trim (cutTopLevel declaration '='))).trans (isPrefix_trim _)
  exact ⟨hstarts, hname, hlast.isInfix.trans (hfront.isInfix.trans (List.dropWhile_suffix _).isInfix)⟩

/-! ## What is cut off -/

theorem isPrefix_cutFrom (sep : Char) : ∀ (cs : List Char) (depth : Int), cutFrom sep depth cs <+: cs
  | [], _ => List.prefix_rfl
  | c :: cs, depth => by
    unfold cutFrom
    split
    · exact List.nil_prefix
    · exact (List.prefix_cons_inj c).2 (isPrefix_cutFrom sep cs _)

/-- Less is left of less. -/
theorem cutFrom_mono (sep : Char) : ∀ {a b : List Char} (depth : Int), a <+: b →
    cutFrom sep depth a <+: cutFrom sep depth b
  | [], _, _, _ => List.nil_prefix
  | x :: a, [], _, h => absurd (List.prefix_nil.1 h) (List.cons_ne_nil x a)
  | x :: a, y :: b, depth, h => by
    obtain ⟨rfl, hab⟩ := List.cons_prefix_cons.1 h
    unfold cutFrom
    split
    · exact List.prefix_rfl
    · exact (List.prefix_cons_inj x).2 (cutFrom_mono sep _ hab)

theorem takeWhile_prefix_cutFrom (sep : Char) : ∀ (cs : List Char) (depth : Int),
    cs.takeWhile (· != sep) <+: cutFrom sep depth cs
  | [], _ => List.nil_prefix
  | c :: cs, depth => by
    by_cases hc : c = sep
    · rw [List.takeWhile_cons_of_neg (by simp [hc])]
      exact List.nil_prefix
    · rw [List.takeWhile_cons_of_pos (by simp [hc]), cutFrom, if_neg (by simp [hc])]
      exact (List.prefix_cons_inj c).2 (takeWhile_prefix_cutFrom sep cs _)

/-- A text without brackets and without the separator is passed over. -/
theorem cutTopLevel_suffix {front cs : List Char} {sep : Char}
    (h : ∀ x ∈ front, nesting x = 0 ∧ x ≠ sep) : cutTopLevel cs sep <:+ cutTopLevel (front ++ cs) sep := by
  rw [cutTopLevel, cutTopLevel,
    cutFrom_nested (.of_forall h) (Int.le_refl 0) (fun hsep => absurd rfl hsep)]
  exact List.suffix_append _ _

theorem neutral_of_isBlank {x : Char} (h : isBlank x = true) : nesting x = 0 ∧ x ≠ '=' := by
  have hall : ['(', '[', '{', ')', ']', '}', '='].all (! isBlank ·) = true := by decide
  have hclear : ∀ y ∈ ['(', '[', '{', ')', ']', '}', '='], x ≠ y := by
    rintro y hy rfl
    simpa [h] using List.all_eq_true.1 hall x hy
  exact ⟨nesting_of_notMem fun hx => hclear x (List.mem_append_left ['='] hx) rfl,
    hclear '=' (by decide)⟩

/-- A word that is read stands in front of the place after it. -/
theorem rest_of_word? {words : List String} {c after : Cursor} {word : String}
    (h : c.word? words = some (word, after)) : word ∈ words ∧ c.rest = word.toList ++ after.rest := by
  unfold word? at h
  split at h
  · obtain ⟨w, hmem, hw⟩ := List.exists_of_findSome?_eq_some h
    obtain ⟨d, hd, he⟩ := Option.map_eq_some_iff.1 hw
    cases he
    unfold afterWord? at hd
    split at hd
    · cases hd
    · rename_i rest hrest
      split at hd
      · cases hd
      · cases hd
        have hsplit := dropLead?_eq_some.1 hrest
        rw [rest_advance, hsplit, ← String.length_toList, List.drop_left]
        exact ⟨hmem, rfl⟩
  · cases h

/-- What stands in front of the declaration behind a direction holds no bracket and no value. -/
theorem direction?_split {entry declaration : List Char} {d : Direction}
    (h : direction? entry = some (d, declaration)) :
    ∃ front, entry = front ++ declaration ∧ ∀ x ∈ front, nesting x = 0 ∧ x ≠ '=' := by
  unfold direction? at h
  split at h
  · cases h
  · rename_i word after hword
    obtain ⟨d', -, he⟩ := Option.map_eq_some_iff.1 h
    obtain ⟨-, rfl⟩ := Prod.mk.inj he
    obtain ⟨hmem, hrest⟩ := rest_of_word? hword
    have hword : ∀ x ∈ word.toList, nesting x = 0 ∧ x ≠ '=' := by
      have hall : ∀ w ∈ ["input", "output", "inout"],
          w.toList.all (fun x => nesting x == 0 && x != '=') = true := by decide
      simpa using hall word hmem
    refine ⟨word.toList ++ after.rest.takeWhile isBlank, ?_, fun x hx =>
      (List.mem_append.1 hx).elim (hword x) fun hx => neutral_of_isBlank (List.mem_takeWhile_imp hx)⟩
    rw [List.append_assoc, trimLeft, List.takeWhile_append_dropWhile]
    exact hrest

/-- The direction in front is passed over. -/
theorem cut_direction? {entry declaration : List Char} {d : Direction}
    (h : direction? entry = some (d, declaration)) :
    cutTopLevel declaration '=' <:+: cutTopLevel entry '=' := by
  obtain ⟨front, rfl, hfront⟩ := direction?_split h
  exact (cutTopLevel_suffix hfront).isInfix

/-- White space around a declarator is passed over. -/
theorem cut_trim (cs : List Char) : cutTopLevel (trim cs) '=' <:+: cutTopLevel cs '=' := by
  have hfront : ∀ x ∈ cs.takeWhile isBlank, nesting x = 0 ∧ x ≠ '=' := fun x hx =>
    neutral_of_isBlank (List.mem_takeWhile_imp hx)
  have hsplit : cs = cs.takeWhile isBlank ++ trimLeft cs := List.takeWhile_append_dropWhile.symm
  have hleft : cutTopLevel (trimLeft cs) '=' <:+ cutTopLevel cs '=' := by
    conv_rhs => rw [hsplit]
    exact cutTopLevel_suffix hfront
  exact (cutFrom_mono '=' 0 (isPrefix_trim cs)).isInfix.trans hleft.isInfix

theorem dropParameterWord_suffix (head : List Char) : dropParameterWord head <:+ head := by
  unfold dropParameterWord
  simp only
  split
  · rename_i word after hword
    obtain ⟨n, rfl⟩ := reaches_word? hword
    rw [rest_advance]
    exact (List.drop_suffix n _).trans (List.dropWhile_suffix _)
  · exact List.suffix_rfl

/-! ## Segments -/

/-- The first segment of a text begins it. -/
theorem prefix_of_splitFrom : ∀ {cs : List Char} {offset : Nat} {depth : Int} {s : Segment}
    {ss : List Segment}, splitFrom offset depth cs = s :: ss → s.text <+: cs
  | [], _, _, _, _, h => by
    cases h
    exact List.prefix_rfl
  | x :: cs, offset, depth, _, _, h => by
    unfold splitFrom at h
    split at h
    · cases h
      exact List.nil_prefix
    · split at h
      · cases h
        exact (List.prefix_cons_inj x).2 List.nil_prefix
      · rename_i hsplit
        cases h
        exact (List.prefix_cons_inj x).2 (prefix_of_splitFrom hsplit)

/-- The segments of a piece that is split stand where they were cut. -/
theorem Cursor.Shows.of_mem_splitFrom {s : Segment} : ∀ {cs : List Char} {offset : Nat} {depth : Int},
    c.Shows offset cs → s ∈ splitFrom offset depth cs → c.Shows s.offset s.text
  | [], offset, _, h, hs => by
    obtain rfl := List.mem_singleton.1 hs
    exact h
  | x :: cs, offset, depth, h, hs => by
    have hnext : c.Shows (offset + 1) cs := by
      have hwhole : c.Shows offset ([x] ++ (cs ++ [])) := by rwa [List.append_nil]
      exact hwhole.of_part
    unfold splitFrom at hs
    split at hs
    · rcases List.mem_cons.1 hs with rfl | hs
      · exact h.of_prefix List.nil_prefix
      · exact hnext.of_mem_splitFrom hs
    · split at hs
      · obtain rfl := List.mem_singleton.1 hs
        exact h.of_prefix ((List.prefix_cons_inj x).2 List.nil_prefix)
      · rename_i first rest hsplit
        rcases List.mem_cons.1 hs with rfl | hs
        · -- the first segment begins what was cut, and grows by the character in front of it
          exact h.of_prefix ((List.prefix_cons_inj x).2 (prefix_of_splitFrom hsplit))
        · exact hnext.of_mem_splitFrom (hsplit ▸ List.mem_cons_of_mem _ hs)
/-! ## Declarators -/

/-- The name of a declarator stands where it is found: it was read from a part of what stands in front
of the value. -/
theorem Cursor.Shows.names {s : Segment} {declaration : List Char} (hs : c.Shows s.offset s.text)
    (hd : cutTopLevel declaration '=' <:+: cutTopLevel s.text '=')
    (h : declaredName declaration = some name) : c.Names (s.offset + nameOffset s.text name) name := by
  obtain ⟨hstarts, hname, hin⟩ := declaredName_eq_some h
  -- the place that is found is the last one, which need not be the one that was read
  obtain ⟨i, hi⟩ := exists_findLast? (hin.trans hd)
  have hfound : name <+: s.text.drop i :=
    (prefix_of_findLast? hi).trans ((isPrefix_cutFrom '=' s.text 0).drop i)
  obtain ⟨after, hafter⟩ := hfound
  have hsplit : s.text = s.text.take i ++ (name ++ after) := by rw [hafter, List.take_append_drop]
  have hle : i ≤ s.text.length :=
    Nat.le_trans (findLast?_le hi) (isPrefix_cutFrom '=' s.text 0).length_le
  rw [hsplit] at hs
  have hshown := hs.of_part
  rw [List.length_take, Nat.min_eq_left hle] at hshown
  rw [nameOffset, hi]
  exact ⟨hstarts, hname, hshown⟩

/-- A mark is found behind a place: it lies there, and its name stands somewhere in what it spans. -/
structure Mark.Found (c : Cursor) (m : Mark) : Prop where
  low : c.offset ≤ m.start
  high : m.stop ≤ c.offset + c.rest.length
  named : ∃ k, m.start ≤ k ∧ k ≤ m.stop ∧ c.Names k m.name

theorem Mark.Found.of_reaches {d : Cursor} {m : Mark} (hr : c.Reaches d) (h : m.Found d) : m.Found c := by
  obtain ⟨k, hstart, hstop, hk⟩ := h.named
  exact ⟨Nat.le_trans hr.offset_le h.low, hr.stop_eq ▸ h.high, k, hstart, hstop, hk.of_reaches hr⟩

theorem Mark.Found.of_upTo {stop : Nat} {m : Mark} (h : m.Found (c.upTo stop)) : m.Found c := by
  obtain ⟨k, hstart, hstop, hk⟩ := h.named
  have hhigh := h.high
  simp only [Cursor.upTo, List.length_take] at hhigh
  exact ⟨h.low, by omega, k, hstart, hstop, hk.starts, hk.isName, hk.shown.of_upTo⟩

/-- A mark that spans nothing is found where its name stands. -/
theorem Cursor.Names.found {offset : Nat} (h : c.Names offset name) (kind : SymbolKind)
    (nodeType : String) : Mark.Found c ⟨name, kind, offset, offset, nodeType⟩ :=
  ⟨h.shown.low, Nat.le_trans (Nat.le_add_right _ _) h.shown.high, offset, Nat.le_refl _, Nat.le_refl _, h⟩

theorem found_declarationMark? {kind : SymbolKind} {nodeType : String} {s : Segment}
    {declaration : List Char} {m : Mark} (hs : c.Shows s.offset s.text)
    (hd : cutTopLevel declaration '=' <:+: cutTopLevel s.text '=')
    (h : declarationMark? kind nodeType s declaration = some m) : m.Found c := by
  obtain ⟨name, hname, rfl⟩ := Option.map_eq_some_iff.1 h
  exact (hs.names hd hname).found kind nodeType

theorem found_parameterMarks {nodeType : String} {list : Segment} {m : Mark}
    (hlist : c.Shows list.offset list.text) (h : m ∈ parameterMarks nodeType list) : m.Found c := by
  obtain ⟨s, hs, hm⟩ := List.mem_filterMap.1 h
  refine found_declarationMark? (hlist.of_mem_splitFrom hs) ?_ hm
  -- the value is cut off at the first sign, so no sign inside brackets is passed over
  have hhead : s.text.takeWhile (· != '=') <+: cutTopLevel s.text '=' :=
    takeWhile_prefix_cutFrom '=' s.text 0
  exact (isPrefix_cutFrom '=' _ 0).isInfix.trans ((dropParameterWord_suffix _).isInfix.trans hhead.isInfix)

theorem found_signalMarks {s : Statement} {m : Mark} (hs : c.Shows s.body.offset s.body.text)
    (h : m ∈ signalMarks s) : m.Found c := by
  obtain ⟨p, hp, hm⟩ := List.mem_filterMap.1 h
  exact found_declarationMark? (hs.of_mem_splitFrom hp) List.infix_rfl hm

/-! ## Ports -/

theorem names_headerPortsFrom : ∀ {segments : List Segment} {direction : Option Direction}
    {type : List Char} {p : HeaderPort}, (∀ s ∈ segments, c.Shows s.offset s.text) →
    p ∈ headerPortsFrom direction type segments → c.Names p.offset p.name
  | [], _, _, _, _, h => by cases h
  | s :: ss, direction, type, p, hsegments, h => by
    have hs : c.Shows s.offset s.text := hsegments s List.mem_cons_self
    have hrest := fun t ht => hsegments t (List.mem_cons_of_mem _ ht)
    have hentry : cutTopLevel (trim s.text) '=' <:+: cutTopLevel s.text '=' := cut_trim s.text
    unfold headerPortsFrom at h
    simp only at h
    split at h
    · exact names_headerPortsFrom hrest h
    · split at h
      · rename_i d declaration hdirection
        split at h
        · exact names_headerPortsFrom hrest h
        · rename_i name hname
          rcases List.mem_cons.1 h with rfl | h
          · exact hs.names ((cut_direction? hdirection).trans hentry) hname
          · exact names_headerPortsFrom hrest h
      · split at h
        · exact names_headerPortsFrom hrest h
        · rename_i name hname
          rcases List.mem_cons.1 h with rfl | h
          · exact hs.names hentry hname
          · exact names_headerPortsFrom hrest h

theorem found_bodyPortsFrom : ∀ {segments : List Segment} {direction : Direction} {type : List Char}
    {p : Port × Mark}, (∀ s ∈ segments, c.Shows s.offset s.text) →
    p ∈ bodyPortsFrom direction type segments → p.2.Found c
  | [], _, _, _, _, h => by cases h
  | s :: ss, direction, type, p, hsegments, h => by
    have hrest := fun t ht => hsegments t (List.mem_cons_of_mem _ ht)
    unfold bodyPortsFrom at h
    split at h
    · exact found_bodyPortsFrom hrest h
    · rename_i name hname
      rcases List.mem_cons.1 h with rfl | h
      · exact ((hsegments s List.mem_cons_self).names List.infix_rfl hname).found .port _
      · exact found_bodyPortsFrom hrest h

theorem found_bodyPorts {s : Statement} {p : Port × Mark} (hs : c.Shows s.body.offset s.body.text)
    (h : p ∈ bodyPorts s) : p.2.Found c := by
  unfold bodyPorts at h
  split at h
  · cases h
  · exact found_bodyPortsFrom (fun _ ht => hs.of_mem_splitFrom ht) h

theorem found_modulePorts {header : List HeaderPort} {body : List (Port × Mark)} {m : Mark}
    (hheader : ∀ p ∈ header, c.Names p.offset p.name) (hbody : ∀ p ∈ body, p.2.Found c)
    (h : m ∈ (modulePorts header body).2) : m.Found c := by
  unfold modulePorts at h
  split at h
  · obtain ⟨p, hp, rfl⟩ := List.mem_map.1 h
    exact (hheader p hp).found .port _
  · obtain ⟨p, hp, rfl⟩ := List.mem_map.1 h
    exact hbody p hp

end RtlAtlas.Source
