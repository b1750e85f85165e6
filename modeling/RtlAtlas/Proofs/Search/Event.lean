/-
Events that can be read. A line of ripgrep's output is read without an error if it is no JSON, if its event
tells of no match, or if the data of a match have the form that ripgrep gives them: path and line are
objects with a text or without one, the number of the line is there, and the places of the match are
objects with an offset. Where a text is missing, no match is told of.
-/
import RtlAtlas.Proofs.Path.Text
import RtlAtlas.Search.Event
import Mathlib.Data.List.TakeWhile

namespace RtlAtlas

namespace Text

variable {codes : List Nat}

/-- Code points without surrogates have a UTF-8 form. -/
theorem unencodable?_eq_none (spared : Nat → Bool) (h : ∀ c ∈ codes, isSurrogate c = false) :
    unencodable? spared codes = none := by
  have hnone : codes.dropWhile (fun c => !isSurrogate c || spared c) = [] := by
    rw [List.dropWhile_eq_nil_iff]
    intro c hc
    simp [h c hc]
  unfold unencodable?
  rw [hnone]

theorem isSurrogate_toNat (c : Char) : isSurrogate c.toNat = false := by
  have hvalid : c.toNat < 0xD800 ∨ 0xDFFF < c.toNat ∧ c.toNat < 0x110000 := c.valid
  simp only [isSurrogate, Bool.and_eq_false_iff, decide_eq_false_iff_not]
  omega

end Text

namespace Search.Event

open RtlAtlas.Text

/-! ## Paths -/

/-- Code points that a path can hold. -/
def Lookable (codes : List Nat) : Prop := ∀ c ∈ codes, isSurrogate c = false ∧ c ≠ 0

variable {codes : List Nat} {parts : List (List Nat)} {data : Json} {name : String}

theorem Lookable.joined (rooted : Bool) (h : ∀ part ∈ parts, Lookable part) :
    Lookable (joined rooted parts) := by
  have hslash : Lookable [47] := by
    simp [Lookable, isSurrogate]
  have happend : ∀ {a b : List Nat}, Lookable a → Lookable b → Lookable (a ++ b) := fun ha hb c hc =>
    (List.mem_append.1 hc).elim (ha c) (hb c)
  have hbetween : ∀ {ps : List (List Nat)}, (∀ p ∈ ps, Lookable p) → Lookable ([47].intercalate ps) := by
    intro ps
    induction ps with
    | nil => exact fun _ c hc => by cases hc
    | cons p ps ih =>
      intro hps
      rw [List.forall_mem_cons] at hps
      cases ps with
      | nil => simpa using hps.1
      | cons q ps =>
        rw [List.intercalate_cons_cons]
        exact happend (happend hps.1 hslash) (ih hps.2)
  cases rooted with
  | true => exact happend hslash (hbetween h)
  | false => simpa [Event.joined] using hbetween h

/-- One more component can be followed. -/
theorem follow_eq_ok (rooted : Bool) (h : ∀ part ∈ parts, Lookable part) {part : List Nat}
    (hpart : Lookable part) : ∃ done, follow rooted parts part = .ok done ∧ ∀ p ∈ done, Lookable p := by
  have hmore : ∀ p ∈ parts ++ [part], Lookable p := by
    intro p hp
    rcases List.mem_append.1 hp with hp | hp
    · exact h p hp
    · rwa [List.mem_singleton.1 hp]
  unfold follow
  split
  · split
    · exact ⟨_, rfl, hmore⟩
    · exact ⟨_, rfl, fun p hp => h p (List.dropLast_subset _ hp)⟩
  · have hcodes := unencodable?_eq_none isByteMark fun c hc => (Lookable.joined rooted hmore c hc).1
    have hzero : part.contains 0 = false := by
      rw [Bool.eq_false_iff, Ne, List.contains_iff_mem]
      exact fun hc => (hpart 0 hc).2 rfl
    simp only [hcodes, hzero]
    exact ⟨_, rfl, hmore⟩

theorem checkPath_eq_ok (h : Lookable codes) : checkPath codes = .ok () := by
  have hrun : ∀ (rest done : List (List Nat)), (∀ p ∈ rest, Lookable p) → (∀ p ∈ done, Lookable p) →
      ∃ all, rest.foldlM (follow (codes.head? == some 47)) done = .ok all := by
    intro rest
    induction rest with
    | nil => exact fun done _ _ => ⟨done, rfl⟩
    | cons part rest ih =>
      intro done hrest hdone
      rw [List.forall_mem_cons] at hrest
      obtain ⟨next, hnext, hlooks⟩ := follow_eq_ok (codes.head? == some 47) hdone hrest.1
      obtain ⟨all, hall⟩ := ih next hrest.2 hlooks
      refine ⟨all, ?_⟩
      rw [List.foldlM_cons, hnext]
      exact hall
  have hparts : ∀ p ∈ partsOf codes, Lookable p := fun p hp c hc =>
    h c (mem_of_mem_splitAt (List.mem_filter.1 hp).1 hc)
  obtain ⟨all, hall⟩ := hrun (partsOf codes) [] hparts (List.forall_mem_nil _)
  unfold checkPath
  rw [hall]
  rfl

/-- A text without NUL names the file that it writes. -/
theorem fileOf_str {s : String} (h : Char.ofNat 0 ∉ s.toList) :
    fileOf (.str s) = .ok (some (Path.ofString s)) := by
  have hcodes : Lookable (s.toList.map Char.toNat) := by
    intro code hcode
    obtain ⟨c, hc, rfl⟩ := List.mem_map.1 hcode
    refine ⟨isSurrogate_toNat c, fun hzero => h ?_⟩
    rwa [← hzero, Char.ofNat_toNat]
  unfold fileOf
  simp only [checkPath_eq_ok hcodes]
  rfl

/-! ## Fields -/

/-- A field that is missing, or an object in which the text is missing, null or of a certain kind. -/
def TextField (kind : String → Prop) (name : String) (data : Json) : Prop :=
  ∀ inner, data.field? name = some inner → (∃ fields, inner = .obj fields) ∧
    ∀ text, inner.field? "text" = some text → text = .null ∨ ∃ s, text = .str s ∧ kind s

/-- The offset of a place, or none. -/
def OffsetField (place : Json) : Prop :=
  (∃ fields, place = .obj fields) ∧
    ∀ offset, place.field? "start" = some offset → offset = .null ∨ ∃ n, offset = .int n

/-- The data of a match as ripgrep writes them. -/
structure Regular (data : Json) : Prop where
  isObject : ∃ fields, data = .obj fields
  lines : TextField (fun _ => True) "lines" data
  path : TextField (fun s => Char.ofNat 0 ∉ s.toList) "path" data
  number : (data.field? "line_number").isSome = true
  places : ∀ found, data.field? "submatches" = some found →
    found = .null ∨ ∃ items, found = .arr items ∧ ∀ place, items.head? = some place → OffsetField place

/-- A line of output that tells of a match as ripgrep does, or of none. -/
def RegularLine (line : List Char) : Prop :=
  Json.parse line = .error .malformed ∨ ∃ fields, Json.parse line = .ok (.obj fields) ∧
    ((Json.obj fields).field? "type" = some (.str "match") →
      ∃ data, (Json.obj fields).field? "data" = some data ∧ Regular data)

theorem field?_obj (name : String) (fields : List (String × Json)) :
    field? name (.obj fields) = .ok ((Json.obj fields).field? name) := rfl

theorem textOf_eq_ok {kind : String → Prop} (hdata : ∃ fields, data = .obj fields)
    (h : TextField kind name data) :
    textOf name data = .ok none ∨ ∃ s, textOf name data = .ok (some (.str s)) ∧ kind s := by
  obtain ⟨fields, rfl⟩ := hdata
  obtain ⟨inside, hinside, htext⟩ : ∃ inside,
      ((Json.obj fields).field? name).getD (.obj []) = .obj inside ∧
        ∀ text, (Json.obj inside).field? "text" = some text → text = .null ∨ ∃ s, text = .str s ∧ kind s := by
    cases hfound : (Json.obj fields).field? name with
    | none => exact ⟨[], rfl, fun text htext => by cases htext⟩
    | some inner =>
      obtain ⟨⟨inside, rfl⟩, htext⟩ := h inner hfound
      exact ⟨inside, rfl, htext⟩
  unfold textOf
  simp only [field?_obj, bind, Except.bind, hinside]
  cases hfound : (Json.obj inside).field? "text" with
  | none => exact .inl rfl
  | some text =>
    rcases htext text hfound with rfl | ⟨s, rfl, hs⟩
    · exact .inl rfl
    · exact .inr ⟨s, rfl, hs⟩

theorem firstMatch_eq_ok (h : Regular data) : ∃ first, firstMatch data = .ok first ∧ OffsetField first := by
  obtain ⟨fields, rfl⟩ := h.isObject
  have hempty : OffsetField (.obj []) := ⟨⟨[], rfl⟩, fun offset hoffset => by cases hoffset⟩
  unfold firstMatch
  rw [field?_obj]
  cases hfound : (Json.obj fields).field? "submatches" with
  | none => exact ⟨.obj [], rfl, hempty⟩
  | some found =>
    rcases h.places found hfound with rfl | ⟨items, rfl, hplace⟩
    · exact ⟨.obj [], rfl, hempty⟩
    · cases items with
      | nil => exact ⟨.obj [], rfl, hempty⟩
      | cons place items => exact ⟨place, rfl, hplace place rfl⟩

theorem columnAt_eq_ok (text : List Char) {place : Json} (h : OffsetField place) :
    ∃ offset column, field? "start" place = .ok offset ∧
      columnAt text (offset.getD (.int 0)) = .ok column := by
  obtain ⟨⟨fields, rfl⟩, hoffset⟩ := h
  rw [field?_obj]
  cases hfound : (Json.obj fields).field? "start" with
  | none => exact ⟨none, _, rfl, rfl⟩
  | some offset =>
    refine ⟨some offset, ?_⟩
    rcases hoffset offset hfound with rfl | ⟨n, rfl⟩
    · exact ⟨_, rfl, rfl⟩
    · exact ⟨_, rfl, rfl⟩

/-! ## Events -/

/-- Regular data are read, and a file that they name is one that can be looked up. -/
theorem toldBy_eq_ok (h : Regular data) : ∃ told, toldBy data = .ok told ∧
    ∀ t ∈ told, (∃ number, t.line = .ok number) ∧ ∀ file ∈ t.file, file.hasNull = false := by
  unfold toldBy
  rcases textOf_eq_ok h.isObject h.lines with hline | ⟨line, hline, -⟩
  · rw [hline]
    rcases textOf_eq_ok h.isObject h.path with hpath | ⟨path, hpath, -⟩ <;>
      exact ⟨none, by rw [hpath]; rfl, fun t ht => by cases ht⟩
  · rw [hline]
    rcases textOf_eq_ok h.isObject h.path with hpath | ⟨path, hpath, hclean⟩
    · exact ⟨none, by rw [hpath]; rfl, fun t ht => by cases ht⟩
    · obtain ⟨number, hnumber⟩ := Option.isSome_iff_exists.1 h.number
      obtain ⟨first, hfirst, hplace⟩ := firstMatch_eq_ok h
      obtain ⟨offset, column, hoffset, hcolumn⟩ := columnAt_eq_ok line.toList hplace
      have hrequired : required "line_number" data = .ok number := by
        unfold required
        rw [hnumber]
      refine ⟨some ⟨some (Path.ofString path), .ok number, column, String.ofList (trim line.toList)⟩, ?_, ?_⟩
      · rw [hpath]
        simp only [bind, Except.bind, fileOf_str hclean, hrequired, hfirst, hoffset, lineText, hcolumn]
        rfl
      · rintro t ⟨⟩
        refine ⟨⟨number, rfl⟩, ?_⟩
        rintro file ⟨⟩
        exact Path.hasNull_ofString hclean

/-- A regular line is read. -/
theorem read_eq_ok {line : List Char} (h : RegularLine line) : ∃ told, read line = .ok told ∧
    ∀ t ∈ told, (∃ number, t.line = .ok number) ∧ ∀ file ∈ t.file, file.hasNull = false := by
  have hnone : ∀ t ∈ (none : Option Told), (∃ number, t.line = .ok number) ∧
      ∀ file ∈ t.file, file.hasNull = false := fun t ht => by cases ht
  unfold read
  split
  · exact ⟨none, rfl, hnone⟩
  · rcases h with h | ⟨fields, h, hmatch⟩
    · rw [h]
      exact ⟨none, rfl, hnone⟩
    · rw [h]
      have hevent : isMatch (.obj fields) =
          .ok (((Json.obj fields).field? "type").bind Json.string? == some "match") := rfl
      simp only [hevent, bind, Except.bind]
      split
      · rename_i htype
        have hword : (Json.obj fields).field? "type" = some (.str "match") := by
          obtain ⟨type, hfound, hstring⟩ := Option.bind_eq_some_iff.1 (beq_iff_eq.1 htype)
          cases type <;> cases hstring
          exact hfound
        obtain ⟨data, hdata, hregular⟩ := hmatch hword
        have hrequired : required "data" (.obj fields) = .ok data := by
          unfold required
          rw [hdata]
        rw [hrequired]
        exact toldBy_eq_ok hregular
      · exact ⟨none, rfl, hnone⟩

end Search.Event

end RtlAtlas
