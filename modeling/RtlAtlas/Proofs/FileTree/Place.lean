/-
The places of a tree of files. A place is a resolved path on which no link stands. One component on
from a place leads to a place again, with a link or without, so that every path means a place, a place
means itself, and following a path leads to the place that it means.
-/
import RtlAtlas.Proofs.OrderedMap
import RtlAtlas.Proofs.Path.Text

namespace RtlAtlas.FileTree

open OrderedMap RtlAtlas.Path

/-- No link stands on a path or at its end. -/
def Clear (t : FileTree) (p : Path) : Prop := ∀ a ∈ p :: ancestors p, t.linkAt? a = none

/-- A path from the root without `..` on which no link stands. -/
structure Settled (t : FileTree) (p : Path) : Prop where
  anchor : p.anchor = .root
  plain : ".." ∉ p.parts
  clear : t.Clear p

/-- A resolved path on which no link stands. -/
structure IsPlace (t : FileTree) (p : Path) : Prop where
  resolved : p.Resolved
  clear : t.Clear p

/-- Every entry of a tree stands at a resolved path of its own, and links lead to places. -/
structure WF (t : FileTree) : Prop where
  unique : t.entries.Unique
  resolved : ∀ p ∈ t.entries.keys, p.Resolved
  root : t.linkAt? rootPath = none
  links : ∀ p ∈ t.entries.keys, ∀ q ∈ t.linkAt? p, t.IsPlace q

instance (t : FileTree) (p : Path) : Decidable (t.Clear p) :=
  inferInstanceAs (Decidable (∀ a ∈ p :: ancestors p, t.linkAt? a = none))

instance (t : FileTree) (p : Path) : Decidable (t.IsPlace p) :=
  decidable_of_iff (p.Resolved ∧ t.Clear p) ⟨fun ⟨hr, hc⟩ => ⟨hr, hc⟩, fun ⟨hr, hc⟩ => ⟨hr, hc⟩⟩

instance (t : FileTree) : Decidable t.WF :=
  decidable_of_iff (t.entries.keys.Nodup ∧ (∀ p ∈ t.entries.keys, p.Resolved) ∧
      t.linkAt? rootPath = none ∧ ∀ p ∈ t.entries.keys, ∀ q ∈ t.linkAt? p, t.IsPlace q)
    ⟨fun ⟨hu, hr, h, hl⟩ => ⟨hu, hr, h, hl⟩, fun ⟨hu, hr, h, hl⟩ => ⟨hu, hr, h, hl⟩⟩

variable {t u : FileTree} {p q here place : Path} {part : String} {parts : List String}

/-! ## Resolved paths -/

theorem resolved_rootPath : rootPath.Resolved :=
  ⟨rfl, by simp [Proper, rootPath], by simp [rootPath], rfl⟩

theorem resolved_of_prefix {parts : List String} (h : (⟨.root, parts⟩ : Path).Resolved) {n : Nat} :
    (⟨.root, parts.take n⟩ : Path).Resolved where
  anchor := rfl
  proper := fun part hp => h.proper part (List.mem_of_mem_take hp)
  plain := fun hp => h.plain (List.mem_of_mem_take hp)
  clean := by
    have hc := h.clean
    unfold Path.hasNull at hc ⊢
    rw [List.any_eq_false] at hc ⊢
    exact fun part hp => hc part (List.mem_of_mem_take hp)

theorem resolved_of_mem_ancestors (hp : p.Resolved) {a : Path} (ha : a ∈ ancestors p) : a.Resolved := by
  obtain ⟨n, -, rfl⟩ := List.mem_map.1 ha
  obtain ⟨anchor, parts⟩ := p
  obtain rfl : anchor = .root := hp.anchor
  exact resolved_of_prefix hp

theorem resolved_parent (h : p.Resolved) : p.parent.Resolved := by
  obtain ⟨anchor, parts⟩ := p
  obtain rfl : anchor = .root := h.anchor
  have := resolved_of_prefix h (n := parts.length - 1)
  rwa [← List.dropLast_eq_take] at this

theorem resolved_child (h : p.Resolved) (hp : IsPart part) (hd : part ≠ "..")
    (hn : part.toList.contains (Char.ofNat 0) = false) : (p.child part).Resolved where
  anchor := h.anchor
  proper := fun x hx => (List.mem_append.1 hx).elim (h.proper x) fun hx => by
    rw [List.mem_singleton.1 hx]; exact hp
  plain := fun hx => (List.mem_append.1 hx).elim h.plain fun hx => hd (List.mem_singleton.1 hx).symm
  clean := by
    have hc := h.clean
    unfold Path.hasNull Path.child at *
    rw [List.any_append, hc, Bool.false_or, List.any_cons, hn, List.any_nil, Bool.or_false]

/-! ## Paths without links -/

theorem linkAt?_eq_none_of_entry {e : Entry} (h : t.entries.get? p = some e) (he : e.target? = none) :
    t.linkAt? p = none := by
  rw [linkAt?, h]
  exact he

theorem clear_iff : t.Clear p ↔ ∀ n, t.linkAt? { p with parts := p.parts.take n } = none := by
  constructor
  · intro h n
    by_cases hn : n < p.parts.length
    · exact h _ (List.mem_cons_of_mem _ (List.mem_map.2 ⟨n, List.mem_range.2 hn, rfl⟩))
    · have hall : ({ p with parts := p.parts.take n } : Path) = p := by
        rw [List.take_of_length_le (by omega)]
      rw [hall]
      exact h p List.mem_cons_self
  · intro h a ha
    rcases List.mem_cons.1 ha with rfl | ha
    · have hall := h a.parts.length
      rwa [List.take_length] at hall
    · obtain ⟨n, -, rfl⟩ := List.mem_map.1 ha
      exact h n

theorem Clear.parent (h : t.Clear p) : t.Clear p.parent := by
  rw [clear_iff] at h ⊢
  intro n
  have hn := h (min n (p.parts.length - 1))
  rwa [← List.take_take, ← List.dropLast_eq_take] at hn

theorem Clear.child (h : t.Clear p) (hp : t.linkAt? (p.child part) = none) : t.Clear (p.child part) := by
  rw [clear_iff] at h ⊢
  intro n
  by_cases hn : n ≤ p.parts.length
  · have htake : (p.child part).parts.take n = p.parts.take n := List.take_append_of_le_length hn
    rw [htake]
    exact h n
  · have hall : (p.child part).parts.take n = (p.child part).parts :=
      List.take_of_length_le (by simp only [Path.child, List.length_append, List.length_singleton]; omega)
    rw [hall]
    exact hp

/-- Fewer links leave a path clear. -/
theorem Clear.mono (h : t.Clear p) (hsame : ∀ a, t.linkAt? a = none → u.linkAt? a = none) : u.Clear p :=
  fun a ha => hsame a (h a ha)

theorem clear_empty (p : Path) : FileTree.empty.Clear p := by
  intro a _
  rw [linkAt?, FileTree.empty, get?_insert]
  split <;> rfl

/-! ## Places -/

theorem WF.isPlace_of_link (h : t.WF) (hq : t.linkAt? p = some q) : t.IsPlace q := by
  refine h.links p ?_ q hq
  obtain ⟨e, he, -⟩ := Option.bind_eq_some_iff.1 hq
  exact exists_get?_iff.1 ⟨e, he⟩

theorem WF.isPlace_rootPath (h : t.WF) : t.IsPlace rootPath := by
  refine ⟨resolved_rootPath, fun a ha => ?_⟩
  obtain rfl : a = rootPath := by simpa [ancestors, rootPath] using ha
  exact h.root

theorem IsPlace.settled (h : t.IsPlace p) : t.Settled p := ⟨h.resolved.anchor, h.resolved.plain, h.clear⟩

/-- One component on from a settled path is settled, with a link or without. -/
theorem Settled.onward (ht : t.WF) (h : t.Settled here) (part : String) :
    t.Settled (t.onward here part) := by
  unfold FileTree.onward
  split
  · exact ⟨h.anchor, fun hup => h.plain (List.dropLast_subset _ hup), h.clear.parent⟩
  · rename_i hup
    cases hlink : t.linkAt? (here.child part) with
    | none =>
      refine ⟨h.anchor, fun hm => ?_, h.clear.child hlink⟩
      rcases List.mem_append.1 hm with hm | hm
      · exact h.plain hm
      · exact hup (by simp [List.mem_singleton.1 hm])
    | some q => exact (ht.isPlace_of_link hlink).settled

theorem Settled.foldl_onward (ht : t.WF) : ∀ {parts : List String} {here : Path}, t.Settled here →
    t.Settled (parts.foldl t.onward here)
  | [], _, h => h
  | part :: _, _, h => (h.onward ht part).foldl_onward ht

/-- What a path means is settled, whatever the path. -/
theorem settled_place (ht : t.WF) (p : Path) : t.Settled (t.place p) :=
  ht.isPlace_rootPath.settled.foldl_onward ht

/-- One component on from a place is a place. -/
theorem IsPlace.onward (ht : t.WF) (h : t.IsPlace here) (hp : IsPart part)
    (hn : part.toList.contains (Char.ofNat 0) = false) : t.IsPlace (t.onward here part) := by
  unfold FileTree.onward
  split
  · exact ⟨resolved_parent h.resolved, h.clear.parent⟩
  · rename_i hup
    cases hlink : t.linkAt? (here.child part) with
    | none => exact ⟨resolved_child h.resolved hp (by simpa using hup) hn, h.clear.child hlink⟩
    | some q => exact ht.isPlace_of_link hlink

theorem IsPlace.foldl_onward (ht : t.WF) : ∀ {parts : List String} {here : Path}, t.IsPlace here →
    (∀ part ∈ parts, IsPart part ∧ part.toList.contains (Char.ofNat 0) = false) →
    t.IsPlace (parts.foldl t.onward here)
  | [], _, h, _ => h
  | part :: parts, _, h, hp => by
    obtain ⟨hpart, hn⟩ := hp part List.mem_cons_self
    exact (h.onward ht hpart hn).foldl_onward ht fun x hx => hp x (List.mem_cons_of_mem _ hx)

/-- Every path without NUL means a place. -/
theorem isPlace_place (ht : t.WF) (hp : p.Proper) (hn : p.hasNull = false) : t.IsPlace (t.place p) := by
  refine IsPlace.foldl_onward ht ht.isPlace_rootPath fun part hpart => ⟨hp part hpart, ?_⟩
  unfold Path.hasNull at hn
  simpa using List.any_eq_false.1 hn part hpart

/-- Where no link is on the way, a path without `..` is gone as it stands. -/
theorem foldl_onward_of_clear : ∀ {parts : List String} {here : Path}, ".." ∉ parts →
    (∀ n, t.linkAt? { here with parts := here.parts ++ parts.take (n + 1) } = none) →
    parts.foldl t.onward here = { here with parts := here.parts ++ parts }
  | [], here, _, _ => by rw [List.foldl_nil, List.append_nil]
  | part :: parts, here, hup, h => by
    rw [List.mem_cons, not_or] at hup
    have hchild : t.linkAt? (here.child part) = none := h 0
    have hstep : t.onward here part = here.child part := by
      unfold onward
      rw [if_neg (by simpa using fun e : part = ".." => hup.1 e.symm), hchild]
      rfl
    rw [List.foldl_cons, hstep, foldl_onward_of_clear hup.2]
    · simp [Path.child]
    · intro n
      simpa [Path.child] using h (n + 1)

theorem Settled.place_eq (h : t.Settled p) : t.place p = p := by
  have hclear := clear_iff.1 h.clear
  obtain ⟨anchor, parts⟩ := p
  obtain rfl : anchor = .root := h.anchor
  exact foldl_onward_of_clear h.plain fun n => hclear (n + 1)

/-- A place means itself. -/
theorem IsPlace.place_eq (h : t.IsPlace p) : t.place p = p := h.settled.place_eq

theorem place_place (ht : t.WF) (p : Path) : t.place (t.place p) = t.place p :=
  (settled_place ht p).place_eq

/-- The place that a path means, when there is one. -/
theorem resolve_eq_ok : t.resolve p = .ok place ↔ p.hasNull = false ∧ place = t.place p := by
  unfold resolve
  cases p.hasNull <;> simp [eq_comm]

theorem resolve_error {e : Error} (h : t.resolve p = .error e) : e = .nullByte := by
  unfold resolve at h
  split at h
  · exact (Except.error.inj h).symm
  · cases h

theorem isPlace_of_resolve (ht : t.WF) (hp : p.Proper) (h : t.resolve p = .ok place) : t.IsPlace place := by
  obtain ⟨hn, rfl⟩ := resolve_eq_ok.1 h
  exact isPlace_place ht hp hn

theorem IsPlace.resolve_eq (h : t.IsPlace p) : t.resolve p = .ok p :=
  resolve_eq_ok.2 ⟨h.resolved.clean, h.place_eq.symm⟩

/-! ## Following a path -/

theorem throughLink_eq_ok (h : t.throughLink p = .ok q) : q = (t.linkAt? p).getD p := by
  unfold throughLink at h
  cases hlink : t.linkAt? p with
  | none => rw [hlink] at h; cases h; rfl
  | some place =>
    rw [hlink] at h
    cases hw : t.walkBy .ok rootPath place.parts with
    | error fault => simp only [hw] at h; cases h
    | ok reached => simp only [hw] at h; cases h; rfl

/-- A walk of some components leads somewhere exactly if its first step is made in a directory, upwards or
to a name that is not too long, and the rest leads there from what that step leads to. -/
theorem walkBy_cons {jump : Path → Except PathFault Path} :
    t.walkBy jump here (part :: parts) = .ok place ↔ t.entries.get? here = some .directory ∧
      (part = ".." ∧ t.walkBy jump here.parent parts = .ok place ∨
        part ≠ ".." ∧ part.utf8ByteSize ≤ nameLimit ∧
          ∃ next, jump (here.child part) = .ok next ∧ t.walkBy jump next parts = .ok place) := by
  constructor
  · intro h
    rw [walkBy] at h
    split at h
    · cases h
    · rename_i hd
      refine ⟨hd, ?_⟩
      split at h
      · rename_i hup
        exact .inl ⟨by simpa using hup, h⟩
      · rename_i hup
        split at h
        · cases h
        · rename_i hlong
          cases hjump : jump (here.child part) with
          | error fault => rw [hjump] at h; cases h
          | ok next =>
            rw [hjump] at h
            exact .inr ⟨by simpa using hup, Nat.not_lt.1 hlong, next, rfl, h⟩
    · cases h
  · rintro ⟨hd, ⟨rfl, hrest⟩ | ⟨hup, hshort, next, hjump, hrest⟩⟩ <;> rw [walkBy, hd]
    · exact hrest
    · simp only [beq_iff_eq, hup, if_false, if_neg (Nat.not_lt.2 hshort), hjump, hrest]

/-- Walking goes where the components lead. -/
theorem walk_eq : ∀ {parts : List String} {here : Path}, t.walk here parts = .ok place →
    place = parts.foldl t.onward here
  | [], here, h => by rw [walk, walkBy] at h; cases h; rfl
  | part :: parts, here, h => by
    rw [List.foldl_cons, onward]
    obtain ⟨-, ⟨rfl, hrest⟩ | ⟨hup, -, next, hjump, hrest⟩⟩ := walkBy_cons.1 h
    · rw [if_pos (by rfl)]
      exact walk_eq hrest
    · rw [if_neg (by simpa using hup), ← throughLink_eq_ok hjump]
      exact walk_eq hrest

theorem follow_eq_ok : t.follow p = .ok place ↔ p.hasNull = false ∧
    p.text.utf8ByteSize ≤ pathLimit ∧ t.walk rootPath p.parts = .ok place := by
  unfold follow
  split_ifs with hn hl
  · simp [hn]
  · simp only [false_iff, not_and]
    exact fun _ hle => absurd hle (Nat.not_le.2 hl)
  · cases t.walk rootPath p.parts <;> simp [Except.mapError, hn, Nat.not_lt.1 hl]

/-- A path that can be followed leads to the place that it means. -/
theorem follow_eq_place (h : t.follow p = .ok place) : place = t.place p :=
  walk_eq (follow_eq_ok.1 h).2.2

theorem isPlace_of_follow (ht : t.WF) (hp : p.Proper) (h : t.follow p = .ok place) : t.IsPlace place := by
  obtain rfl := follow_eq_place h
  exact isPlace_place ht hp (follow_eq_ok.1 h).1

/-- What a path leads to, if there is anything, stands at the place that it means. -/
theorem look_eq_some {e : Entry} (h : t.look p = .ok (some e)) :
    t.follow p = .ok (t.place p) ∧ t.entries.get? (t.place p) = some e := by
  unfold look at h
  split at h
  · rename_i place hf
    obtain rfl := follow_eq_place hf
    exact ⟨hf, by simpa using h⟩
  · cases h
  · cases h

theorem look_of_follow {e? : Option Entry} (hf : t.follow p = .ok place)
    (he : t.entries.get? place = e?) : t.look p = .ok e? := by
  rw [look, hf, ← he]

/-- A path is looked at in vain only for its length. -/
theorem look_error {e : Error} (h : t.look p = .error e) : ∃ q, e = .path q .nameTooLong := by
  unfold look at h
  split at h
  · cases h
  · cases h
    exact ⟨_, rfl⟩
  · cases h

/-- A directory is surveyed in vain only for the length of a path. -/
theorem survey_error {directory : Path} {e : Error} (h : t.survey directory = .error e) :
    ∃ q, e = .path q .nameTooLong := by
  unfold survey at h
  generalize directory :: t.pathsBelow directory = ps at h
  induction ps with
  | nil => cases h
  | cons p ps ih =>
    change ((t.look p).map fun _ => ()) >>= (fun _ => ps.forM _) = _ at h
    cases hlook : t.look p with
    | error e' =>
      rw [hlook] at h
      cases h
      exact look_error hlook
    | ok found =>
      rw [hlook] at h
      exact ih h

/-- A directory that cannot be looked at cannot be surveyed. -/
theorem survey_of_look {directory : Path} {e : Error} (h : t.look directory = .error e) :
    t.survey directory = .error e := by
  show ((t.look directory).map fun _ => ()) >>= (fun _ => (t.pathsBelow directory).forM _) = _
  rw [h]
  rfl

end RtlAtlas.FileTree
