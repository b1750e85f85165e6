/-
What operations on databases do to a tree of files. The paths of a tree stay resolved and have one
entry each, its links lead to places (`WF`), and no database appears in a tree but blank ones and the
one that was saved.
-/
import RtlAtlas.Proofs.FileTree.Place
import RtlAtlas.Proofs.Order
import RtlAtlas.Store.Storage

namespace RtlAtlas.FileTree

open OrderedMap RtlAtlas.Path

/-- A database lies somewhere in a tree. -/
def Holds (t : FileTree) (d : Database) : Prop := ∃ p, t.entries.get? p = some (.database d)

/-- A tree that came of another one without a database of its own but blank ones. -/
structure Keeps (t t' : FileTree) : Prop where
  wf : t.WF → t'.WF
  holds : ∀ d, t'.Holds d → t.Holds d ∨ d = .empty

variable {t t' t'' : FileTree} {p place : Path} {e : Entry}

theorem Keeps.refl (t : FileTree) : Keeps t t := ⟨id, fun _ => Or.inl⟩

theorem Keeps.trans (h : Keeps t t') (h' : Keeps t' t'') : Keeps t t'' :=
  ⟨fun hw => h'.wf (h.wf hw), fun d hd => (h'.holds d hd).elim (h.holds d) Or.inr⟩

/-! ## Putting an entry -/

/-- What directories are made for was there, or is a directory now. -/
theorem get?_makeDirs (q : Path) : ∀ (as : List Path) (es : OrderedMap Path Entry),
    (as.foldl (fun es a => es.insertNew a .directory) es).get? q = es.get? q ∨
      es.get? q = none ∧
        (as.foldl (fun es a => es.insertNew a .directory) es).get? q = some .directory
  | [], es => .inl rfl
  | a :: as, es => by
    have hone : (es.insertNew a .directory).get? q = es.get? q ∨
        es.get? q = none ∧ (es.insertNew a .directory).get? q = some .directory := by
      rw [get?_insertNew]
      split
      · rename_i hqa
        subst hqa
        cases es.get? q with
        | none => exact .inr ⟨rfl, rfl⟩
        | some x => exact .inl rfl
      · exact .inl rfl
    rcases get?_makeDirs q as (es.insertNew a .directory) with hrest | ⟨hnone, hrest⟩
    · rcases hone with hone | ⟨hnone, hone⟩
      · exact .inl (hrest.trans hone)
      · exact .inr ⟨hnone, hrest.trans hone⟩
    · rcases hone with hone | ⟨-, hone⟩
      · exact .inr ⟨hone ▸ hnone, hrest⟩
      · rw [hone] at hnone
        cases hnone

theorem get?_putAt_self (t : FileTree) (place : Path) (e : Entry) :
    (t.putAt place e).entries.get? place = some e := by
  show ((t.makeParents place).entries.insert place e).get? _ = _
  rw [get?_insert, if_pos rfl]

/-- What stands elsewhere stays when an entry is put; what was missing may be a directory now. -/
theorem get?_putAt_of_ne {q : Path} (hne : q ≠ place) (e : Entry) :
    (t.putAt place e).entries.get? q = t.entries.get? q ∨
      t.entries.get? q = none ∧ (t.putAt place e).entries.get? q = some .directory := by
  have hget : (t.putAt place e).entries.get? q = (t.makeParents place).entries.get? q := by
    show ((t.makeParents place).entries.insert place e).get? q = _
    rw [get?_insert, if_neg hne]
  rw [hget]
  exact get?_makeDirs q _ _

/-- Putting an entry moves no link but one that it takes the place of. -/
theorem linkAt?_putAt (t : FileTree) (place : Path) (e : Entry) (q : Path) :
    (t.putAt place e).linkAt? q = if q = place then e.target? else t.linkAt? q := by
  split
  · rename_i h
    rw [h, linkAt?, get?_putAt_self]
    rfl
  · rename_i hne
    unfold linkAt?
    rcases get?_putAt_of_ne (t := t) hne e with h | ⟨hnone, h⟩
    · rw [h]
    · rw [h, hnone]
      rfl

theorem keys_putAt {q : Path} (h : q ∈ (t.putAt place e).entries.keys) :
    q = place ∨ q ∈ ancestors place ∨ q ∈ t.entries.keys := by
  have hdirs : ∀ (as : List Path) (es : OrderedMap Path Entry),
      q ∈ (as.foldl (fun es a => es.insertNew a .directory) es).keys → q ∈ as ∨ q ∈ es.keys := by
    intro as
    induction as with
    | nil => exact fun es hq => .inr hq
    | cons a as ih =>
      intro es hq
      rcases ih _ hq with hq | hq
      · exact .inl (List.mem_cons_of_mem _ hq)
      · rw [keys_insertNew] at hq
        split at hq
        · exact .inr hq
        · rcases List.mem_append.1 hq with hq | hq
          · exact .inr hq
          · rw [List.mem_singleton.1 hq]
            exact .inl List.mem_cons_self
  rcases mem_keys_insert.1 h with h | h
  · exact .inl h
  · exact .inr (hdirs _ _ h)

theorem unique_putAt (h : t.entries.Unique) (place : Path) (e : Entry) :
    (t.putAt place e).entries.Unique := by
  have hdirs : ∀ (as : List Path) (es : OrderedMap Path Entry), es.Unique →
      (as.foldl (fun es a => es.insertNew a .directory) es).Unique := by
    intro as
    induction as with
    | nil => exact fun _ hu => hu
    | cons a as ih => exact fun es hu => ih _ (hu.insertNew a _)
  exact (hdirs _ _ h).insert _ _

/-- An entry that is no link can be put at every resolved path. -/
theorem WF.putAt (h : t.WF) (hp : place.Resolved) (he : e.target? = none) : (t.putAt place e).WF := by
  have hlink : ∀ q, t.linkAt? q = none → (t.putAt place e).linkAt? q = none := fun q hq => by
    rw [linkAt?_putAt, hq, he]
    exact ite_self _
  refine ⟨unique_putAt h.unique place e, fun q hq => ?_, hlink _ h.root, fun a _ q hq => ?_⟩
  · rcases keys_putAt hq with rfl | hq | hq
    · exact hp
    · exact resolved_of_mem_ancestors hp hq
    · exact h.resolved q hq
  · rw [linkAt?_putAt] at hq
    split at hq
    · rw [he] at hq
      cases hq
    · have hplace := h.isPlace_of_link hq
      exact ⟨hplace.resolved, hplace.clear.mono hlink⟩

theorem holds_putAt {d : Database} (h : (t.putAt place e).Holds d) : e = .database d ∨ t.Holds d := by
  obtain ⟨q, hq⟩ := h
  by_cases hne : q = place
  · rw [hne, get?_putAt_self] at hq
    exact .inl (Option.some.inj hq)
  · rcases get?_putAt_of_ne (t := t) hne e with hget | ⟨-, hget⟩
    · exact .inr ⟨q, hget ▸ hq⟩
    · rw [hget] at hq
      cases hq

theorem not_holds_empty (d : Database) : ¬FileTree.empty.Holds d := by
  rintro ⟨p, hp⟩
  rw [FileTree.empty, get?_insert] at hp
  split at hp <;> cases hp

/-- A tree without databases has none after something else was put into it. -/
theorem not_holds_put (he : ∀ d, e ≠ .database d) (h : ∀ d, ¬t.Holds d) (d : Database) :
    ¬(t.put p e).Holds d := fun hd => (holds_putAt hd).elim (he d) (h d)

theorem WF.put (h : t.WF) (hp : p.Resolved) (he : e.target? = none) : (t.put p e).WF := by
  unfold FileTree.put
  rw [plain_of_resolved hp]
  exact h.putAt hp he

theorem keeps_putAt (hp : t.WF → place.Resolved) (he : e.target? = none)
    (hd : ∀ d, e = .database d → d = .empty) : Keeps t (t.putAt place e) :=
  ⟨fun h => h.putAt (hp h) he, fun d h => (holds_putAt h).elim (fun h => .inr (hd d h)) .inl⟩

/-! ## Making directories and opening databases -/

/-- A directory is made at the place that its path leads to, unless one is there. -/
theorem makeInside_eq_ok (h : t.makeInside p = .ok t') : t.follow p = .ok (t.place p) ∧
    (t.entries.get? (t.place p) = none ∧ t' = t.putAt (t.place p) .directory ∨
      t.entries.get? (t.place p) = some .directory ∧ t' = t) := by
  unfold makeInside at h
  split at h
  · cases h
  · cases hf : t.follow p with
    | error e => rw [hf] at h; cases h
    | ok place =>
      obtain rfl := follow_eq_place hf
      rw [hf] at h
      simp only [bind, Except.bind] at h
      refine ⟨rfl, ?_⟩
      split at h
      · rename_i hnone
        cases h
        exact .inl ⟨hnone, rfl⟩
      · rename_i hdirectory
        cases h
        exact .inr ⟨hdirectory, rfl⟩
      · cases h

theorem keeps_makeInside (hp : p.Proper) (h : t.makeInside p = .ok t') : Keeps t t' := by
  obtain ⟨hf, ⟨-, rfl⟩ | ⟨-, rfl⟩⟩ := makeInside_eq_ok h
  · exact keeps_putAt (fun ht => (isPlace_of_follow ht hp hf).resolved) rfl fun d hd => by cases hd
  · exact Keeps.refl t'

theorem keeps_makeDirectories (t : FileTree) (p : Path) (hp : p.Proper) :
    Keeps t (t.makeDirectories p).2 := by
  fun_induction makeDirectories t p with
  | case1 p t' h => exact keeps_makeInside hp h
  | case2 => exact Keeps.refl t
  | case3 p q h hne e t' hrec ih => rw [hrec] at ih; exact ih hp.parent
  | case4 p q h hne t' hrec t'' h' ih =>
    rw [hrec] at ih
    exact (ih hp.parent).trans (keeps_makeInside hp h')
  | case5 p q h hne t' hrec e h' ih => rw [hrec] at ih; exact ih hp.parent
  | case6 => exact Keeps.refl t

theorem keeps_openDatabaseAt (hp : t.WF → place.Resolved) : Keeps t (t.openDatabaseAt place).2 := by
  have hput : Keeps t (t.putAt place (.database .empty)) :=
    keeps_putAt hp rfl fun d hd => by cases hd; rfl
  unfold openDatabaseAt
  split
  · exact hput
  · exact Keeps.refl t
  · split
    · exact hput
    · exact Keeps.refl t
  · exact Keeps.refl t

theorem keeps_openDatabase (hp : p.Proper) (t : FileTree) : Keeps t (t.openDatabase p).2 := by
  have hdirs := keeps_makeDirectories t p.parent hp.parent
  unfold openDatabase
  split
  · rename_i h; rw [h] at hdirs; exact hdirs
  · rename_i t' h
    rw [h] at hdirs
    split
    · exact hdirs
    · split
      · exact hdirs
      · split
        · exact hdirs
        · rename_i place hf
          exact hdirs.trans (keeps_openDatabaseAt fun ht => (isPlace_of_follow ht hp hf).resolved)

/-- A database that was opened lay in the tree or is blank, and its path holds no NUL character. -/
theorem of_openDatabase {d : Database} (hp : p.Proper) (h : t.openDatabase p = (.ok d, t')) :
    p.hasNull = false ∧ (t.Holds d ∨ d = .empty) := by
  have hdirs := keeps_makeDirectories t p.parent hp.parent
  unfold openDatabase at h
  split at h
  · cases h
  · rename_i u hu
    rw [hu] at hdirs
    split at h
    · cases h
    · rename_i hn
      split at h
      · cases h
      · split at h
        · cases h
        · rename_i place hf
          refine ⟨by simpa using hn, ?_⟩
          -- a path without a file opens as a blank database, and so does a file of one byte or none
          unfold openDatabaseAt at h
          split at h
          · cases h; exact Or.inr rfl
          · rename_i d' hd
            cases h
            exact hdirs.holds d ⟨place, hd⟩
          · split at h
            · cases h; exact Or.inr rfl
            · cases h
          · cases h

/-! ## Saving and loading -/

/-- Saving brings no database into a tree but blank ones and the saved one. -/
theorem of_saveSnapshot (hp : p.Proper) (t : FileTree) (time : String) (s : Snapshot) :
    (t.WF → (t.saveSnapshot p time s).2.WF) ∧ ∀ d, (t.saveSnapshot p time s).2.Holds d →
      t.Holds d ∨ d = .empty ∨ ∃ old, d = s.replace time old := by
  have hopen := keeps_openDatabase hp t
  unfold saveSnapshot
  split
  · rename_i h
    rw [h] at hopen
    exact ⟨hopen.wf, fun d hd => (hopen.holds d hd).imp_right Or.inl⟩
  · rename_i old t' h
    rw [h] at hopen
    have hsame : (t.WF → t'.WF) ∧ ∀ d, t'.Holds d →
        t.Holds d ∨ d = .empty ∨ ∃ old, d = s.replace time old :=
      ⟨hopen.wf, fun d hd => (hopen.holds d hd).imp_right Or.inl⟩
    split
    · unfold putDatabase
      split
      · rename_i place hf
        refine ⟨fun hw => ?_, fun d hd => ?_⟩
        · -- The database stands where following its path ends, a place of the opened tree.
          exact (hopen.wf hw).putAt (isPlace_of_follow (hopen.wf hw) hp hf).resolved rfl
        · rcases holds_putAt hd with hd | hd
          · cases hd; exact Or.inr (Or.inr ⟨old, rfl⟩)
          · exact hsame.2 d hd
      · exact hsame
    · exact hsame

theorem keeps_loadSnapshot (hp : p.Proper) (t : FileTree) : Keeps t (t.loadSnapshot p).2 := by
  have hopen := keeps_openDatabase hp t
  unfold loadSnapshot
  split
  · exact Keeps.refl t
  · exact Keeps.refl t
  · split
    · rename_i h; rw [h] at hopen; exact hopen
    · rename_i h; rw [h] at hopen; exact hopen

/-- A snapshot is loaded from a database of the tree. -/
theorem exists_of_loadSnapshot {s : Snapshot} (hp : p.Proper) (h : t.loadSnapshot p = (.ok s, t')) :
    ∃ d, t.Holds d ∧ d.snapshot = .ok s := by
  unfold loadSnapshot at h
  split at h
  · cases h
  · cases h
  · split at h
    · cases h
    · rename_i d u hu
      cases hs : d.snapshot with
      | error e => rw [hs] at h; cases h
      | ok s' =>
        rw [hs] at h
        cases h
        rcases (of_openDatabase hp hu).2 with hd | rfl
        · exact ⟨d, hd, hs⟩
        · cases hs

/-! ## The files below a directory -/

theorem eq_of_isWithin {p base : Path} (h : isWithin p base = true) :
    p = { base with parts := base.parts ++ p.parts.drop base.parts.length } := by
  simp only [isWithin, Bool.and_eq_true, beq_iff_eq, List.isPrefixOf_iff_prefix] at h
  obtain ⟨hanchor, rest, hparts⟩ := h
  obtain ⟨anchor, parts⟩ := p
  subst hanchor hparts
  simp

theorem mem_pathsBelow {directory f : Path} (hf : f ∈ t.pathsBelow directory) :
    ∃ p ∈ t.entries.keys, isWithin p (t.place directory) = true ∧
      f = { directory with
        parts := directory.parts ++ p.parts.drop (t.place directory).parts.length } := by
  obtain ⟨p, hp, rfl⟩ := List.mem_map.1 hf
  obtain ⟨hkey, hbelow⟩ := List.mem_filter.1 hp
  rw [Bool.and_eq_true] at hbelow
  exact ⟨p, hkey, hbelow.1, rfl⟩

theorem nodup_pathsBelow (h : t.WF) (directory : Path) : (t.pathsBelow directory).Nodup := by
  refine List.Nodup.map_on ?_ (h.unique.filter _)
  intro p hp q hq heq
  have hwithin : ∀ {a : Path}, a ∈ t.entries.keys.filter (fun p =>
      isWithin p (t.place directory) && p != t.place directory) →
      isWithin a (t.place directory) = true := fun ha =>
    (Bool.and_eq_true_iff.1 (List.mem_filter.1 ha).2).1
  -- below the same place, what comes behind it tells paths apart
  have hrest := List.append_cancel_left (Path.mk.inj heq).2
  rw [eq_of_isWithin (hwithin hp), eq_of_isWithin (hwithin hq), hrest]

theorem nodup_filesBelow (h : t.WF) (directory : Path) : (t.filesBelow directory).Nodup := by
  unfold filesBelow
  split
  · exact (perm_sortByParts _).nodup_iff.2 ((nodup_pathsBelow h directory).filter _)
  · exact List.nodup_nil

/-- The files below a settled directory stand at the paths that are told. -/
theorem mem_keys_of_mem_filesBelow {directory f : Path} (hd : t.Settled directory)
    (hf : f ∈ t.filesBelow directory) : f ∈ t.entries.keys := by
  unfold filesBelow at hf
  split at hf
  · obtain ⟨p, hp, hwithin, rfl⟩ := mem_pathsBelow (List.mem_filter.1 (mem_sortByParts.1 hf)).1
    rw [hd.place_eq] at hwithin ⊢
    rwa [← eq_of_isWithin hwithin]
  · cases hf

theorem resolved_of_mem_filesBelow (h : t.WF) {directory f : Path} (hd : directory.Resolved)
    (hf : f ∈ t.filesBelow directory) : f.Resolved := by
  unfold filesBelow at hf
  split at hf
  · obtain ⟨p, hp, -, rfl⟩ := mem_pathsBelow (List.mem_filter.1 (mem_sortByParts.1 hf)).1
    have hrest : ∀ part ∈ p.parts.drop (t.place directory).parts.length, part ∈ p.parts :=
      fun part => List.mem_of_mem_drop
    have hr := h.resolved p hp
    refine ⟨hd.anchor, fun part hpart => ?_, fun hup => ?_, ?_⟩
    · exact (List.mem_append.1 hpart).elim (hd.proper part) fun hm => hr.proper part (hrest part hm)
    · exact (List.mem_append.1 hup).elim hd.plain fun hm => hr.plain (hrest _ hm)
    · have hclean := hr.clean
      have hdclean := hd.clean
      unfold Path.hasNull at hclean hdclean ⊢
      rw [List.any_append, hdclean, Bool.false_or, List.any_eq_false]
      exact fun part hm => List.any_eq_false.1 hclean part (hrest part hm)
  · cases hf

end RtlAtlas.FileTree
