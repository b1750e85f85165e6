/-
A database that was opened stands where its path leads, and is opened there again (`Opens`): what is
put at the end of a path leaves the directories on the way as they are, so the path is followed as
before. From this follows what a load finds after a save, and that loading leaves the tree alone.
-/
import RtlAtlas.Proofs.FileTree

namespace RtlAtlas.FileTree

open OrderedMap RtlAtlas.Path

variable {t u : FileTree} {p q place : Path}

/-! ## Trees that have grown -/

/-- Every directory of a tree is one of another tree too, and the same links stand in both. -/
structure Grows (t u : FileTree) : Prop where
  directories : ∀ q, t.entries.get? q = some .directory → u.entries.get? q = some .directory
  links : ∀ q, u.linkAt? q = t.linkAt? q

theorem Grows.walkBy (h : t.Grows u) {jump jump' : Path → Except PathFault Path}
    (hjump : ∀ p q, jump p = .ok q → jump' p = .ok q) : ∀ {parts : List String} {here : Path},
    t.walkBy jump here parts = .ok place → u.walkBy jump' here parts = .ok place
  | [], here, hw => by rw [FileTree.walkBy] at hw ⊢; exact hw
  | part :: parts, here, hw => by
    obtain ⟨hd, ⟨hup, hrest⟩ | ⟨hup, hshort, next, hnext, hrest⟩⟩ := walkBy_cons.1 hw
    · exact walkBy_cons.2 ⟨h.directories here hd, .inl ⟨hup, h.walkBy hjump hrest⟩⟩
    · exact walkBy_cons.2
        ⟨h.directories here hd, .inr ⟨hup, hshort, next, hjump _ _ hnext, h.walkBy hjump hrest⟩⟩

theorem Grows.throughLink (h : t.Grows u) (hp : t.throughLink p = .ok q) : u.throughLink p = .ok q := by
  unfold FileTree.throughLink at hp ⊢
  rw [h.links]
  cases hlink : t.linkAt? p with
  | none => rw [hlink] at hp; exact hp
  | some target =>
    rw [hlink] at hp
    cases hw : t.walkBy .ok rootPath target.parts with
    | error fault => simp only [hw] at hp; cases hp
    | ok reached =>
      simp only [hw] at hp
      simp only [h.walkBy (fun _ _ => id) hw]
      exact hp

/-- A path that can be followed is followed to the same place when directories are added. -/
theorem Grows.follow (h : t.Grows u) (hf : t.follow p = .ok place) : u.follow p = .ok place := by
  obtain ⟨hn, hl, hw⟩ := follow_eq_ok.1 hf
  exact follow_eq_ok.2 ⟨hn, hl, h.walkBy (fun _ _ => h.throughLink) hw⟩

theorem Grows.look_directory (h : t.Grows u) (hp : t.look p = .ok (some .directory)) :
    u.look p = .ok (some .directory) := by
  obtain ⟨hf, hd⟩ := look_eq_some hp
  exact look_of_follow (h.follow hf) (h.directories _ hd)

/-- A tree grows when something is put where there is neither a directory nor a link. -/
theorem grows_putAt {e : Entry} (hplace : t.entries.get? place ≠ some .directory)
    (hlink : t.linkAt? place = none) (he : e.target? = none) : t.Grows (t.putAt place e) where
  directories := fun q hq => by
    have hne : q ≠ place := by
      rintro rfl
      exact hplace hq
    rcases get?_putAt_of_ne (t := t) hne e with h | ⟨-, h⟩
    · exact h.trans hq
    · exact h
  links := fun q => by
    rw [linkAt?_putAt]
    split
    · rename_i h
      rw [h, hlink, he]
    · rfl

/-! ## Making directories -/

/-- A directory that was made inside another one is there. -/
theorem look_of_makeInside (h : t.makeInside p = .ok u) : u.look p = .ok (some .directory) := by
  obtain ⟨hf, ⟨hnone, rfl⟩ | ⟨hd, rfl⟩⟩ := makeInside_eq_ok h
  · have hlink : t.linkAt? (t.place p) = none := by rw [linkAt?, hnone]; rfl
    have hgrows : t.Grows (t.putAt (t.place p) .directory) := grows_putAt (by rw [hnone]; simp) hlink rfl
    exact look_of_follow (hgrows.follow hf) (get?_putAt_self t _ _)
  · exact look_of_follow hf hd

/-- After the directories of a path were made the path leads to a directory. -/
theorem look_of_makeDirectories (t : FileTree) (p : Path) (h : (t.makeDirectories p).1 = .ok ()) :
    (t.makeDirectories p).2.look p = .ok (some .directory) := by
  revert h
  fun_cases makeDirectories t p with
  | case1 t' hin => exact fun _ => look_of_makeInside hin
  | case2 => intro h; cases h
  | case3 q hin hne e t' hrec => intro h; cases h
  | case4 q hin hne t' hrec t'' hin' => exact fun _ => look_of_makeInside hin'
  | case5 q hin hne t' hrec e hin' => intro h; cases h
  | case6 => intro h; cases h

/-- Nothing is made where a directory stands. -/
theorem makeDirectories_of_directory (h : t.look p = .ok (some .directory)) :
    t.makeDirectories p = (.ok (), t) := by
  obtain ⟨hf, hd⟩ := look_eq_some h
  have hin : t.makeInside p = .ok t := by
    unfold makeInside
    rw [isDirectory, h, Bool.not_true, Bool.and_false, if_neg Bool.false_ne_true, hf]
    simp only [bind, Except.bind, hd]
    rfl
  unfold makeDirectories
  rw [hin]

/-! ## Databases in their places -/

/-- A database that stands at the end of a path, in a directory, so that the path opens it. -/
structure Opens (t : FileTree) (p : Path) (d : Database) : Prop where
  clean : p.hasNull = false
  short : p.text.utf8ByteSize ≤ databasePathLimit
  above : t.look p.parent = .ok (some .directory)
  found : t.look p = .ok (some (.database d))

variable {d d' : Database}

/-- A database that is put where a path leads is opened there, if the directory was. -/
theorem opens_putAt (hclean : p.hasNull = false) (hshort : p.text.utf8ByteSize ≤ databasePathLimit)
    (habove : t.look p.parent = .ok (some .directory)) (hf : t.follow p = .ok place)
    (hplace : t.entries.get? place ≠ some .directory) (hlink : t.linkAt? place = none) (d : Database) :
    (t.putAt place (.database d)).Opens p d := by
  have hgrows : t.Grows (t.putAt place (.database d)) := grows_putAt hplace hlink rfl
  exact ⟨hclean, hshort, hgrows.look_directory habove,
    look_of_follow (hgrows.follow hf) (get?_putAt_self t _ _)⟩

/-- Opening a database that is there changes nothing. -/
theorem Opens.openDatabase (h : t.Opens p d) : t.openDatabase p = (.ok d, t) := by
  obtain ⟨hf, hd⟩ := look_eq_some h.found
  have hlong : ¬databasePathLimit < p.text.utf8ByteSize := Nat.not_lt.2 h.short
  unfold FileTree.openDatabase
  rw [makeDirectories_of_directory h.above]
  simp only [h.clean, Bool.false_eq_true, if_false, if_neg hlong, hf]
  unfold openDatabaseAt
  rw [hd]

theorem Opens.put (h : t.Opens p d) (d' : Database) : (t.putDatabase p d').Opens p d' := by
  obtain ⟨hf, hd⟩ := look_eq_some h.found
  unfold putDatabase
  rw [hf]
  exact opens_putAt h.clean h.short h.above hf (by rw [hd]; simp) (linkAt?_eq_none_of_entry hd rfl) d'

/-- Whatever was opened stands at the end of its path from then on. -/
theorem opens_of_openDatabase (h : t.openDatabase p = (.ok d, u)) : u.Opens p d := by
  have hdirs := look_of_makeDirectories t p.parent
  unfold openDatabase at h
  split at h
  · cases h
  · rename_i t' hmade
    rw [hmade] at hdirs
    have habove : t'.look p.parent = .ok (some .directory) := hdirs rfl
    by_cases hn : p.hasNull = true
    · rw [if_pos hn] at h; cases h
    by_cases hl : databasePathLimit < p.text.utf8ByteSize
    · rw [if_neg hn, if_pos hl] at h; cases h
    rw [if_neg hn, if_neg hl] at h
    have hclean : p.hasNull = false := by simpa using hn
    have hshort : p.text.utf8ByteSize ≤ databasePathLimit := Nat.not_lt.1 hl
    cases hf : t'.follow p with
    | error e => rw [hf] at h; cases h
    | ok place =>
      rw [hf] at h
      simp only at h
      -- a path without a database, or with next to nothing in its file, gets an empty one
      unfold openDatabaseAt at h
      split at h
      · rename_i hnone
        cases h
        have hlink : t'.linkAt? place = none := by rw [linkAt?, hnone]; rfl
        exact opens_putAt hclean hshort habove hf (by rw [hnone]; simp) hlink _
      · rename_i d' hdb
        cases h
        exact ⟨hclean, hshort, habove, look_of_follow hf hdb⟩
      · rename_i bytes hfile
        split at h
        · cases h
          exact opens_putAt hclean hshort habove hf (by rw [hfile]; simp)
            (linkAt?_eq_none_of_entry hfile rfl) _
        · cases h
      · cases h

/-! ## Opening what is there -/

/-- On the way to the last component of a path stands a directory. -/
theorem walk_dropLast : ∀ {parts : List String} {here : Path}, parts ≠ [] →
    t.walk here parts = .ok place →
    ∃ above, t.walk here parts.dropLast = .ok above ∧ t.entries.get? above = some .directory
  | [part], here, _, h => ⟨here, by rw [List.dropLast_singleton, walk, walkBy], (walkBy_cons.1 h).1⟩
  | part :: next :: parts, here, _, h => by
    rw [List.dropLast_cons_of_ne_nil (List.cons_ne_nil _ _)]
    obtain ⟨hd, ⟨hup, hrest⟩ | ⟨hup, hshort, on, hon, hrest⟩⟩ := walkBy_cons.1 h
    · obtain ⟨above, hwalk, habove⟩ := walk_dropLast (List.cons_ne_nil _ _) hrest
      exact ⟨above, walkBy_cons.2 ⟨hd, .inl ⟨hup, hwalk⟩⟩, habove⟩
    · obtain ⟨above, hwalk, habove⟩ := walk_dropLast (List.cons_ne_nil _ _) hrest
      exact ⟨above, walkBy_cons.2 ⟨hd, .inr ⟨hup, hshort, on, hon, hwalk⟩⟩, habove⟩

/-- Above a path that can be followed is a directory, unless its path is too long. -/
theorem look_parent (hf : t.follow p = .ok place) (hp : p.parts ≠ []) :
    t.look p.parent = .ok (some .directory) ∨
      t.follow p.parent = .error (.path p.parent .nameTooLong) := by
  obtain ⟨hn, -, hw⟩ := follow_eq_ok.1 hf
  obtain ⟨above, hwalk, hd⟩ := walk_dropLast hp hw
  have hclean : p.parent.hasNull = false := by
    unfold hasNull at hn ⊢
    rw [List.any_eq_false] at hn ⊢
    exact fun part hpart => hn part (List.dropLast_subset _ hpart)
  by_cases hl : p.parent.text.utf8ByteSize ≤ pathLimit
  · exact .inl (look_of_follow (follow_eq_ok.2 ⟨hclean, hl, hwalk⟩) hd)
  · right
    unfold follow
    rw [if_neg (by rw [hclean]; decide), if_pos (Nat.not_le.1 hl)]

/-- Where something stands, or the path is too long, no directory is made. -/
theorem makeDirectories_same {e : Entry}
    (hthere : t.look p = .ok (some e) ∨ t.follow p = .error (.path p .nameTooLong))
    (h : t.makeDirectories p = (.ok (), u)) : u = t := by
  by_cases hd : t.look p = .ok (some .directory)
  · rw [makeDirectories_of_directory hd] at h
    cases h
    rfl
  · -- What stands at the name is not a missing parent, so no parent is made for it.
    have hin : ∃ fault, fault ≠ .missing ∧ t.makeInside p = .error (.path p fault) := by
      unfold makeInside
      split
      · exact ⟨.occupied, by simp, rfl⟩
      · rcases hthere with hthere | hlong
        · obtain ⟨hf, he⟩ := look_eq_some hthere
          rw [hf]
          simp only [bind, Except.bind, he]
          cases e with
          | directory => exact absurd hthere hd
          | file bytes => exact ⟨.occupied, by simp, rfl⟩
          | database d => exact ⟨.occupied, by simp, rfl⟩
          | link target => exact ⟨.occupied, by simp, rfl⟩
        · rw [hlong]
          exact ⟨.nameTooLong, by simp, rfl⟩
    obtain ⟨fault, hfault, hin⟩ := hin
    unfold makeDirectories at h
    rw [hin] at h
    cases fault with
    | missing => exact absurd rfl hfault
    | _ => cases h

/-- Where something stands, a database that opens is blank or stands there, and opening it changes
nothing. -/
theorem opens_of_look {e : Entry} (hl : t.look p = .ok (some e)) (h : t.openDatabase p = (.ok d, u)) :
    d = .empty ∨ u = t ∧ t.Opens p d := by
  obtain ⟨hfollow, hthere⟩ := look_eq_some hl
  have hopens := opens_of_openDatabase h
  unfold openDatabase at h
  split at h
  · cases h
  · rename_i t' hmade
    have hsame : t' = t := by
      by_cases hp : p.parts = []
      · -- the root is its own parent
        have hparent : p.parent = p := by
          unfold parent
          rw [hp]
          obtain ⟨anchor, parts⟩ := p
          obtain rfl : parts = [] := hp
          rfl
        rw [hparent] at hmade
        exact makeDirectories_same (.inl hl) hmade
      · exact makeDirectories_same (e := .directory) (look_parent hfollow hp) hmade
    subst hsame
    split_ifs at h
    · cases h
    · cases h
    · rw [hfollow] at h
      simp only at h
      unfold openDatabaseAt at h
      rw [hthere] at h
      cases e with
      | directory => cases h
      | file bytes =>
        simp only at h
        split at h
        · cases h; exact .inl rfl
        · cases h
      | database d' => cases h; exact .inr ⟨rfl, hopens⟩
      | link target => cases h

/-! ## Saving and loading -/

/-- What is saved stands at the end of its path. -/
theorem opens_of_saveSnapshot {time : String} {s : Snapshot}
    (h : t.saveSnapshot p time s = (.ok (), u)) : ∃ old, u.Opens p (s.replace time old) := by
  unfold saveSnapshot at h
  cases hopen : t.openDatabase p with
  | mk reply t' =>
    rw [hopen] at h
    cases reply with
    | error e => cases h
    | ok old =>
      simp only at h
      split at h
      · cases h
        exact ⟨old, (opens_of_openDatabase hopen).put _⟩
      · cases h

/-- A load reads the database that stands at the end of the path, and leaves the tree alone. -/
theorem Opens.loadSnapshot (h : t.Opens p d) :
    t.loadSnapshot p = (d.snapshot.mapError (.store p), t) := by
  unfold FileTree.loadSnapshot
  rw [h.found]
  simp only [h.openDatabase]

/-- A load that succeeds finds the database at the end of its path and leaves the tree alone. -/
theorem opens_of_loadSnapshot {s : Snapshot} (h : t.loadSnapshot p = (.ok s, u)) :
    u = t ∧ ∃ d, t.Opens p d ∧ d.snapshot = .ok s := by
  unfold loadSnapshot at h
  split at h
  · cases h
  · cases h
  · rename_i e hl
    cases ho : t.openDatabase p with
    | mk reply t' =>
      rw [ho] at h
      cases reply with
      | error fault => cases h
      | ok d =>
        cases hs : d.snapshot with
        | error fault => simp only [hs] at h; cases h
        | ok found =>
          simp only [hs] at h
          cases h
          rcases opens_of_look hl ho with rfl | ⟨rfl, hopens⟩
          · cases hs
          · exact ⟨rfl, d, hopens, hs⟩

end RtlAtlas.FileTree
