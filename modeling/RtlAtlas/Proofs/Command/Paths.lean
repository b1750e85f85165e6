/-
The paths that reach a command. Whatever is written on a command line, the paths of the command that
it makes are such as a text writes and hold no NUL character, so they mean places; so is
the place where the settings of a directory let its index be saved.
-/
import RtlAtlas.Command.Run
import RtlAtlas.Proofs.FileTree.Place
import RtlAtlas.Proofs.Result

namespace RtlAtlas

open RtlAtlas.Path

/-! ## Settings -/

namespace Path

theorem Proper.join {p q : Path} (hp : p.Proper) (hq : q.Proper) : (p.join q).Proper := by
  unfold Path.join
  split
  · exact hq
  · intro part h
    exact (List.mem_append.1 h).elim (hp part) (hq part)

theorem Proper.child {p : Path} (hp : p.Proper) {part : String} (h : IsPart part) :
    (p.child part).Proper := by
  intro x hx
  rcases List.mem_append.1 hx with hx | hx
  · exact hp x hx
  · exact List.mem_singleton.1 hx ▸ h

theorem hasNull_join {p q : Path} (hp : p.hasNull = false) (hq : q.hasNull = false) :
    (p.join q).hasNull = false := by
  unfold Path.join
  unfold hasNull at *
  split
  · exact hq
  · simp only [List.any_append, hp, hq, Bool.or_self]

/-- An absolute path that a proper one means in a resolved directory. -/
theorem resolved_resolve {directory p : Path} (hd : directory.Resolved) (hp : p.Proper)
    (hn : p.hasNull = false) : (Path.resolve directory p).Resolved where
  anchor := rfl
  proper := fun part h => hd.proper.join hp part (mem_fold h).1
  plain := fun h => (mem_fold h).2 rfl
  clean := by
    have hclean := hasNull_join hd.clean hn
    unfold hasNull at hclean ⊢
    rw [List.any_eq_false] at hclean ⊢
    exact fun part h => hclean part (mem_fold h).1

end Path

namespace Config

theorem proper_pathAt {entries : List (String × Toml)} {key : String} {root : Path}
    (hroot : root.Proper) {found : Option Path} (h : pathAt entries key root = .ok found) :
    ∀ p ∈ found, p.Proper := by
  unfold pathAt at h
  split at h
  · cases h
    rintro p ⟨⟩
  · cases h
    rintro p ⟨⟩
    exact hroot.join (proper_ofString _)
  · cases h

/-- Settings for a root, with the database at a path that a text writes. -/
structure For (root : Path) (c : Config) : Prop where
  root : c.root = root
  databasePath : ∀ p ∈ c.databasePath, p.Proper

theorem for_plain (root : Path) : For root { root := root } := ⟨rfl, fun p hp => by cases hp⟩

theorem for_of_section {root : Path} (hroot : root.Proper) {entries : List (String × Toml)} {c : Config}
    (h : ofSection root entries = .ok c) : For root c := by
  unfold ofSection at h
  simp only at h
  split at h
  · cases h
  obtain ⟨_, -, h⟩ := Except.bind_eq_ok h
  obtain ⟨_, -, h⟩ := Except.bind_eq_ok h
  obtain ⟨_, -, h⟩ := Except.bind_eq_ok h
  obtain ⟨_, -, h⟩ := Except.bind_eq_ok h
  obtain ⟨_, -, h⟩ := Except.bind_eq_ok h
  obtain ⟨found, hfound, h⟩ := Except.bind_eq_ok h
  cases h
  exact ⟨rfl, proper_pathAt hroot hfound⟩

theorem for_of_bytes {root : Path} (hroot : root.Proper) {bytes : List UInt8} {c : Config}
    (h : ofBytes root bytes = .ok c) : For root c := by
  unfold ofBytes at h
  split at h
  · cases h
  · split at h
    · unfold ofDocument at h
      split at h
      · cases h
        exact for_plain root
      · exact for_of_section hroot h
      · cases h
    · cases h
    · cases h
    · cases h

/-- The settings of a directory are for the place that its path means. -/
theorem for_of_load {tree : FileTree} (ht : tree.WF) {directory : Path} (hd : directory.Proper)
    {c : Config} (h : load tree directory = .ok c) :
    tree.IsPlace (tree.place directory) ∧ For (tree.place directory) c := by
  unfold load at h
  obtain ⟨root, hroot, h⟩ := Except.bind_eq_ok h
  have hplace := FileTree.isPlace_of_resolve ht hd hroot
  obtain rfl := (FileTree.resolve_eq_ok.1 hroot).2
  refine ⟨hplace, ?_⟩
  obtain ⟨found, -, h⟩ := Except.bind_eq_ok h
  split at h
  · cases h
    exact for_plain _
  · exact for_of_bytes hplace.resolved.proper h
  · cases h

/-- An index is saved at a path that a text writes. -/
theorem For.proper_database {root : Path} {c : Config} (h : For root c) (hroot : root.Proper)
    (environment : Option String) : (c.database environment).Proper := by
  have hdefault : (defaultDatabase c.root).Proper :=
    ((h.root ▸ hroot).child (by decide)).child (by decide)
  unfold database
  split
  · rename_i p hp
    exact h.databasePath p hp
  · split
    · split
      · exact hdefault
      · exact proper_ofString _
    · exact hdefault

end Config

/-! ## Command lines -/

namespace Command

/-- The paths that a command is given. -/
def paths : Command → List Path
  | .index directory _ _ => [directory]
  | .update files => files
  | .dot output _ => output.toList
  | _ => []

/-- A path that a text without a NUL character writes. -/
structure Written (p : Path) : Prop where
  proper : p.Proper
  clean : p.hasNull = false

/-- A written path in a resolved directory means a place. -/
theorem Written.isPlace {tree : FileTree} {around : Surroundings} {p : Path} (hp : Written p)
    (ht : tree.WF) (hd : around.directory.Resolved) : tree.IsPlace (placeFromHere around tree p) :=
  FileTree.isPlace_place ht (hd.proper.join hp.proper) (hasNull_join hd.clean hp.clean)

theorem written_of_anyNull {texts : List String} (h : anyNull texts = false) {s : String}
    (hs : s ∈ texts) : Written (Path.ofString s) := by
  unfold anyNull at h
  rw [List.any_eq_false] at h
  exact ⟨proper_ofString s, by simpa using h s hs⟩

/-- The paths of a command are among the arguments that are looked at as paths, or the directory at
hand. -/
theorem paths_ofArguments {name : String} {a : Arguments} {command : Command}
    (h : ofArguments name a = some command) :
    command.paths = [] ∨ command.paths = [Path.ofString "."] ∨
      command.paths = (pathsOf name a).map Path.ofString := by
  unfold ofArguments at h
  simp only at h
  split at h
  · cases h
    exact Or.inl rfl
  · split at h
    case h_1 => cases h; exact Or.inr (Or.inl rfl)
    case h_2 others => cases h; exact Or.inr (Or.inr (by simp [paths, pathsOf, others]))
    case h_3 others => cases h; exact Or.inr (Or.inr (by simp [paths, pathsOf, others]))
    case h_14 => cases h; exact Or.inr (Or.inr (by cases hv : a.value? "output" <;> simp [paths, pathsOf, hv]))
    all_goals
      first
        | cases h
          exact Or.inl rfl
        | obtain ⟨_, -, rfl⟩ := Option.map_eq_some_iff.1 h
          exact Or.inl rfl
        | cases h

theorem written_of_parse {name : String} {args : List String} {command : Command}
    (h : parse name args = .ok command) : ∀ p ∈ command.paths, Written p := by
  unfold parse at h
  split at h
  · cases h
  · rename_i a _
    by_cases hhelp : a.has "help" = true
    · -- a command that asks for help has no paths
      have hmade : ofArguments name a = some .help := by
        unfold ofArguments
        exact if_pos hhelp
      simp only [hhelp, hmade, Bool.not_true, Bool.false_and, Bool.false_eq_true, if_false] at h
      cases h
      rintro p ⟨⟩
    · have hnot : a.has "help" = false := by simpa using hhelp
      simp only [hnot, Bool.not_false, Bool.true_and] at h
      split at h
      · cases h
      · rename_i hclean
        rw [Bool.not_eq_true] at hclean
        split at h
        · rename_i made hmade
          cases h
          rcases paths_ofArguments hmade with hp | hp | hp
          · rw [hp]
            rintro p ⟨⟩
          · rw [hp]
            intro p hm
            rw [List.mem_singleton.1 hm]
            exact ⟨proper_ofString _, by decide⟩
          · rw [hp]
            intro p hm
            obtain ⟨text, ht, rfl⟩ := List.mem_map.1 hm
            exact written_of_anyNull hclean ht
        · cases h

end Command

/-- Every path of an invocation is one that a text without a NUL character writes. -/
theorem Invocation.written {args : List String} {invocation : Invocation}
    (h : Invocation.parse args = .ok invocation) :
    (∀ p ∈ invocation.logFile, Command.Written p) ∧
      ∀ command, invocation.command = .ok command → ∀ p ∈ command.paths, Command.Written p := by
  unfold Invocation.parse at h
  split at h
  · cases h
  · rename_i a _
    split at h
    · cases h
      refine ⟨fun p hp => (by cases hp), fun command hc => ?_⟩
      cases hc
      rintro p ⟨⟩
    · split at h
      · cases h
      · -- Past this test no word of the command line has a NUL, so every path in it can be written.
        rename_i hclean
        rw [Bool.not_eq_true] at hclean
        split at h
        · cases h
        · split at h
          · cases h
          · cases h
            refine ⟨fun p hp => ?_, fun command hc => Command.written_of_parse hc⟩
            obtain ⟨text, ht, rfl⟩ := Option.map_eq_some_iff.1 hp
            exact Command.written_of_anyNull hclean (Option.mem_toList.2 ht)

end RtlAtlas
