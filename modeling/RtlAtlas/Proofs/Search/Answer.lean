/-
Which backend answers a search. It is the first one that does: those before it are not there or have
failed, and nothing of what they found is kept. What breaks a tool's output off is never an error of
the search itself, and scanning always answers, so with the scan among the backends some backend does.
-/
import RtlAtlas.Proofs.Result
import RtlAtlas.Search.Engine
import RtlAtlas.Search.Installed

namespace RtlAtlas.Search

open RtlAtlas.Text

/-! ## The first backend that answers -/

section Disk

variable {query : String} {files : List Path} {limit : Int}

/-- A backend is not there, or fails. -/
def Backend.Fails (b : Backend) (query : String) (files : List Path) (limit : Int) : Prop :=
  b.available = false ∨ ∃ cause, b.search query files limit = .error (.failed cause)

/-- One of some backends answers, and those before it fail. -/
def Answers (query : String) (files : List Path) (limit : Int) (backends : List Backend)
    (answer : Except BackendFault (List LineMatch)) : Prop :=
  ∃ failed b rest, backends = failed ++ b :: rest ∧ (∀ c ∈ failed, c.Fails query files limit) ∧
    b.available = true ∧ b.search query files limit = answer

/-- What a search of files on disk comes to. -/
inductive Outcome (query : String) (files : List Path) (limit : Int) (backends : List Backend) :
    Except Error (List LineMatch) → Prop where
  | answered {found : List LineMatch} :
    Answers query files limit backends (.ok found) → Outcome query files limit backends (.ok found)
  /-- The output of the backend that was to answer cannot be read. -/
  | brokenOff {e : Error} : Answers query files limit backends (.error (.broken e)) →
    Outcome query files limit backends (.error e)
  | allFailed {failures : List (String × String)} : (∀ b ∈ backends, b.Fails query files limit) →
    Outcome query files limit backends (.error (.noBackend failures))

theorem Answers.cons {b : Backend} {bs : List Backend} {answer : Except BackendFault (List LineMatch)}
    (hb : b.Fails query files limit) (h : Answers query files limit bs answer) :
    Answers query files limit (b :: bs) answer := by
  obtain ⟨failed, c, rest, rfl, hfailed, hc⟩ := h
  exact ⟨b :: failed, c, rest, rfl, List.forall_mem_cons.2 ⟨hb, hfailed⟩, hc⟩

/-- A backend that fails leaves the outcome to those behind it. -/
theorem Outcome.cons {b : Backend} {bs : List Backend} {result : Except Error (List LineMatch)}
    (hb : b.Fails query files limit) (h : Outcome query files limit bs result) :
    Outcome query files limit (b :: bs) result := by
  cases h with
  | answered ha => exact .answered (ha.cons hb)
  | brokenOff ha => exact .brokenOff (ha.cons hb)
  | allFailed ha => exact .allFailed (List.forall_mem_cons.2 ⟨hb, ha⟩)

theorem outcome_searchDiskFrom : ∀ (bs : List Backend) (failures : List (String × String)),
    Outcome query files limit bs (searchDiskFrom query files limit failures bs)
  | [], _ => .allFailed (List.forall_mem_nil _)
  | b :: bs, failures => by
    rw [searchDiskFrom]
    cases havailable : b.available with
    | false => exact (outcome_searchDiskFrom bs _).cons (.inl havailable)
    | true =>
      rw [if_pos rfl]
      have first {answer : Except BackendFault (List LineMatch)}
          (h : b.search query files limit = answer) : Answers query files limit (b :: bs) answer :=
        ⟨[], b, bs, rfl, List.forall_mem_nil _, havailable, h⟩
      cases hsearch : b.search query files limit with
      | ok found => exact .answered (first hsearch)
      | error fault =>
        cases fault with
        | failed cause => exact (outcome_searchDiskFrom bs _).cons (.inr ⟨cause, hsearch⟩)
        | broken e => exact .brokenOff (first hsearch)

end Disk

/-! ## What breaks a tool's output off -/

namespace Event

theorem untold_field? (name : String) (j : Json) : Untold (field? name j) := by
  unfold field?
  split
  · exact untold_ok _
  · exact untold_error rfl

theorem untold_required (name : String) (j : Json) : Untold (required name j) := by
  unfold required
  split
  · exact untold_ok _
  · exact untold_error rfl

theorem untold_textOf (name : String) (data : Json) : Untold (textOf name data) := by
  refine (untold_field? _ _).bind fun _ => (untold_field? _ _).bind fun found => ?_
  split <;> exact untold_ok _

theorem untold_follow (rooted : Bool) (done : List (List Nat)) (part : List Nat) :
    Untold (follow rooted done part) := by
  unfold follow
  split
  · split <;> exact untold_ok _
  · simp only
    split
    · exact untold_error rfl
    · split
      · exact untold_error rfl
      · exact untold_ok _

theorem untold_fileOf (j : Json) : Untold (fileOf j) := by
  unfold fileOf checkPath
  split
  · exact ((untold_foldlM (untold_follow _) _ _).map _).map _
  · exact ((untold_foldlM (untold_follow _) _ _).map _).map _
  · exact untold_error rfl

theorem untold_firstMatch (data : Json) : Untold (firstMatch data) := by
  refine (untold_field? _ _).bind fun found => ?_
  simp only
  split
  · exact untold_ok _
  · split
    · exact untold_ok _
    · exact untold_error rfl
    · exact untold_ok _
    · exact untold_ok _
    · exact untold_error rfl

theorem untold_lineText (j : Json) : Untold (lineText j) := by
  unfold lineText
  split
  · exact untold_ok _
  · split
    · exact untold_error rfl
    · exact untold_ok _
  · exact untold_error rfl

theorem untold_columnAt (text : List Char) (offset : Json) : Untold (columnAt text offset) := by
  unfold columnAt
  split
  · exact untold_ok _
  · exact untold_ok _
  · exact untold_ok _
  · exact untold_error rfl

/-- An event that cannot be used is no error of the search itself. -/
theorem untold_toldBy (data : Json) : Untold (toldBy data) := by
  refine (untold_textOf _ _).bind fun line => (untold_textOf _ _).bind fun path => ?_
  split
  · refine (untold_fileOf _).bind fun _ => (untold_required _ _).bind fun _ =>
      (untold_firstMatch _).bind fun _ => (untold_field? _ _).bind fun _ => ?_
    exact (untold_lineText _).bind fun _ => (untold_columnAt _ _).bind fun _ => untold_ok _
  · exact untold_ok _

theorem untold_read (line : List Char) : Untold (read line) := by
  unfold read
  split
  · exact untold_ok _
  · split
    · exact untold_ok _
    · exact untold_error rfl
    · exact untold_error rfl
    · refine ((untold_field? _ _).map _).bind fun found => ?_
      split
      · exact (untold_required _ _).bind untold_toldBy
      · exact untold_ok _

/-- The number of a line that an event tells of is always there. -/
theorem line_of_toldBy {data : Json} {told : Told} (h : toldBy data = .ok (some told)) :
    ∃ number, told.line = .ok number := by
  obtain ⟨line, -, h⟩ := Except.bind_eq_ok h
  obtain ⟨path, -, h⟩ := Except.bind_eq_ok h
  cases line <;> cases path
  case some.some =>
    obtain ⟨_, -, h⟩ := Except.bind_eq_ok h
    obtain ⟨number, -, h⟩ := Except.bind_eq_ok h
    obtain ⟨_, -, h⟩ := Except.bind_eq_ok h
    obtain ⟨_, -, h⟩ := Except.bind_eq_ok h
    obtain ⟨_, -, h⟩ := Except.bind_eq_ok h
    obtain ⟨_, -, h⟩ := Except.bind_eq_ok h
    cases h
    exact ⟨number, rfl⟩
  all_goals cases h

theorem line_of_read {line : List Char} {told : Told} (h : read line = .ok (some told)) :
    ∃ number, told.line = .ok number := by
  unfold read at h
  split at h
  · cases h
  · split at h
    · cases h
    · cases h
    · cases h
    · obtain ⟨wanted, -, h⟩ := Except.bind_eq_ok h
      cases wanted with
      | false => cases h
      | true =>
        obtain ⟨data, -, h⟩ := Except.bind_eq_ok h
        exact line_of_toldBy h

end Event

/-! ## Programs -/

/-- A tool whose output is read without errors of the library's own. -/
structure Tool.Quiet (tool : Tool) : Prop where
  parse : ∀ query line, Untold (tool.parseLine query line)
  number : ∀ query line told, tool.parseLine query line = .ok (some told) → Untold told.line

theorem quiet_ripgrep : ripgrep.Quiet where
  parse := fun _ line => Event.untold_read line
  number := fun _ _ _ h => by
    obtain ⟨number, hn⟩ := Event.line_of_read h
    exact hn ▸ untold_ok number

theorem quiet_grep : grep.Quiet where
  parse := fun _ _ => untold_ok _
  number := fun query line told h => by
    obtain ⟨found, -, rfl⟩ := Option.map_eq_some_iff.1 (Except.ok.inj h)
    show Untold (numberOf found.2.1)
    unfold numberOf
    split
    · exact untold_error rfl
    · exact untold_ok _

/-- A search program on some machine, whatever it does. -/
structure Program where
  available : Bool
  naming : Naming
  exec : Nat → List String → Except String Exit

/-- A tool that runs a program. -/
def Tool.on (tool : Tool) (p : Program) : Backend :=
  tool.backend p.available p.naming (runProgram tool.name p.exec)

theorem Naming.untold_printed (naming : Naming) (path : Path) : Untold (naming.printed path) := by
  intro e h
  obtain ⟨-, rfl⟩ := naming.of_error path e h
  rfl

section Programs

variable {tool : Tool} {reading : Reading}

theorem untold_collectLines (ht : tool.Quiet) (hr : ∀ path, Untold (reading.locate path))
    (query : List Char) (limit : Int) : ∀ (rows : List (List Char)) (found : List ToolMatch),
    Untold (collectLines tool query reading limit found rows)
  | [], found => untold_ok _
  | row :: rows, found => by
    rw [collectLines]
    cases hparse : tool.parseLine query row with
    | error e => exact untold_error (ht.parse query row e hparse)
    | ok told? =>
      cases told? with
      | none => exact untold_collectLines ht hr query limit rows found
      | some told =>
        -- Of one row, only the place it names and the number it gives can be refused.
        have hmatch : Untold (reading.matchOf? told) := by
          unfold Reading.matchOf?
          split
          · exact untold_ok _
          · refine (hr _).bind fun file => ?_
            split
            · exact untold_ok _
            · split
              · exact (ht.number query row told hparse).bind fun _ => untold_ok _
              · exact untold_ok _
        refine hmatch.bind fun m => ?_
        split
        · exact untold_collectLines ht hr query limit rows found
        · simp only
          split
          · exact untold_ok _
          · exact untold_collectLines ht hr query limit rows _

/-- A program is either refused its arguments, or fails, or prints something. -/
theorem untold_runProgram {name : String} {exec : Nat → List String → Except String Exit} {n : Nat}
    {command : List String} {e : Error}
    (h : runProgram name exec n command = .error (.broken e)) : e.isTold = false := by
  unfold runProgram at h
  split at h
  · cases h; rfl
  · split at h
    · cases h
    · unfold Exit.answer at h
      split at h
      · cases h
      · split at h <;> cases h

theorem untold_runBatches (ht : tool.Quiet) (hr : ∀ path, Untold (reading.locate path))
    {exec : Nat → List String → Except String Exit} {query : String} {limit : Int} {e : Error} :
    ∀ {bs : List (List Path)} {done : ToolRun},
      runBatches tool (runProgram tool.name exec) query reading limit done bs = .error (.broken e) →
        e.isTold = false
  | [], done, h => by cases h
  | batch :: bs, done, h => by
    rw [runBatches] at h
    simp only at h
    split at h
    · rename_i fault hrun
      cases h
      exact untold_runProgram hrun
    · split at h
      · rename_i hcollect
        cases h
        exact untold_collectLines ht hr _ _ _ _ _ hcollect
      · split at h
        · cases h
        · exact untold_runBatches ht hr h

/-- Where the output of a tool breaks off, the error is none that the library tells of itself. -/
theorem Tool.Quiet.untold_search (ht : tool.Quiet) (p : Program) {query : String} {files : List Path}
    {limit : Int} {e : Error} (h : (tool.on p).search query files limit = .error (.broken e)) :
    e.isTold = false := by
  change (tool.search p.naming (runProgram tool.name p.exec) query files limit).map _ = _ at h
  unfold Tool.search at h
  split at h
  · cases h; rfl
  · cases hrun : runBatches tool (runProgram tool.name p.exec) query
        (p.naming.reading files) limit ⟨[], []⟩ (batches files) with
    | error fault =>
      simp only [hrun] at h
      cases h
      exact untold_runBatches ht p.naming.untold_printed hrun
    | ok done =>
      simp only [hrun] at h
      cases h

end Programs

/-- The search tools for a tree of files, where certain programs are at hand. -/
def toolsOn (tree : FileTree) (rg gr : Program) : String → Option Backend
  | "ripgrep" => some (ripgrep.on rg)
  | "grep" => some (grep.on gr)
  | "scan" => some (scanBackend tree.read?)
  | _ => none

/-- A program that is not installed. -/
def Program.absent : Program := ⟨false, namedFile, execAbsent⟩

/-- The ripgrep beside a tree, which is not installed. -/
def Program.ripgrepIn (tree : FileTree) (here : Option Path) : Program :=
  { Program.absent with naming := installedNaming tree here }

/-- The grep that reads the files of a tree. -/
def Program.grepIn (tree : FileTree) (directory : Path) (here : Option Path) : Program :=
  ⟨true, mountedNaming tree here, execGrep tree directory⟩

section Tools

variable {tree : FileTree} {rg gr : Program} {query : String} {files : List Path} {limit : Int}

/-- A backend that breaks off does not say that no backend could run. -/
theorem untold_toolsOn {name : String} {b : Backend} (hb : toolsOn tree rg gr name = some b) {e : Error}
    (h : b.search query files limit = .error (.broken e)) : e.isTold = false := by
  unfold toolsOn at hb
  split at hb
  · cases hb; exact quiet_ripgrep.untold_search rg h
  · cases hb; exact quiet_grep.untold_search gr h
  · cases hb; cases h
  · cases hb

/-- With the scan among the backends, some backend answers. -/
theorem searchDisk_ne_noBackend {names : List String} (hscan : "scan" ∈ names)
    (failures : List (String × String)) :
    searchDisk (names.filterMap (toolsOn tree rg gr)) query files limit ≠ .error (.noBackend failures) := by
  intro h
  have houtcome : Outcome query files limit (names.filterMap (toolsOn tree rg gr)) _ :=
    outcome_searchDiskFrom _ []
  rw [show searchDiskFrom query files limit [] _ = _ from h] at houtcome
  cases houtcome with
  | brokenOff ha =>
    obtain ⟨failed, b, rest, hsplit, -, -, hb⟩ := ha
    obtain ⟨name, -, hname⟩ := List.mem_filterMap.1
      (hsplit ▸ List.mem_append_right failed List.mem_cons_self)
    cases untold_toolsOn hname hb
  | allFailed hall =>
    have hmem : scanBackend tree.read? ∈ names.filterMap (toolsOn tree rg gr) :=
      List.mem_filterMap.2 ⟨"scan", hscan, rfl⟩
    rcases hall _ hmem with hfails | ⟨cause, hfails⟩ <;> cases hfails

/-- The matches that a search of files comes to are those of a backend that answers. -/
theorem answers_of_searchDisk {bs : List Backend} {found : List LineMatch}
    (h : searchDisk bs query files limit = .ok found) : Answers query files limit bs (.ok found) := by
  have houtcome : Outcome query files limit bs _ := outcome_searchDiskFrom bs []
  rw [show searchDiskFrom query files limit [] bs = _ from h] at houtcome
  cases houtcome with
  | answered ha => exact ha

end Tools

end RtlAtlas.Search
