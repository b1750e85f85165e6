/-
Search tools that are programs of their own. They are run on batches of files, and what they print
is read line by line: ripgrep prints a JSON event per line, grep prints file, line number and text
with colons between. Matches in files that are not indexed are passed over, and reading stops as
soon as the limit is reached.
-/
import RtlAtlas.FileTree
import RtlAtlas.Search.Backend
import RtlAtlas.Search.Event
import RtlAtlas.Text.Digit

namespace RtlAtlas.Search

open RtlAtlas.Text

/-- The number of files given to one run of a tool. -/
def batchSize : Nat := 200

/-- Cuts a list into batches, at most `fuel` of them. -/
def batchesFrom : Nat → List Path → List (List Path)
  | 0, _ => []
  | fuel + 1, files =>
    if files.isEmpty then [] else files.take batchSize :: batchesFrom fuel (files.drop batchSize)

def batches (files : List Path) : List (List Path) := batchesFrom files.length files

/-- An external search tool. -/
structure Tool where
  name : String
  /-- The command for a query in some files. -/
  command : (query : String) → (files : List Path) → List String
  /-- What a line of output tells of, if it tells of a match. -/
  parseLine : (query : List Char) → (line : List Char) → Except Error (Option Told)

/-! ## Running a program -/

/-- How a program ended: its status, what it printed and what it said against its input. -/
structure Exit where
  status : Int
  output : List Char
  complaint : List Char

/-- The status with which a search tool says that no line matched. -/
def noMatch : Int := 1

/-- What a program printed, unless it failed. -/
def Exit.answer (name : String) (e : Exit) : Except BackendFault (List Char) :=
  if e.status = noMatch then .ok []
  else if e.status = 0 then .ok e.output
  else
    let complaint := String.ofList (trim e.complaint)
    .error (.failed s!"{name} exited with {e.status}: {complaint}")

/-- Runs a program, where `exec` gives how the command of the given number ends or why it cannot be
started. A command with a NUL character in it is refused before anything starts. -/
def runProgram (name : String) (exec : Nat → List String → Except String Exit) (number : Nat)
    (command : List String) : Except BackendFault (List Char) :=
  if command.any fun argument => argument.toList.contains (Char.ofNat 0) then .error (.broken .nullByte)
  else
    match exec number command with
    | .error cause => .error (.failed s!"{name} could not be started: {cause}")
    | .ok e => e.answer name

/-! ## Reading what a tool prints -/

/-- A match that a tool has found in an indexed file. -/
structure ToolMatch where
  file : Path
  line : Json
  column : Nat
  text : String
  deriving Repr

/-- The match with its line as a number; what is no number counts as zero. -/
def ToolMatch.lineMatch (m : ToolMatch) : LineMatch :=
  ⟨m.file, m.line.int?.getD 0, m.column, m.text⟩

/-- The commands that were run and the matches found so far. -/
structure ToolRun where
  commands : List (List String)
  found : List ToolMatch

/-- How the paths that a tool is given and that it prints are understood. -/
structure Naming where
  /-- The file that a path means which the tool is given. -/
  given : Path → Path
  /-- The file that a path in the output names, if it names one. -/
  printed : Path → Except Error (Option Path)
  /-- Only a NUL character keeps a path in the output from being understood. -/
  of_error : ∀ path e, printed path = .error e → path.hasNull = true ∧ e = .nullByte

/-- How the output of a tool is understood: the indexed files, and the file that a path in the output
names. -/
structure Reading where
  indexed : List Path
  locate : Path → Except Error (Option Path)

/-- The reading of what a tool prints that was given some files. -/
def Naming.reading (n : Naming) (files : List Path) : Reading := ⟨files.map n.given, n.printed⟩

/-- The match that a line tells of, if it lies in an indexed file. -/
def Reading.matchOf? (r : Reading) (t : Told) : Except Error (Option ToolMatch) := do
  match t.file with
  | none => return none
  | some path =>
    match ← r.locate path with
    | none => return none
    | some file =>
      if r.indexed.contains file then return some ⟨file, ← t.line, t.column, t.text⟩
      else return none

/-- Adds the matches of some lines of output; also tells whether the limit was reached. -/
def collectLines (tool : Tool) (query : List Char) (reading : Reading) (limit : Int) :
    List ToolMatch → List (List Char) → Except Error (List ToolMatch × Bool)
  | found, [] => .ok (found, false)
  | found, line :: rest => do
    match ← tool.parseLine query line with
    | none => collectLines tool query reading limit found rest
    | some told =>
      match ← reading.matchOf? told with
      | none => collectLines tool query reading limit found rest
      | some m =>
        let found' := found ++ [m]
        if limit ≤ found'.length then return (found', true)
        else collectLines tool query reading limit found' rest

/-- Runs a tool on the remaining batches; `run` gives what the command of the given number prints. -/
def runBatches (tool : Tool) (run : Nat → List String → Except BackendFault (List Char))
    (query : String) (reading : Reading) (limit : Int) :
    ToolRun → List (List Path) → Except BackendFault ToolRun
  | done, [] => .ok done
  | done, batch :: rest =>
    let command := tool.command query batch
    match run done.commands.length command with
    | .error fault => .error fault
    | .ok output =>
      match collectLines tool query.toList reading limit done.found (lines output) with
      | .error e => .error (.broken e)
      | .ok (found, full) =>
        let done' : ToolRun := ⟨done.commands ++ [command], found⟩
        if full then .ok done' else runBatches tool run query reading limit done' rest

/-- Every path means the file that `resolve` gives for it. -/
def Naming.by (resolve : Path → Path) : Naming where
  given := resolve
  printed := fun path => if path.hasNull then .error .nullByte else .ok (some (resolve path))
  of_error := fun path e h => by
    split at h
    · exact ⟨‹_›, (Except.error.inj h).symm⟩
    · cases h

/-- Full paths mean files without links, and others name none. -/
def namedFile : Naming where
  given := FileTree.plain
  printed := fun path =>
    (FileTree.placeOf path).map fun file => if path.isAbsolute then some file else none
  of_error := fun path e h => by
    cases hnull : path.hasNull with
    | true =>
      rw [FileTree.placeOf, if_pos hnull] at h
      exact ⟨rfl, (Except.error.inj h).symm⟩
    | false =>
      rw [FileTree.placeOf, if_neg (by simp [hnull])] at h
      cases h

/-- Runs a tool on files, batch after batch. -/
def Tool.search (tool : Tool) (naming : Naming)
    (run : Nat → List String → Except BackendFault (List Char))
    (query : String) (files : List Path) (limit : Int) : Except BackendFault ToolRun :=
  if files.any (·.hasNull) then .error (.broken .nullByte)
  else runBatches tool run query (naming.reading files) limit ⟨[], []⟩ (batches files)

/-- ripgrep with JSON events. -/
def ripgrep : Tool where
  name := "ripgrep"
  command := fun query files =>
    ["rg", "--json", "--fixed-strings", "--ignore-case", "--no-config", "--", query] ++
      files.map (·.text)
  parseLine := fun _ line => Event.read line

/-! ## grep -/

/-- The digits between colons at the head of a text, and what follows. -/
def lineNumber? : List Char → Option (List Char × List Char)
  | ':' :: cs =>
    let digits := cs.takeWhile isDigit
    match digits, cs.dropWhile isDigit with
    | _ :: _, ':' :: rest => some (digits, rest)
    | _, _ => none
  | _ => none

/-- Splits a line at its first number between colons: file, digits and text. -/
def grepLine? : List Char → Option (List Char × List Char × List Char)
  | [] => none
  | c :: cs =>
    match lineNumber? (c :: cs) with
    | some (digits, text) => some ([], digits, text)
    | none => (grepLine? cs).map fun (file, rest) => (c :: file, rest)

/-- The number that digits write, unless there are too many of them. -/
def numberOf (digits : List Char) : Except Error Json :=
  if digitLimit < digits.length then .error (.longNumber digits.length)
  else .ok (Json.ofNat (decimal digits))

/-- grep with file names and line numbers. -/
def grep : Tool where
  name := "grep"
  command := fun query files => ["grep", "-nHIiF", "-e", query, "--"] ++ files.map (·.text)
  parseLine := fun query line =>
    .ok ((grepLine? line).map fun (file, digits, text) =>
      ⟨some (Path.ofString (String.ofList file)), numberOf digits, columnOf text query,
        String.ofList (trim text)⟩)

/-- A backend that runs a tool. -/
def Tool.backend (tool : Tool) (available : Bool) (naming : Naming)
    (run : Nat → List String → Except BackendFault (List Char)) : Backend where
  name := tool.name
  available := available
  search := fun query files limit =>
    (tool.search naming run query files limit).map (·.found.map ToolMatch.lineMatch)

end RtlAtlas.Search
