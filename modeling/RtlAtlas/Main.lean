/-
The command line. The files of the working directory come on standard input as one JSON object of
paths and texts, and nothing else is read or written: the arguments are commands, one after the other
with a plus sign between them, each of which sees the files that the ones before it have left.
-/
import RtlAtlas.Command.Run
import RtlAtlas.Json.Parser

namespace RtlAtlas

def workingDirectory : Path := Path.ofString "/work"

/-- The tree of the files that a JSON object gives. -/
def treeOfJson (files : Json) : FileTree :=
  files.fields.foldl
    (fun tree (path, text) =>
      tree.write (workingDirectory.join (Path.ofString path)) (Text.bytesOf (text.string?.getD "")))
    (FileTree.empty.makeDirectory workingDirectory)

/-- Cuts arguments at plus signs. -/
def commandLines : List String → List (List String)
  | [] => [[]]
  | arg :: args =>
    match commandLines args with
    | [] => [[arg]]
    | line :: lines => if arg == "+" then [] :: line :: lines else (arg :: line) :: lines

/-- Runs lines of arguments one after the other: what they print, and how the last one ends. -/
def runLines (around : Surroundings) (tree : FileTree) : List (List String) → String × Nat
  | [] => ("", 0)
  | line :: lines =>
    let (outcome, tree') := Command.runLine around tree line
    let told := outcome.output ++ ((outcome.error.map fun e => e.message ++ "\n").getD "")
    let (rest, exit) := runLines around tree' lines
    (told ++ rest, if lines.isEmpty then outcome.exit else exit)

def runCommandLine (args : List String) : IO UInt32 := do
  let text ← (← IO.getStdin).getLine
  let files := (Json.parse? text.toList).getD (.obj [])
  let around : Surroundings := { directory := workingDirectory, time := "now" }
  let (output, exit) := runLines around (treeOfJson files) (commandLines args)
  IO.print output
  return exit.toUInt32

end RtlAtlas

def main (args : List String) : IO UInt32 := RtlAtlas.runCommandLine args
