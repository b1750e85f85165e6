/-
What a command prints and how it ends. Lines are marked up or plain; the first line whose markup is
broken ends the output, and what it would have printed is lost.
-/
import RtlAtlas.Console.Emoji
import RtlAtlas.Error
import RtlAtlas.Json.Printer

namespace RtlAtlas.Command

/-- Something that is printed. -/
inductive Line where
  /-- Marked-up text, with a line feed after it. -/
  | marked (text : String)
  /-- Text that is printed as it stands. -/
  | plain (text : String)
  deriving DecidableEq, Repr

/-- How a command ends. -/
inductive Ending where
  | done
  | failed
  /-- It was not written the way it must be. -/
  | misused
  | escaped (error : Error)
  deriving DecidableEq, Repr

/-- What a command prints and how it ends. -/
structure Report where
  lines : List Line := []
  ending : Ending := .done
  deriving DecidableEq, Repr

/-- What is seen of a command from outside. -/
structure Outcome where
  exit : Nat
  output : String
  error : Option Error
  deriving DecidableEq, Repr

def Line.render : Line → Except Error String
  | .marked text =>
    match Markup.plain Emoji.replace text.toList with
    | .ok cs => .ok (String.ofList cs ++ "\n")
    | .error fault => .error (.markup fault)
  | .plain text => .ok text

/-- A JSON value on a line of its own. -/
def Line.json (j : Json) : Line := .plain (j.render ++ "\n")

/-- The texts of the lines before the first that is broken, and what is wrong with that one. -/
def renderLines : List Line → String × Option Error
  | [] => ("", none)
  | l :: ls =>
    match l.render with
    | .error e => ("", some e)
    | .ok text =>
      let (rest, broken) := renderLines ls
      (text ++ rest, broken)

/-- A report of lines that ends well. -/
def Report.ofLines (lines : List Line) : Report := ⟨lines, .done⟩

/-- A report of an error that the command tells of itself. -/
def Report.failure (message : String) : Report :=
  ⟨[.marked ("[red]Error:[/red] " ++ message)], .failed⟩

def Report.outcome (r : Report) : Outcome :=
  match renderLines r.lines with
  | (output, some e) => ⟨1, output, some e⟩
  | (output, none) =>
    match r.ending with
    | .done => ⟨0, output, none⟩
    | .failed => ⟨1, output, none⟩
    | .misused => ⟨2, "", none⟩
    | .escaped e => ⟨1, output, some e⟩

end RtlAtlas.Command
