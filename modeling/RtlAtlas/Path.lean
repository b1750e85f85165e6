/-
File paths. A path is its anchor and its components, so that `a//b/./c` and `a/b/c` are one path;
`..` is a component like any other until `resolve` folds it away. Paths have two orders: by the
text they print as, and by their components (`ordByParts`), in which a directory comes before the
files whose names merely start like it.
-/
import RtlAtlas.Text.Find

namespace RtlAtlas

/-- Where a path starts. -/
inductive Anchor where
  | relative
  | root
  /-- Two slashes in front, which POSIX keeps apart from one. -/
  | doubleRoot
  deriving DecidableEq, Repr

/-- A path: its anchor and its components, none of them empty or a single dot. -/
structure Path where
  anchor : Anchor
  parts : List String
  deriving DecidableEq, Repr

namespace Path

def anchorText : Anchor → String
  | .relative => ""
  | .root => "/"
  | .doubleRoot => "//"

/-- The components of a text between slashes. -/
def partsOf (text : List Char) : List String :=
  ((Text.splitAt '/' text).map String.ofList).filter fun p => p != "" && p != "."

/-- The anchor of a text: two slashes in front, but not three, make an anchor of their own. -/
def anchorOf (text : List Char) : Anchor :=
  match text with
  | '/' :: '/' :: '/' :: _ => .root
  | '/' :: '/' :: _ => .doubleRoot
  | '/' :: _ => .root
  | _ => .relative

def ofString (s : String) : Path := ⟨anchorOf s.toList, partsOf s.toList⟩

/-- The text of a path; the empty relative path is a dot. -/
def text (p : Path) : String :=
  if p.anchor = .relative ∧ p.parts = [] then "."
  else anchorText p.anchor ++ "/".intercalate p.parts

instance : ToString Path := ⟨text⟩

/-- Whether a path starts at the root. -/
def isAbsolute (p : Path) : Bool := p.anchor != .relative

/-- The components of a path, of which the anchor is one. -/
def components (p : Path) : List String :=
  if p.isAbsolute then anchorText p.anchor :: p.parts else p.parts

/-- Whether a NUL character stands in a path. -/
def hasNull (p : Path) : Bool := p.parts.any fun part => part.toList.contains (Char.ofNat 0)

/-- The last component, empty for an anchor alone. -/
def name (p : Path) : String := p.parts.getLastD ""

/-- The extension of a file name from its last dot on, empty when that dot is the first or the last
character. -/
def suffixOf (name : List Char) : List Char :=
  match Text.findLast? ['.'] name with
  | some i => if 0 < i && i + 1 < name.length then name.drop i else []
  | none => []

def suffix (p : Path) : String := String.ofList (suffixOf p.name.toList)

def parent (p : Path) : Path := { p with parts := p.parts.dropLast }

/-- Follows a second path from a first one. -/
def join (p q : Path) : Path :=
  if q.isAbsolute then q else { p with parts := p.parts ++ q.parts }

/-- Follows one component. -/
def child (p : Path) (part : String) : Path := { p with parts := p.parts ++ [part] }

/-- Folds the components `..` away; above the root there is only the root. -/
def fold (parts : List String) : List String :=
  parts.foldl (fun done part => if part == ".." then done.dropLast else done ++ [part]) []

/-- The absolute path without `..` that a path means in a working directory. -/
def resolve (cwd p : Path) : Path := ⟨.root, fold (cwd.join p).parts⟩

/-- The rest of a list after a lead. -/
def dropParts? : List String → List String → Option (List String)
  | [], parts => some parts
  | _ :: _, [] => none
  | a :: lead, b :: parts => if a == b then dropParts? lead parts else none

/-- The path that leads from a base to a path below it. -/
def relativeTo? (p base : Path) : Option Path :=
  if p.anchor = base.anchor then (dropParts? base.parts p.parts).map (⟨.relative, ·⟩) else none

/-- How a path is shown to somebody at a base: relative below it, in full elsewhere. -/
def shownFrom (p base : Path) : String := ((p.relativeTo? base).getD p).text

/-- The order of paths by their components, of which the anchor is the first. -/
def ordByParts (p q : Path) : Ordering := compare p.components q.components

/-- Sorts paths by their components. -/
def sortByParts (ps : List Path) : List Path := ps.mergeSort fun p q => (ordByParts p q).isLE

example : (ofString "/repo//rtl/./a.v").text = "/repo/rtl/a.v" := by decide +kernel
example : (ofString "rtl/.v").suffix = "" ∧ (ofString "a.b.sv").suffix = ".sv" := by decide +kernel

end Path

end RtlAtlas
