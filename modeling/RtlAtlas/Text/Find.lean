/-
Finding one text inside another: the first and the last place where it occurs, and the parts
between the places where a character occurs.
-/
namespace RtlAtlas.Text

/-- The first offset at which the needle occurs. -/
def find? (needle : List Char) : List Char → Option Nat
  | [] => if needle.isEmpty then some 0 else none
  | c :: cs => if needle.isPrefixOf (c :: cs) then some 0 else (find? needle cs).map (· + 1)

/-- The last offset at which the needle occurs. -/
def findLast? (needle : List Char) : List Char → Option Nat
  | [] => if needle.isEmpty then some 0 else none
  | c :: cs =>
    match findLast? needle cs with
    | some i => some (i + 1)
    | none => if needle.isPrefixOf (c :: cs) then some 0 else none

def occurs (needle cs : List Char) : Bool := (find? needle cs).isSome

/-- The parts of a text between the places where a character occurs; at least one. The text may be
written in characters or in code points. -/
def splitAt {α : Type} [BEq α] (sep : α) : List α → List (List α)
  | [] => [[]]
  | c :: cs =>
    if c == sep then [] :: splitAt sep cs
    else
      match splitAt sep cs with
      | [] => [[c]]
      | p :: ps => (c :: p) :: ps

/-- What is left after the given text in front is taken away. -/
def dropLead? : List Char → List Char → Option (List Char)
  | [], cs => some cs
  | _ :: _, [] => none
  | p :: ps, c :: cs => if p == c then dropLead? ps cs else none

theorem dropLead?_eq_some {lead cs rest : List Char} :
    dropLead? lead cs = some rest ↔ cs = lead ++ rest := by
  induction lead generalizing cs with
  | nil => simp [dropLead?, eq_comm]
  | cons p ps ih =>
    cases cs with
    | nil => simp [dropLead?]
    | cons c cs =>
      by_cases h : p = c
      · subst h; simp [dropLead?, ih]
      · have h' : ¬c = p := fun e => h e.symm
        simp [dropLead?, h, h']

end RtlAtlas.Text
