/-
Lines of a text. A line ends at a line feed, a carriage return (with a line feed after it or not),
one of the vertical and page separators, or one of Unicode's line and paragraph separators; the
break belongs to no line, and a break at the very end opens no further line.
-/
namespace RtlAtlas.Text

/-- A character that ends a line. -/
def isLineBreak (c : Char) : Bool :=
  (0xA ≤ c.toNat && c.toNat ≤ 0xD) || (0x1C ≤ c.toNat && c.toNat ≤ 0x1E) || c.toNat == 0x85 ||
    c.toNat == 0x2028 || c.toNat == 0x2029

/-- The lines of a text, where `line` holds the current line backwards. -/
def linesFrom (line : List Char) : List Char → List (List Char)
  | [] => if line.isEmpty then [] else [line.reverse]
  | '\r' :: '\n' :: cs => line.reverse :: linesFrom [] cs
  | c :: cs => if isLineBreak c then line.reverse :: linesFrom [] cs else linesFrom (c :: line) cs

/-- The lines of a text, without their breaks. -/
def lines (cs : List Char) : List (List Char) := linesFrom [] cs

/-- The text with every carriage return, and every pair of one and a line feed, made a line feed. -/
def unifyBreaks : List Char → List Char
  | [] => []
  | '\r' :: '\n' :: cs => '\n' :: unifyBreaks cs
  | c :: cs => (if c == '\r' then '\n' else c) :: unifyBreaks cs

/-- The number, counted from one, of the line that holds an offset, when only line feeds count. -/
def lineOf (text : List Char) (offset : Nat) : Nat := (text.take offset).count '\n' + 1

example : lines "a\r\nb\n\nc\n".toList = ["a".toList, "b".toList, [], "c".toList] := by decide

end RtlAtlas.Text
