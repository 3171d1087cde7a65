/-!
# ChatFlow — blank text and text in columns

White space is meant in the sense of the Unicode property `White_Space`. A name or a condition that
consists of it alone counts as missing.

In a column a text is cut to a precision and filled up to a width. Width and precision count
characters. A text that is wider than its column is not cut by the width.
-/

namespace ChatFlow.Text

/-! ## Blank text -/

/-- The characters with the Unicode property `White_Space`. -/
def isBlank (c : Char) : Bool :=
  let n := c.toNat
  (0x09 ≤ n && n ≤ 0x0D) || n == 0x20 || n == 0x85 || n == 0xA0 || n == 0x1680 ||
    (0x2000 ≤ n && n ≤ 0x200A) || n == 0x2028 || n == 0x2029 || n == 0x202F || n == 0x205F ||
    n == 0x3000

/-- Nothing is left once white space is trimmed off. -/
def blank (s : String) : Bool := s.toList.all isBlank

/-- Drops the leading white space. -/
def trimLeft (cs : List Char) : List Char := cs.dropWhile isBlank

/-! ## Columns -/

inductive Alignment
  | left
  | right
  | center
  deriving DecidableEq

/-- How a text stands in a column. -/
structure Column where
  width : Nat := 0
  precision : Option Nat := none
  alignment : Alignment := .left
  fill : Char := ' '

/-- How much of the missing width goes before the text; centred text leans to the left. -/
def Column.before (column : Column) (missing : Nat) : Nat :=
  match column.alignment with
  | .left => 0
  | .right => missing
  | .center => missing / 2

def Column.place (column : Column) (s : String) : String :=
  let cs := match column.precision with
    | some n => s.toList.take n
    | none => s.toList
  let missing := column.width - cs.length
  let before := column.before missing
  String.ofList (List.replicate before column.fill ++ cs ++
    List.replicate (missing - before) column.fill)

end ChatFlow.Text
