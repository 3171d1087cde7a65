import ChatFlow.Yaml.Chars

/-!
# ChatFlow — places in a text

A cursor is the rest of a text with the place where it begins: how many octets stand before it, on
which line and in which column. A carriage return and a line feed together are one break.
-/

namespace ChatFlow.Yaml

structure Cursor where
  rest : List Char
  /-- The octets before it, as the text is stored. -/
  index : Nat
  line : Nat
  column : Nat
  deriving Inhabited

namespace Cursor

/-- How many octets characters are stored in. -/
def octets (cs : List Char) : Nat := cs.foldl (fun n c => n + c.utf8Size) 0

def ofString (s : String) : Cursor := ⟨s.toList, 0, 0, 0⟩

def atEnd (c : Cursor) : Bool := c.rest.isEmpty

/-! ## What stands at a place -/

/-- The character `n` places ahead passes the test. -/
def sees (c : Cursor) (n : Nat) (test : Char → Bool) : Bool := c.rest[n]?.any test

def seesChar (c : Cursor) (n : Nat) (char : Char) : Bool := c.sees n (· == char)

/-- A blank or a break stands `n` places ahead, or the text has ended there. -/
def seesGap (c : Cursor) (n : Nat) : Bool := c.rest[n]?.all isBlankOrBreak

/-- The text ends here, or its line does. -/
def atLineEnd (c : Cursor) : Bool := c.rest.head?.all isBreak

/-- Three characters of one kind begin the line and nothing is glued to them. -/
def seesRule (c : Cursor) (char : Char) : Bool :=
  c.column == 0 && c.seesChar 0 char && c.seesChar 1 char && c.seesChar 2 char && c.seesGap 3

/-- A line that begins or ends a document. -/
def atDocumentRule (c : Cursor) : Bool := c.seesRule '-' || c.seesRule '.'

/-! ## Moving on -/

/-- Goes past characters of one line. -/
def skip (c : Cursor) (n : Nat) : Cursor :=
  ⟨c.rest.drop n, c.index + octets (c.rest.take n), c.line, c.column + n⟩

/-- Goes past the characters that pass the test. -/
def skipWhile (c : Cursor) (test : Char → Bool) : Cursor :=
  c.skip (c.rest.takeWhile test).length

/-- Goes to the end of the line. -/
def skipLine (c : Cursor) : Cursor := c.skipWhile fun char => !isBreak char

/-- Goes past a break, if there is one, and returns it as it counts in a text: all breaks are line
feeds but for the two separators. -/
def takeBreak (c : Cursor) : List Char × Cursor :=
  match c.rest with
  | '\r' :: '\n' :: rest => (['\n'], ⟨rest, c.index + 2, c.line + 1, 0⟩)
  | char :: rest =>
    if isBreak char then
      let kept := if char == '\u2028' || char == '\u2029' then char else '\n'
      ([kept], ⟨rest, c.index + char.utf8Size, c.line + 1, 0⟩)
    else ([], c)
  | [] => ([], c)

def skipBreak (c : Cursor) : Cursor := c.takeBreak.2

/-- Goes past blanks, a comment and the break behind it; nothing else may stand on the line. -/
def finishLine? (c : Cursor) : Option Cursor :=
  let c := c.skipWhile isBlank
  let c := if c.seesChar 0 '#' then c.skipLine else c
  if c.atLineEnd then some c.skipBreak else none

end Cursor

end ChatFlow.Yaml
