import ChatFlow.Yaml.Cursor

/-!
# ChatFlow — block scalars

Literal and folded scalars. Their lines stand behind a common indentation, which is given by the
header or by the first line that is not blank. A literal scalar keeps its breaks, a folded one
joins lines that do not begin with a blank. The header also tells what becomes of the breaks at the
end.
-/

namespace ChatFlow.Yaml

/-- What becomes of the breaks at the end: none, one, or all of them are kept. -/
inductive Chomping
  | strip
  | clip
  | keep
  deriving DecidableEq

structure BlockHeader where
  chomping : Chomping := .clip
  /-- The indentation relative to the surrounding collection. -/
  increment : Option Nat := none

def chomping? (c : Char) : Option Chomping :=
  if c = '+' then some .keep else if c = '-' then some .strip else none

/-- The digit of an indentation; zero is refused. -/
def increment? (c : Char) : Option Nat :=
  if isDigit c ∧ c ≠ '0' then some (c.toNat - 48) else none

/-- A chomping mark and an indentation in either order, both optional; with their length. -/
def blockHeader? : List Char → Option (BlockHeader × Nat)
  | a :: rest =>
    let b := rest.head?
    match chomping? a with
    | some chomping =>
      if b.any isDigit then
        (b.bind increment?).map fun n => ({ chomping, increment := some n }, 2)
      else some ({ chomping }, 1)
    | none =>
      if isDigit a then
        (increment? a).map fun n =>
          match b.bind chomping? with
          | some chomping => ({ chomping, increment := some n }, 2)
          | none => ({ increment := some n }, 1)
      else some ({}, 0)
  | [] => some ({}, 0)

/-- Goes past indentation and blank lines. Without a known indentation every blank counts, and the
deepest column is returned. A tab may not stand in the indentation. -/
def scanBlankLines (indent : Option Nat) :
    Nat → Nat → List Char → Cursor → Option (Nat × List Char × Cursor)
  | 0, deepest, breaks, c => some (deepest, breaks, c)
  | fuel + 1, deepest, breaks, c =>
    let spaces := (c.rest.takeWhile (· == ' ')).length
    -- blanks behind a known indentation belong to the text
    let c := c.skip (match indent with
      | none => spaces
      | some n => min spaces (n - c.column))
    let deepest := max deepest c.column
    if c.seesChar 0 '\t' ∧ indent.all (c.column < ·) then none
    else if c.sees 0 isBreak then
      let (kept, c) := c.takeBreak
      scanBlankLines indent fuel deepest (breaks ++ kept) c
    else some (deepest, breaks, c)

/-- Whether a break between two lines is folded. -/
def folds (literal : Bool) (first : List Char) (blankBefore blankAfter : Bool) : Bool :=
  !literal && first == ['\n'] && !blankBefore && !blankAfter

/-- The lines at the given indentation: the text so far, newest first, the break behind its last
line and the breaks behind that. -/
def blockLines (literal : Bool) (indent : Nat) :
    Nat → (chars first more : List Char) → Bool → Cursor →
      Option (List Char × List Char × List Char × Cursor)
  | 0, _, _, _, _, _ => none
  | fuel + 1, chars, first, more, blankBefore, c =>
    if c.column = indent ∧ ¬ c.atEnd then do
      let blank := c.sees 0 isBlank
      -- only now, with both lines known, it is settled what joins them
      let joint :=
        if folds literal first blankBefore blank then if more.isEmpty then [' '] else []
        else first
      let line := c.rest.takeWhile fun char => !isBreak char
      let (first, next) := (c.skip line.length).takeBreak
      let (_, after, next) ← scanBlankLines (some indent) fuel 0 [] next
      let added := joint ++ more ++ line
      blockLines literal indent fuel (added.reverse ++ chars) first after blank next
    else some (chars, first, more, c)

/-- A block scalar, from its indicator. Its lines stand at column `margin` or behind it. The fuel is
more than the characters that are left. -/
def scanBlock (fuel : Nat) (literal : Bool) (margin : Nat) (c : Cursor) :
    Option (List Char × Cursor) := do
  let c := c.skip 1
  let (header, length) ← blockHeader? c.rest
  let c ← (c.skip length).finishLine?
  -- a margin is one more than the column of the surrounding collection
  let given := header.increment.map fun n => margin - 1 + n
  let (deepest, breaks, c) ← scanBlankLines given fuel 0 [] c
  let indent := given.getD (max deepest (max margin 1))
  let (chars, first, more, c) ← blockLines literal indent fuel [] [] breaks false c
  let ending := match header.chomping with
    | .strip => []
    | .clip => first
    | .keep => first ++ more
  some (chars.reverse ++ ending, c)

end ChatFlow.Yaml
