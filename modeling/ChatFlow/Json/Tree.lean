import ChatFlow.Decimal.Shortest
import ChatFlow.Value.Content

/-!
# ChatFlow — JSON trees

What a JSON text says, up to the first place where it is malformed. A text is read from front to
back, so a value that does not fit wins over a malformed place behind it; the tree therefore
keeps what stands before that place, and the end of every array and object tells whether it was
closed.
-/

namespace ChatFlow.Json

/-- A number: an integer of 64 bits, or a fraction. -/
inductive Numeral
  | natural (n : Nat)
  /-- A negative integer, by its absolute value. -/
  | negative (n : Nat)
  | float (minus : Bool) (b : Decimal.Binary64)
  deriving DecidableEq, Inhabited

mutual

inductive Tree
  /-- The text is malformed here. -/
  | broken
  | null
  | bool (b : Bool)
  /-- `none` is a number out of range, which may be skipped but not read. -/
  | number (n : Option Numeral)
  /-- `none` is a text with half a surrogate pair, which may be skipped but not read. -/
  | text (s : Option String)
  | array (items : Items)
  | object (members : Members)

inductive Items
  | closed
  | broken
  | cons (head : Tree) (rest : Items)

inductive Members
  | closed
  | broken
  /-- A key is a text like any other, so it may be one that cannot be read. -/
  | cons (key : Option String) (value : Tree) (rest : Members)

end

namespace Numeral

def floatText (minus : Bool) (b : Decimal.Binary64) : String :=
  String.ofList ((if minus then ['-'] else []) ++ b.toCompactChars)

def toContent : Numeral → Content
  | .natural n => .natural n
  | .negative n => .negative n
  | .float minus b => .float (floatText minus b)

end Numeral

/-! ## Skipping -/

mutual

/-- The tree has no malformed place, so it can be skipped. -/
def Tree.sound : Tree → Bool
  | .broken => false
  | .array items => items.sound
  | .object members => members.sound
  | _ => true

def Items.sound : Items → Bool
  | .closed => true
  | .broken => false
  | .cons head rest => head.sound && rest.sound

def Members.sound : Members → Bool
  | .closed => true
  | .broken => false
  | .cons _ value rest => value.sound && rest.sound

end

/-! ## Taking in -/

mutual

/-- The content of a tree, unless it is malformed, cannot be read or is nested more than `depth`
deep. -/
def Tree.content? (depth : Nat) : Tree → Option Content
  | .broken => none
  | .null => some .null
  | .bool b => some (.bool b)
  | .number n => n.map Numeral.toContent
  | .text s => s.map Content.text
  | .array items =>
    match depth with
    | 0 => none
    | depth + 1 => (items.content? depth).map Content.list
  | .object members =>
    match depth with
    | 0 => none
    | depth + 1 => (members.content? depth).map Content.map

def Items.content? (depth : Nat) : Items → Option (List Content)
  | .closed => some []
  | .broken => none
  | .cons head rest => do (← head.content? depth) :: (← rest.content? depth)

def Members.content? (depth : Nat) : Members → Option (List (Content × Content))
  | .closed => some []
  | .broken => none
  | .cons key value rest => do (.text (← key), ← value.content? depth) :: (← rest.content? depth)

end

end ChatFlow.Json
