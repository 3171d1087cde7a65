import ChatFlow.Json.Parser
import ChatFlow.Storage.Error

/-!
# ChatFlow — values from JSON

Reads a value of a given shape from a JSON tree. A record may also be written as an array of its
fields in declared order, where fields with a default may be left off at the end. Fields that the
shape does not know are skipped.
-/

namespace ChatFlow.Json

/-- How deep arrays and objects may be nested. -/
def maxDepth : Nat := 127

abbrev Reading (α : Type) := Except ReadError α

def misfit {α : Type} (message : String) : Reading α := .error (.misfit message)

def fits {α : Type} : Except String α → Reading α
  | .ok a => .ok a
  | .error message => misfit message

/-- The content of a tree without what is inside of arrays and objects. -/
def Tree.shallow? : Tree → Option Content
  | .array _ => some (.list [])
  | .object _ => some (.map [])
  | tree => tree.content? 0

def mismatch {α : Type} (tree : Tree) (expecting : String) : Reading α :=
  match tree.shallow? with
  | some c => fits (c.mismatch "null" expecting)
  | none => .error .malformed

/-! ## Leaves and names -/

def readLeaf (leaf : Leaf) (tree : Tree) : Reading Value :=
  match tree.shallow? with
  | some c => fits (leaf.read "null" c)
  | none => .error .malformed

def readName (names : List String) (s : String) : Reading Value :=
  if s ∈ names then .ok (.text s) else misfit (Shape.unknownName s names)

/-- A name that is written as an object with the name as its only key and null as its value. -/
def readNameObject (names : List String) (key : String) (value : Tree) (rest : Members) :
    Reading Value := do
  let name ← readName names key
  match value, rest with
  | .null, .closed => .ok name
  | .null, _ => .error .malformed
  | value, _ => mismatch value "unit"

def readNameTree (names : List String) : Tree → Reading Value
  | .text (some s) => readName names s
  | .object (.cons (some key) value rest) => readNameObject names key value rest
  | _ => .error .malformed

/-! ## Alternatives -/

def readTag (choice : Choice) : Tree → Reading Variant
  | .text (some s) =>
    match choice.variant? s with
    | some v => .ok v
    | none => misfit (Shape.unknownName s choice.tags)
  | tree => mismatch tree "variant identifier"

/-- Looks for the tag among the members and takes in the others. -/
def readChoiceMembers (choice : Choice) (depth : Nat) (tag : Option Variant)
    (entries : List (Content × Content)) : Members → Reading Value
  | .broken => .error .malformed
  | .closed =>
    match tag with
    | some v => fits (v.read "null" choice.key (.map entries))
    | none => misfit (Shape.missingField choice.key)
  | .cons none _ _ => .error .malformed
  | .cons (some key) value rest =>
    if key = choice.key then
      if tag.isSome then misfit (Shape.repeatedField key)
      else do
        let v ← readTag choice value
        readChoiceMembers choice depth (some v) entries rest
    else
      match value.content? depth with
      | some c => readChoiceMembers choice depth tag (entries ++ [(.text key, c)]) rest
      | none => .error .malformed

def readChoice (choice : Choice) (depth : Nat) : Tree → Reading Value
  | .object members => readChoiceMembers choice depth none [] members
  | .array .closed => misfit (Shape.missingField choice.key)
  | .array (.cons head rest) => do
    let v ← readTag choice head
    match rest.content? depth with
    | some items => fits (v.read "null" choice.key (.list items))
    | none => .error .malformed
  | .array .broken => .error .malformed
  | tree => mismatch tree choice.expecting

/-! ## Lists and records -/

def readItems (read : Tree → Reading Value) : Items → Reading (List Value)
  | .closed => .ok []
  | .broken => .error .malformed
  | .cons head rest => do
    let v ← read head
    (readItems read rest).map (v :: ·)

/-- Reads the members in order; a field that comes again is refused before its value is looked
at. -/
def readMembers (read? : String → Option (Tree → Reading Value)) (found : List (String × Value)) :
    Members → Reading (List (String × Value))
  | .closed => .ok found
  | .broken => .error .malformed
  | .cons none _ _ => .error .malformed
  | .cons (some key) value rest =>
    match read? key with
    -- an unknown field is passed over, but it has to be well-formed
    | none => if value.sound then readMembers read? found rest else .error .malformed
    | some read =>
      if found.any fun f => f.1 = key then misfit (Shape.repeatedField key)
      else do
        let v ← read value
        readMembers read? (found ++ [(key, v)]) rest

/-- Nothing may be left of an array after the last field. -/
def surplus : Items → Reading (List (String × Value))
  | .closed => .ok []
  | _ => .error .malformed

/-- Accepts a complete record. -/
def accept (fields : List (String × Value)) (fault? : Value → Option String) : Reading Value :=
  match fault? (.record fields) with
  | none => .ok (.record fields)
  | some message => misfit message

mutual

def readShape (depth : Nat) : Shape → Tree → Reading Value
  | .leaf leaf, tree => readLeaf leaf tree
  | .name names, tree => readNameTree names tree
  | .optional _, .null => .ok .null
  | .optional inner, tree => readShape depth inner tree
  | .list item, tree =>
    match tree with
    | .array items => (readItems (readShape (depth - 1) item) items).map Value.list
    | tree => mismatch tree "a sequence"
  | .record name fields fault?, tree =>
    match tree with
    | .object members => do
      let found ← readMembers (readField? (depth - 1) fields) [] members
      let complete ← fits ((fields.complete found).mapError Shape.missingField)
      accept complete fault?
    | .array items => do
      let expecting := Shape.ofElements s!"struct {name}" fields.count
      let found ← readPositions (depth - 1) expecting 0 fields items
      accept found fault?
    | tree => mismatch tree s!"struct {name}"
  | .choice choice, tree => readChoice choice (depth - 1) tree

/-- How the field of this name is read. -/
def readField? (depth : Nat) :
    Fields → String → Option (Tree → Reading Value)
  | .nil, _ => none
  | .cons name _ shape rest, key =>
    if name = key then some (readShape depth shape) else readField? depth rest key

/-- Reads fields by position, from the given position on. -/
def readPositions (depth : Nat) (expecting : String) (index : Nat) :
    Fields → Items → Reading (List (String × Value))
  | .nil, items => surplus items
  | .cons name presence shape rest, items =>
    match items with
    | .broken => .error .malformed
    | .closed =>
      match presence with
      | .defaulted v =>
        (readPositions depth expecting (index + 1) rest .closed).map ((name, v) :: ·)
      | _ => misfit (Shape.wrongLength index expecting)
    | .cons head tail => do
      let v ← readShape depth shape head
      (readPositions depth expecting (index + 1) rest tail).map ((name, v) :: ·)

end

/-- Reads a value of the given shape from a tree. -/
def readTree (shape : Shape) (tree : Tree) : Reading Value := readShape maxDepth shape tree

/-- Reads a value of the given shape from a text, which must end after it. -/
def read (shape : Shape) (s : String) : Reading Value :=
  let (tree, ended) := parse s
  match readTree shape tree with
  | .ok v => if ended then .ok v else .error .malformed
  | .error e => .error e

end ChatFlow.Json
