import ChatFlow.Storage.Error
import ChatFlow.Yaml.Node.Builder
import ChatFlow.Yaml.Node.Resolution
import ChatFlow.Yaml.Token.Lexer

/-!
# ChatFlow — values from YAML

Reads a value of a given shape from a YAML text. A malformed place anywhere wins over a value that
does not fit. A message begins with the path to the place that it is about.

Aliases are followed wherever a value is read. How often this may happen is limited, and so is the
nesting of what an alternative takes in, since an alias may lead back into itself.
-/

namespace ChatFlow.Yaml

/-- The way from the root to a place. -/
inductive Path
  | root
  | item (parent : Path) (index : Nat)
  | field (parent : Path) (name : String)
  /-- The value of a key that is no scalar. -/
  | unnamed (parent : Path)
  deriving DecidableEq, Inhabited

namespace Path

mutual

def toString : Path → String
  | .root => "."
  | .item parent index => s!"{parent.toString}[{index}]"
  | .field parent name => parent.stem ++ name
  | .unnamed parent => parent.stem ++ "?"

/-- The path as the beginning of a longer one. -/
def stem : Path → String
  | .root => ""
  | .item parent index => s!"{parent.toString}[{index}]."
  | .field parent name => parent.stem ++ name ++ "."
  | .unnamed parent => parent.stem ++ "?."

end

instance : ToString Path := ⟨toString⟩

end Path

/-! ## Failures -/

inductive Failure
  /-- A message, and the place if it is known already. -/
  | misfit (path : Option Path) (message : String)
  /-- A message about the text as a whole. -/
  | overall (message : String)

def Failure.message : Failure → String
  | .misfit none message => message
  | .misfit (some path) message =>
    if path.toString = "." then message else s!"{path}: {message}"
  | .overall message => message

/-- Reads with the number of aliases that were followed so far. -/
abbrev Reading (α : Type) := StateT Nat (Except Failure) α

def misfit {α : Type} (message : String) : Reading α := throw (.misfit none message)

def fits {α : Type} : Except String α → Reading α
  | .ok a => pure a
  | .error message => misfit message

def wholly {α : Type} (message : String) : Reading α := throw (.overall message)

def textEnded {α : Type} : Reading α := wholly "EOF while parsing a value"

def tooDeep {α : Type} : Reading α := wholly "recursion limit exceeded"

/-- Tells where a failure arose, unless that is known. -/
def within {α : Type} (path : Path) (reading : Reading α) : Reading α := fun followed =>
  match reading followed with
  | .error (.misfit none message) => .error (.misfit (some path) message)
  | result => result

/-! ## Aliases -/

/-- How deep collections may be nested. -/
def maxDepth : Nat := 128

/-- How many aliases may be followed per place of the document. -/
def aliasesPerPlace : Nat := 100

/-- The node that an alias stands for, and any other node itself. -/
def Document.follow (d : Document) : Node → Reading Node
  | .alias label => do
    let followed ← get
    -- a document that repeats itself through aliases is cut off here
    if aliasesPerPlace * d.root.places < followed + 1 then wholly "repetition limit exceeded"
    else
      set (followed + 1)
      pure ((d.target? label).getD .absent)
  | node => pure node

/-! ## Scalars -/

/-- How a scalar is named in messages. -/
def Scalar.describe (s : Scalar) : Except String String :=
  s.resolve.map fun
    | .content c => c.describe "unit value"
    | .wide n => "integer `" ++ toString n ++ "` as " ++ if 0 ≤ n then "u128" else "i128"

/-- Something else was expected of a node. -/
def mismatch {α : Type} (node : Node) (expecting : String) : Reading α :=
  match node with
  | .scalar s => do misfit (Shape.wrongType (← fits s.describe) expecting)
  | .sequence .. => misfit (Shape.wrongType "sequence" expecting)
  | .mapping .. => misfit (Shape.wrongType "map" expecting)
  | _ => textEnded

def readText (expecting : String) : Node → Reading String
  | .scalar s => pure s.text
  | node => mismatch node expecting

def readLeaf (leaf : Leaf) (node : Node) : Reading Value :=
  match leaf with
  | .text expecting _ => do fits (leaf.read "unit value" (.text (← readText expecting node)))
  | .word =>
    match node with
    | .scalar s =>
      match s.natural? with
      | some n => fits (leaf.read "unit value" (.natural n))
      | none => mismatch node leaf.expecting
    | node => mismatch node leaf.expecting

/-! ## Names -/

def readName (names : List String) (s : String) : Reading Value :=
  if s ∈ names then pure (.text s) else misfit (Shape.unknownName s names)

/-- The value behind a tag that is a name already. -/
def readNothing : Node → Reading Unit
  | .absent => pure ()
  | .scalar s =>
    if s.style = .plain ∧ isNothing s.text then pure ()
    else misfit (Shape.wrongValue ((Content.text s.text).describe "") "null")
  | node => mismatch node "unit"

/-- A name as a tag, with nothing behind it. A tag that is no name is the fault of the place around
it, or of the alias that led there. -/
def readTaggedName (names : List String) (path : Path) (tag : String) (node : Node) :
    Reading Value := do
  let v ← readName names tag
  within path (readNothing node)
  pure v

def readNameNode (names : List String) (path : Path) (node : Node) : Reading Value :=
  let tag? (tag : Option TagText) : Option String := tag.bind TagText.localName?
  let collection (tag : Option TagText) (kind : String) : Reading Value :=
    match tag? tag with
    | some tag => readTaggedName names path tag node
    | none => within path (misfit (Shape.wrongType kind "a YAML tag starting with '!'"))
  match node with
  | .scalar s =>
    match tag? s.tag with
    | some tag => readTaggedName names path tag node
    | none => within path (readName names s.text)
  | .sequence tag _ => collection tag "sequence"
  | .mapping tag _ => collection tag "map"
  | _ => textEnded

/-! ## Content -/

/-- The content of a scalar; integers beyond 64 bits are refused. -/
def Scalar.content (s : Scalar) (expecting : String) : Except String Content := do
  match ← s.resolve with
  | .content c => .ok c
  | .wide _ => .error (Shape.wrongType (← s.describe) expecting)

def hasLocalTag (tag : Option TagText) : Bool := (tag.bind TagText.localName?).isSome

def tagRefused {α : Type} : Reading α :=
  misfit "untagged and internally tagged enums do not support enum input"

/-- The path to the value of a key. -/
def Path.ofKey (path : Path) : Node → Path
  | .scalar s => path.field s.text
  | _ => path.unnamed

/-- Reads every item with its path. -/
def readEach {α : Type} (path : Path) (read : Path → Node → Reading α) (start : Nat)
    (items : List Node) : Reading (List α) :=
  (items.zipIdx start).mapM fun (item, index) => read (path.item index) item

/-- Takes in a node without expecting anything of it. -/
def takeIn (d : Document) : Nat → String → Path → Node → Reading Content
  | depth, expecting, path, node => within path do
    match ← d.follow node with
    | .scalar s => if hasLocalTag s.tag then tagRefused else fits (s.content expecting)
    | .sequence tag items =>
      if hasLocalTag tag then tagRefused
      else match depth with
        | 0 => tooDeep
        | depth + 1 => do
          pure (.list (← readEach path (takeIn d depth "any value") 0 items))
    | .mapping tag entries =>
      if hasLocalTag tag then tagRefused
      else match depth with
        | 0 => tooDeep
        | depth + 1 => do
          let entries ← entries.mapM fun (key, value) => do
            let k ← takeIn d depth "any value" path key
            pure (k, ← takeIn d depth "any value" (path.ofKey key) value)
          pure (.map entries)
    | _ => pure .null

/-! ## Alternatives -/

def readTag (d : Document) (choice : Choice) (path : Path) (node : Node) : Reading Variant :=
  within path do
    let s ← readText "variant identifier" (← d.follow node)
    match choice.variant? s with
    | some v => pure v
    | none => misfit (Shape.unknownName s choice.tags)

/-- Looks for the tag among the entries and takes in the others. -/
def findTag (d : Document) (choice : Choice) (depth : Nat) (path : Path) (tag : Option Variant)
    (found : List (Content × Content)) :
    List (Node × Node) → Reading (Variant × Content)
  | [] =>
    match tag with
    | some v => pure (v, .map found)
    | none => misfit (Shape.missingField choice.key)
  | (key, value) :: rest => do
    let expecting := "a type tag `" ++ choice.key ++ "` or any other value"
    match ← takeIn d depth expecting path key with
    | .text s =>
      if s = choice.key then
        if tag.isSome then misfit (Shape.repeatedField choice.key)
        else
          let v ← readTag d choice (path.ofKey key) value
          findTag d choice depth path (some v) found rest
      else
        let c ← takeIn d depth "any value" (path.ofKey key) value
        findTag d choice depth path tag (found ++ [(.text s, c)]) rest
    | k =>
      let c ← takeIn d depth "any value" (path.ofKey key) value
      findTag d choice depth path tag (found ++ [(k, c)]) rest

/-- The alternative that a node chooses, with what the tag left of it. -/
def readTagged (d : Document) (choice : Choice) (depth : Nat) (path : Path) (node : Node) :
    Reading (Variant × Content) :=
  let wrong (found : String) : Reading (Variant × Content) :=
    misfit (Shape.wrongType found choice.expecting)
  match node with
  | .scalar s =>
    if hasLocalTag s.tag then wrong "enum" else mismatch node choice.expecting
  | .sequence tag items =>
    if hasLocalTag tag then wrong "enum"
    else match depth, items with
      | 0, _ => tooDeep
      | _, [] => misfit (Shape.missingField choice.key)
      | depth + 1, head :: rest => do
        let v ← readTag d choice (path.item 0) head
        pure (v, .list (← readEach path (takeIn d depth "any value") 1 rest))
  | .mapping tag entries =>
    if hasLocalTag tag then wrong "enum"
    else match depth with
      | 0 => tooDeep
      | depth + 1 => findTag d choice depth path none [] entries
  | _ => wrong "Option value"

/-- Reads the alternative that the tag names. What is wrong with its fields is the fault of the
place around it. -/
def readChoice (d : Document) (choice : Choice) (depth : Nat) (path : Path) (node : Node) :
    Reading Value := do
  let (v, c) ← within path (readTagged d choice depth path node)
  fits (v.read "unit value" choice.key c)

/-! ## Lists and records -/

/-- Reads the entries in order; a field that comes again is refused before its value is looked
at. -/
def readEntries (d : Document) (read? : String → Option (Path → Node → Reading Value))
    (path : Path) (found : List (String × Value)) :
    List (Node × Node) → Reading (List (String × Value))
  | [] => pure found
  | (key, value) :: rest => do
    let name ← readText "field identifier" (← d.follow key)
    match read? name with
    -- unknown fields are passed over unread
    | none => readEntries d read? path found rest
    | some read =>
      if found.any fun f => f.1 = name then misfit (Shape.repeatedField name)
      else
        let v ← read (path.ofKey key) value
        readEntries d read? path (found ++ [(name, v)]) rest

/-- The entries of a record; a blank place has none. -/
def recordEntries (name : String) : Node → Reading (List (Node × Node))
  | .mapping _ entries => pure entries
  | .absent => pure []
  | .scalar s => if s.isBlank then pure [] else mismatch (.scalar s) s!"struct {name}"
  | node => mismatch node s!"struct {name}"

/-- The items of a list; a blank place has none. -/
def listItems : Node → Reading (List Node)
  | .sequence _ items => pure items
  | .absent => pure []
  | .scalar s => if s.isBlank then pure [] else mismatch (.scalar s) "a sequence"
  | node => mismatch node "a sequence"

/-- The place holds the lack of a value. -/
def lacksValue : Node → Reading Bool
  | .absent => pure true
  | .scalar s => fits s.isNone
  | _ => pure false

/-- Accepts a complete record. -/
def accept (fields : List (String × Value)) (fault? : Value → Option String) : Reading Value :=
  match fault? (.record fields) with
  | none => pure (.record fields)
  | some message => misfit message

mutual

def readShape (d : Document) (depth : Nat) : Shape → Path → Node → Reading Value
  | .leaf leaf, path, node => within path do readLeaf leaf (← d.follow node)
  | .name names, path, node => do
    let reading := readNameNode names path (← d.follow node)
    -- a fault behind an alias is told at the place of the alias
    if node.isAlias then within path reading else reading
  | .optional inner, path, node => do
    let node ← d.follow node
    if ← lacksValue node then pure .null else readShape d depth inner path node
  -- shapes are far less than `maxDepth` deep, so the depth does not run out in them
  | .list item, path, node => within path do
    let items ← listItems (← d.follow node)
    pure (.list (← readEach path (readShape d (depth - 1) item) 0 items))
  | .record name fields fault?, path, node => do
    let complete ← within path do
      let entries ← recordEntries name (← d.follow node)
      let found ← readEntries d (readField? d (depth - 1) fields) path [] entries
      fits ((fields.complete found).mapError Shape.missingField)
    -- what is wrong with the record as a whole is the fault of the place around it
    accept complete fault?
  | .choice choice, path, node => do readChoice d choice depth path (← d.follow node)

/-- How the field of this name is read. -/
def readField? (d : Document) (depth : Nat) :
    Fields → String → Option (Path → Node → Reading Value)
  | .nil, _ => none
  | .cons name _ shape rest, key =>
    if name = key then some (readShape d depth shape) else readField? d depth rest key

end

/-! ## Texts -/

/-- The document of a text, if it is not malformed and holds no more than one. -/
def parse? (s : String) : Option Document := (tokens? s).bind Document.ofTokens?

/-- Reads a value of the given shape. -/
def read (shape : Shape) (s : String) : Except ReadError Value :=
  match parse? s with
  | none => .error .malformed
  | some d =>
    match readShape d maxDepth shape .root d.root 0 with
    | .ok (v, _) => .ok v
    | .error failure => .error (.misfit failure.message)

end ChatFlow.Yaml
