import ChatFlow.Text.Quoted
import ChatFlow.Value.Shape

/-!
# ChatFlow — self-describing content

What a notation holds at a place, before anything is expected of it. The alternatives of a
`Choice` are read this way: the whole place is taken in first, since the tag that tells which
alternative it is may come last.
-/

namespace ChatFlow

inductive Content
  | null
  | bool (b : Bool)
  /-- A number without minus sign. -/
  | natural (n : Nat)
  /-- A number with a minus sign, by its magnitude; it may be zero. -/
  | negative (n : Nat)
  /-- A fractional number, as it is shown in messages. -/
  | float (shown : String)
  | text (s : String)
  | list (items : List Content)
  | map (entries : List (Content × Content))
  deriving Inhabited

namespace Content

/-- How a place is named in messages; notations differ in the name of null. -/
def describe (null : String) : Content → String
  | .null => null
  | .bool b => "boolean `" ++ toString b ++ "`"
  | .natural n => "integer `" ++ toString n ++ "`"
  | .negative n => "integer `" ++ toString (-(n : Int)) ++ "`"
  | .float shown => "floating point `" ++ shown ++ "`"
  | .text s => "string " ++ Text.quoted s
  | .list _ => "sequence"
  | .map _ => "map"

def mismatch {α : Type} (null : String) (c : Content) (expecting : String) : Except String α :=
  .error (Shape.wrongType (c.describe null) expecting)

end Content

/-! ## Reading content -/

def Leaf.expecting : Leaf → String
  | .word => "u32"
  | .text expecting _ => expecting

/-- Reads a leaf. A number that does not fit is a wrong value, anything else a wrong type. -/
def Leaf.read (null : String) : Leaf → Content → Except String Value
  | .word, .natural n =>
    if n < 4294967296 then .ok (.number n)
    else .error (Shape.wrongValue ((Content.natural n).describe null) Leaf.word.expecting)
  | .word, .negative n =>
    if n = 0 then .ok (.number 0)
    else .error (Shape.wrongValue ((Content.negative n).describe null) Leaf.word.expecting)
  | .text _ fault?, .text s =>
    match fault? s with
    | none => .ok (.text s)
    | some message => .error message
  | leaf, c => c.mismatch null leaf.expecting

def Part.read (null : String) : Part → Content → Except String Value
  | .one leaf, c => leaf.read null c
  | .many leaf, .list items => (items.mapM (leaf.read null)).map Value.list
  | .many _, c => c.mismatch null "a sequence"

namespace Variant

def fieldNames (v : Variant) : List String := v.parts.map Prod.fst

/-- The field that a key of a map names: by its name, or by its number, which has no minus sign. A
key that names no field is `none` inside. -/
def fieldOf (v : Variant) (null : String) : Content → Except String (Option String)
  | .text s => .ok (if s ∈ v.fieldNames then some s else none)
  | .natural n => .ok v.fieldNames[n]?
  | c => c.mismatch null "field identifier"

/-- Reads the entries of a map in order; unknown keys are skipped, repeated ones refused. -/
def readEntries (v : Variant) (null : String) :
    List (String × Value) → List (Content × Content) → Except String (List (String × Value))
  | found, [] => .ok found
  | found, (key, c) :: rest => do
    match ← v.fieldOf null key with
    | none => readEntries v null found rest
    | some name =>
      if found.any fun f => f.1 = name then .error (Shape.repeatedField name)
      else
        match v.parts.lookup name with
        | none => readEntries v null found rest
        | some part => readEntries v null (found ++ [(name, ← part.read null c)]) rest

/-- All fields in declared order. -/
def inOrder (found : List (String × Value)) :
    List (String × Part) → Except String (List (String × Value))
  | [] => .ok []
  | (name, _) :: rest =>
    match found.lookup name with
    | some v => (inOrder found rest).map ((name, v) :: ·)
    | none => .error (Shape.missingField name)

/-- Reads fields by position, from the given position on. -/
def readItems (v : Variant) (null : String) (index : Nat) :
    List (String × Part) → List Content → Except String (List (String × Value))
  | [], [] => .ok []
  | [], extra =>
    .error (Shape.wrongLength (index + extra.length)
      (s!"{index} element" ++ (if index = 1 then "" else "s") ++ " in sequence"))
  | _ :: _, [] =>
    .error (Shape.wrongLength index
      (Shape.ofElements s!"struct variant {v.label}" v.parts.length))
  | (name, part) :: parts, c :: rest => do
    let value ← part.read null c
    (readItems v null (index + 1) parts rest).map ((name, value) :: ·)

/-- Reads the fields of a variant from what the tag left. A variant without fields takes any
map. -/
def read (v : Variant) (null key : String) (c : Content) : Except String Value := do
  let fields ← (match c with
    | .map entries =>
      if v.parts.isEmpty then .ok [] else do inOrder (← v.readEntries null [] entries) v.parts
    | .list items => v.readItems null 0 v.parts items
    | c =>
      let kind := if v.parts.isEmpty then "unit" else "struct"
      c.mismatch null s!"{kind} variant {v.label}")
  .ok (.record ((key, .text v.tag) :: fields))

end Variant

namespace Choice

def expecting (c : Choice) : String := s!"internally tagged enum {c.name}"

def tags (c : Choice) : List String := c.variants.map Variant.tag

def variant? (c : Choice) (tag : String) : Option Variant :=
  c.variants.find? fun v => v.tag = tag

end Choice

end ChatFlow
