import ChatFlow.Value.Basic

/-!
# ChatFlow — shapes of values

A shape says which values are expected at a place: a 32-bit number, a text, one of several names,
a list, a record with named fields, or one of several variants that a tag tells apart. Reading a
notation takes a shape and returns a value that has it, with every field of every record present
and in declared order.

A record lists its fields in order. A field that is missing is an error, is null, or has a
default, as its presence says.
-/

namespace ChatFlow

/-- What a missing field stands for. -/
inductive Presence
  | required
  /-- A missing field is null. -/
  | optional
  | defaulted (value : Value)

/-- The places that hold no further values. -/
inductive Leaf
  | word
  /-- A text; what is expected is named in messages, and a text may be refused with a message. -/
  | text (expecting : String) (fault? : String → Option String)

/-- A field of a variant. -/
inductive Part
  | one (leaf : Leaf)
  | many (leaf : Leaf)

/-- One of the alternatives that a tag tells apart. -/
structure Variant where
  /-- The text of the tag. -/
  tag : String
  /-- The name in messages. -/
  label : String
  parts : List (String × Part)

/-- Alternatives, and the name of the field that holds the tag. -/
structure Choice where
  name : String
  key : String
  variants : List Variant

mutual

inductive Shape
  | leaf (leaf : Leaf)
  /-- One of several names. -/
  | name (names : List String)
  | optional (inner : Shape)
  | list (item : Shape)
  /-- A record; its value may be refused with a message once it is complete. -/
  | record (name : String) (fields : Fields) (fault? : Value → Option String)
  | choice (choice : Choice)

inductive Fields
  | nil
  | cons (name : String) (presence : Presence) (shape : Shape) (rest : Fields)

end

/-! ## Fields -/

namespace Fields

def names : Fields → List String
  | .nil => []
  | .cons name _ _ rest => name :: rest.names

def count (fields : Fields) : Nat := fields.names.length

/-- Brings the fields that were read into declared order and fills in the missing ones; the
error names the first required field that is missing. -/
def complete (found : List (String × Value)) : Fields → Except String (List (String × Value))
  | .nil => .ok []
  | .cons name presence _ rest =>
    match found.find? (fun f => f.1 = name), presence with
    | some (_, v), _ | none, .defaulted v => (rest.complete found).map ((name, v) :: ·)
    | none, .optional => (rest.complete found).map ((name, .null) :: ·)
    | none, .required => .error name

end Fields

/-- The fields of a record with a check that finds nothing. -/
def Shape.plain (name : String) (fields : Fields) : Shape := .record name fields fun _ => none

/-! ## Wording -/

namespace Shape

/-- A list of names as an alternative. -/
def alternatives (names : List String) : String :=
  match names.map fun n => "`" ++ n ++ "`" with
  | [] => "there are no variants"
  | [a] => "expected " ++ a
  | [a, b] => "expected " ++ a ++ " or " ++ b
  | many => "expected one of " ++ ", ".intercalate many

def unknownName (found : String) (names : List String) : String :=
  "unknown variant `" ++ found ++ "`, " ++ alternatives names

def missingField (name : String) : String := "missing field `" ++ name ++ "`"

def repeatedField (name : String) : String := "duplicate field `" ++ name ++ "`"

def wrongType (found expecting : String) : String :=
  "invalid type: " ++ found ++ ", expected " ++ expecting

def wrongValue (found expecting : String) : String :=
  "invalid value: " ++ found ++ ", expected " ++ expecting

def wrongLength (found : Nat) (expecting : String) : String :=
  s!"invalid length {found}, expected {expecting}"

def ofElements (what : String) (count : Nat) : String :=
  s!"{what} with {count} element" ++ (if count = 1 then "" else "s")

end Shape

end ChatFlow
