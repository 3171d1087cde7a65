/-!
# ChatFlow — serial values

The form in which flows, graphs, documents and settings are written and read: numbers, texts,
lists and records with named fields. A value says nothing about notation; JSON and YAML are two
notations for it.
-/

namespace ChatFlow

inductive Value
  | null
  | number (n : Nat)
  | text (s : String)
  | list (items : List Value)
  | record (fields : List (String × Value))
  deriving Inhabited

namespace Value

def field? (name : String) : Value → Option Value
  | .record fields => (fields.find? fun f => f.1 = name).map Prod.snd
  | _ => none

def text? : Value → Option String
  | .text s => some s
  | _ => none

/-- A number of 32 bits. -/
def word? : Value → Option UInt32
  | .number n => if n < 4294967296 then some (UInt32.ofNat n) else none
  | _ => none

def items? : Value → Option (List Value)
  | .list items => some items
  | _ => none

end Value

end ChatFlow
