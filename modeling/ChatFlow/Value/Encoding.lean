import ChatFlow.Storage.Error
import ChatFlow.Value.Shape

/-!
# ChatFlow — encodings and text formats

How a type of the library is written as a value: the shape of its values, the way to them and the
way back. Every value that a notation reads with the shape has a way back.

A text format is a notation for values, as far as files are concerned: how a value is written, and
how a value of a given shape is read.
-/

namespace ChatFlow

structure Encoding (α : Type) where
  shape : Shape
  toValue : α → Value
  ofValue? : Value → Option α

namespace Encoding

/-- Any text. -/
def anyText : Shape := .leaf (.text "a string" fun _ => none)

def word : Shape := .leaf .word

/-- The values of a list of things, each with a way back. -/
def all? {α : Type} (ofValue? : Value → Option α) (v : Value) : Option (List α) :=
  v.items?.bind fun items => items.mapM ofValue?

end Encoding

/-! ## Text formats -/

structure TextFormat where
  print : Value → String
  read : Shape → String → Except ReadError Value

namespace TextFormat

def write {α : Type} (format : TextFormat) (encoding : Encoding α) (a : α) : String :=
  format.print (encoding.toValue a)

/-- Reads a thing of the library. Values of the right shape have a way back to it. -/
def readAs {α : Type} (format : TextFormat) (encoding : Encoding α) (text : String) :
    Except ReadError α := do
  match encoding.ofValue? (← format.read encoding.shape text) with
  | some a => .ok a
  | none => .error .malformed

end TextFormat

end ChatFlow
