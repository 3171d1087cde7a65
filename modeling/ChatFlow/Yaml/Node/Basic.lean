import ChatFlow.Yaml.Token.Basic

/-!
# ChatFlow — YAML nodes

What a YAML text holds: one document, a tree of scalars, sequences and mappings. An alias names the
node it stands for by a label; `Document.target?` looks it up.
-/

namespace ChatFlow.Yaml

structure Scalar where
  text : String
  style : Style
  tag : Option TagText
  deriving DecidableEq, Inhabited

inductive Node
  /-- The document of a text that has none. -/
  | absent
  | alias (label : Nat)
  | scalar (s : Scalar)
  | sequence (tag : Option TagText) (items : List Node)
  | mapping (tag : Option TagText) (entries : List (Node × Node))
  deriving Inhabited

/-- The scalar that stands where nothing is written. -/
def Node.blank : Node := .scalar ⟨"", .plain, none⟩

def Node.isAlias : Node → Bool
  | .alias _ => true
  | _ => false

mutual

/-- The number of places in a node: its scalars and aliases, and the beginning and end of each
collection. -/
def Node.places : Node → Nat
  | .absent => 1
  | .alias _ => 1
  | .scalar _ => 1
  | .sequence _ items => 2 + placesOfItems items
  | .mapping _ entries => 2 + placesOfEntries entries

def placesOfItems : List Node → Nat
  | [] => 0
  | n :: rest => n.places + placesOfItems rest

def placesOfEntries : List (Node × Node) → Nat
  | [] => 0
  | (k, v) :: rest => k.places + v.places + placesOfEntries rest

end

structure Document where
  root : Node
  /-- The nodes that labels stand for; of several with one label the first counts. -/
  targets : List (Nat × Node)
  deriving Inhabited

def Document.target? (d : Document) (label : Nat) : Option Node := d.targets.lookup label

end ChatFlow.Yaml
