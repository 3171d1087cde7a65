import ChatFlow.Yaml.Node.Basic

/-!
# ChatFlow — YAML nodes from tokens

`Document.ofTokens?` builds the document that a list of tokens describes, or fails if it describes
none or more than one. Each function takes the tokens that are left, and returns the node with the
tokens behind it.

A label is the number of different anchor names so far, so after an anchor was defined anew two
names may share a label; the label then stands for the node that began last.
-/

namespace ChatFlow.Yaml

/-- The tag prefixes and labels that are known at a place. -/
structure Scope where
  handles : List (List Char × TagText)
  /-- The labels of the anchor names. -/
  labels : List (List Char × Nat) := []
  /-- The anchored nodes by number of appearance, as far as they are complete. -/
  nodes : List (Nat × Node) := []
  /-- Which anchored node a label stands for, newest first. -/
  holders : List (Nat × Nat) := []

namespace Scope

/-- Gives a name its label; returns the number under which the node is to be completed. -/
def define (s : Scope) (name : List Char) : Nat × Scope :=
  let label := s.labels.length
  let number := s.holders.length
  let labels := match s.labels.find? fun l => l.1 = name with
    | some _ => s.labels.map fun l => if l.1 = name then (name, label) else l
    | none => s.labels ++ [(name, label)]
  (number, { s with labels, holders := (label, number) :: s.holders })

def complete (s : Scope) (number : Option Nat) (node : Node) : Scope :=
  match number with
  | some number => { s with nodes := (number, node) :: s.nodes }
  | none => s

/-- The nodes by label. -/
def targets (s : Scope) : List (Nat × Node) :=
  s.holders.filterMap fun (label, number) => (s.nodes.lookup number).map (label, ·)

/-- The tag that a handle and a suffix stand for; the empty handle adds nothing. -/
def tag? (s : Scope) (handle : List Char) (suffix : TagText) : Option TagText :=
  if handle.isEmpty then some suffix else (s.handles.lookup handle).map (· ++ suffix)

end Scope

/-- A node, the scope behind it and the tokens behind it. -/
abbrev Built (α : Type) := α × Scope × List Token

/-! ## Properties -/

structure Properties where
  anchor : Option (List Char) := none
  tag : Option (List Char × TagText) := none

/-- An anchor and a tag in either order, both optional. -/
def takeProperties : List Token → Properties × List Token
  | .anchor name :: .tag handle suffix :: rest => ({ anchor := name, tag := (handle, suffix) }, rest)
  | .anchor name :: rest => ({ anchor := name }, rest)
  | .tag handle suffix :: .anchor name :: rest => ({ anchor := name, tag := (handle, suffix) }, rest)
  | .tag handle suffix :: rest => ({ tag := (handle, suffix) }, rest)
  | tokens => ({}, tokens)

/-! ## Nodes -/

/-- The kinds of node that may stand at a place. -/
inductive Place
  | block
  /-- A key or a value of a block mapping: a sequence may stand at the indentation of the
  mapping. -/
  | blockEntry
  | flow
  deriving DecidableEq

/-- Nothing is written for a key or a value of a block mapping. -/
def endsBlockEntry : List Token → Bool
  | .key :: _ | .value :: _ | .blockEnd :: _ => true
  | _ => false

/-- Nothing is written for an item of a block sequence. -/
def endsBlockItem : List Token → Bool
  | .blockEntry :: _ | .blockEnd :: _ => true
  | _ => false

/-- Nothing is written for an item of a sequence at the indentation of its mapping. -/
def endsFlushItem : List Token → Bool
  | .blockEntry :: _ | .key :: _ | .value :: _ | .blockEnd :: _ => true
  | _ => false

def endsFlowItem : List Token → Bool
  | .flowEntry :: _ | .flowSequenceEnd :: _ => true
  | _ => false

def endsFlowEntry : List Token → Bool
  | .flowEntry :: _ | .flowMappingEnd :: _ => true
  | _ => false

/-- The comma before every item but the first. -/
def takeComma (first : Bool) : List Token → Option (List Token)
  | .flowEntry :: rest => if first then none else some rest
  | tokens => if first then some tokens else none

mutual

/-- A node with its properties. -/
def buildNode (place : Place) : Nat → Scope → List Token → Option (Built Node)
  | 0, _, _ => none
  | fuel + 1, s, tokens =>
    match tokens with
    | .alias name :: rest => (s.labels.lookup name).map fun label => (.alias label, s, rest)
    | tokens => do
      let (properties, tokens) := takeProperties tokens
      -- an unknown handle is a fault even if the node behind it is one too
      let tag ← (match properties.tag with
        | some (handle, suffix) => (s.tag? handle suffix).map some
        | none => some none)
      -- the name counts inside the node already, so an alias may lead back into it
      let (number, s) := match properties.anchor with
        | some name => let (number, s) := s.define name; (some number, s)
        | none => (none, s)
      let anyProperty := properties.anchor.isSome || tag.isSome
      let (node, s, tokens) ← buildContent place tag anyProperty fuel s tokens
      some (node, s.complete number node, tokens)

/-- A node behind its properties. -/
def buildContent (place : Place) (tag : Option TagText) (anyProperty : Bool) :
    Nat → Scope → List Token → Option (Built Node)
  | 0, _, _ => none
  | fuel + 1, s, tokens =>
    -- properties alone make a node without text
    let missing : Option (Built Node) :=
      if anyProperty then some (.scalar ⟨"", .plain, tag⟩, s, tokens) else none
    match tokens with
    | .scalar chars style :: rest =>
      some (.scalar ⟨String.ofList chars, style, tag⟩, s, rest)
    | .flowSequenceStart :: rest => do
      let (items, s, rest) ← buildFlowItems true fuel s rest
      some (.sequence tag items, s, rest)
    | .flowMappingStart :: rest => do
      let (entries, s, rest) ← buildFlowEntries true fuel s rest
      some (.mapping tag entries, s, rest)
    | .blockSequenceStart :: rest =>
      if place = .flow then missing
      else do
        let (items, s, rest) ← buildItems fuel s rest
        some (.sequence tag items, s, rest)
    | .blockMappingStart :: rest =>
      if place = .flow then missing
      else do
        let (entries, s, rest) ← buildEntries fuel s rest
        some (.mapping tag entries, s, rest)
    | .blockEntry :: _ =>
      if place = .blockEntry then do
        let (items, s, rest) ← buildFlushItems fuel s tokens
        some (.sequence tag items, s, rest)
      else missing
    | _ => missing

/-- A node, or the blank scalar if nothing is written. -/
def buildOptional (place : Place) (nothing : List Token → Bool) :
    Nat → Scope → List Token → Option (Built Node)
  | 0, _, _ => none
  | fuel + 1, s, tokens =>
    if nothing tokens then some (.blank, s, tokens) else buildNode place fuel s tokens

/-- The items of a block sequence. -/
def buildItems : Nat → Scope → List Token → Option (Built (List Node))
  | 0, _, _ => none
  | fuel + 1, s, tokens =>
    match tokens with
    | .blockEntry :: rest => do
      let (item, s, rest) ← buildOptional .block endsBlockItem fuel s rest
      let (items, s, rest) ← buildItems fuel s rest
      some (item :: items, s, rest)
    | .blockEnd :: rest => some ([], s, rest)
    | _ => none

/-- The items of a block sequence at the indentation of its mapping. -/
def buildFlushItems : Nat → Scope → List Token → Option (Built (List Node))
  | 0, _, _ => none
  | fuel + 1, s, tokens =>
    match tokens with
    | .blockEntry :: rest => do
      let (item, s, rest) ← buildOptional .block endsFlushItem fuel s rest
      let (items, s, rest) ← buildFlushItems fuel s rest
      some (item :: items, s, rest)
    | tokens => some ([], s, tokens)

/-- The entries of a block mapping. -/
def buildEntries : Nat → Scope → List Token → Option (Built (List (Node × Node)))
  | 0, _, _ => none
  | fuel + 1, s, tokens =>
    match tokens with
    | .key :: rest => do
      let (key, s, rest) ← buildOptional .blockEntry endsBlockEntry fuel s rest
      let (value, s, rest) ← buildValue .blockEntry endsBlockEntry fuel s rest
      let (entries, s, rest) ← buildEntries fuel s rest
      some ((key, value) :: entries, s, rest)
    | .blockEnd :: rest => some ([], s, rest)
    | _ => none

/-- What stands behind the colon of an entry, if there is one. -/
def buildValue (place : Place) (nothing : List Token → Bool) :
    Nat → Scope → List Token → Option (Built Node)
  | 0, _, _ => none
  | fuel + 1, s, tokens =>
    match tokens with
    | .value :: rest => buildOptional place nothing fuel s rest
    | tokens => some (.blank, s, tokens)

/-- The items of a flow sequence. -/
def buildFlowItems (first : Bool) : Nat → Scope → List Token → Option (Built (List Node))
  | 0, _, _ => none
  | fuel + 1, s, tokens =>
    match tokens with
    | .flowSequenceEnd :: rest => some ([], s, rest)
    | tokens => do
      match ← takeComma first tokens with
      | .flowSequenceEnd :: rest => some ([], s, rest)
      | .key :: rest => do
        -- a single entry is an item as a mapping of its own
        let (key, s, rest) ← buildPairKey fuel s rest
        let (value, s, rest) ← buildValue .flow endsFlowItem fuel s rest
        let (items, s, rest) ← buildFlowItems false fuel s rest
        some (.mapping none [(key, value)] :: items, s, rest)
      | rest => do
        let (item, s, rest) ← buildNode .flow fuel s rest
        let (items, s, rest) ← buildFlowItems false fuel s rest
        some (item :: items, s, rest)

/-- The key of a single pair among the items of a flow sequence. If nothing is written for it, the
token that shows this is passed over. -/
def buildPairKey : Nat → Scope → List Token → Option (Built Node)
  | 0, _, _ => none
  | fuel + 1, s, tokens =>
    match tokens with
    | .value :: rest | .flowEntry :: rest | .flowSequenceEnd :: rest => some (.blank, s, rest)
    | tokens => buildNode .flow fuel s tokens

/-- The entries of a flow mapping. -/
def buildFlowEntries (first : Bool) : Nat → Scope → List Token → Option (Built (List (Node × Node)))
  | 0, _, _ => none
  | fuel + 1, s, tokens =>
    match tokens with
    | .flowMappingEnd :: rest => some ([], s, rest)
    | tokens => do
      match ← takeComma first tokens with
      | .flowMappingEnd :: rest => some ([], s, rest)
      | .key :: rest => do
        let nothing (tokens : List Token) : Bool :=
          tokens.head? = some .value || endsFlowEntry tokens
        let (key, s, rest) ← buildOptional .flow nothing fuel s rest
        let (value, s, rest) ← buildValue .flow endsFlowEntry fuel s rest
        let (entries, s, rest) ← buildFlowEntries false fuel s rest
        some ((key, value) :: entries, s, rest)
      | rest => do
        let (key, s, rest) ← buildNode .flow fuel s rest
        let (entries, s, rest) ← buildFlowEntries false fuel s rest
        some ((key, .blank) :: entries, s, rest)

end

/-! ## Documents -/

/-- What the handles `!` and `!!` stand for unless a directive says otherwise. -/
def standardHandles : List (List Char × TagText) :=
  [(['!'], .ofString "!"), (['!', '!'], .ofString "tag:yaml.org,2002:")]

/-- The directives of a document: at most one version, which must be 1.1 or 1.2, and one prefix
for a handle. -/
def takeDirectives (version : Bool) (handles : List (List Char × TagText)) :
    List Token → Option (List (List Char × TagText) × List Token)
  | .versionDirective major minor :: rest =>
    if version ∨ major ≠ 1 ∨ (minor ≠ 1 ∧ minor ≠ 2) then none
    else takeDirectives true handles rest
  | .tagDirective handle start :: rest =>
    if (handles.lookup handle).isSome then none
    else takeDirectives version (handles ++ [(handle, start)]) rest
  | tokens => some (handles ++ standardHandles, tokens)

/-- A document that begins with directives or with a line of dashes may be empty. -/
def endsDocument : List Token → Bool
  | [] | .versionDirective .. :: _ | .tagDirective .. :: _ | .documentStart :: _
  | .documentEnd :: _ => true
  | _ => false

def Document.ofTokens? (tokens : List Token) : Option Document := do
  -- at most three calls lie between one token and the next
  let fuel := 3 * tokens.length + 4
  let (node, s, rest) ← (match tokens with
    | [] => some (.absent, { handles := standardHandles }, [])
    | .versionDirective .. :: _ | .tagDirective .. :: _ | .documentStart :: _ => do
      let (handles, rest) ← takeDirectives false [] tokens
      match rest with
      | .documentStart :: rest => buildOptional .block endsDocument fuel { handles } rest
      | _ => none
    | tokens => buildNode .block fuel { handles := standardHandles } tokens)
  if rest.all (· = .documentEnd) then some { root := node, targets := s.targets } else none

end ChatFlow.Yaml
