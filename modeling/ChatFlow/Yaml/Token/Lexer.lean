import ChatFlow.Yaml.Token.Block
import ChatFlow.Yaml.Token.Flow
import ChatFlow.Yaml.Token.Property

/-!
# ChatFlow — cutting YAML into tokens

`tokens?` cuts a text into tokens, or fails where it is malformed. Block collections are told by
indentation: a deeper column opens one, a shallower column closes all that are deeper. A mapping
key need not be marked in front; when a colon turns up, the token that begins the key is looked up
and the mark is put before it. Such a key stands on one line and within 1024 octets.
-/

namespace ChatFlow.Yaml

/-- Where a mapping key without mark may have begun. -/
structure KeyStart where
  /-- How many tokens stand before it. -/
  position : Nat
  line : Nat
  index : Nat
  column : Nat
  /-- At this place nothing but a key may stand. -/
  required : Bool

structure Lexer where
  cursor : Cursor
  /-- The tokens so far. -/
  tokens : Array Token := #[]
  /-- The least column of what belongs to the innermost block collection. -/
  margin : Nat := 0
  /-- The margins of the block collections around it. -/
  margins : List Nat := []
  /-- A key without mark may begin here. -/
  keyAllowed : Bool := true
  key : Option KeyStart := none
  /-- The possible keys around the open flow collections, innermost first. -/
  outerKeys : List (Option KeyStart) := []

namespace Lexer

/-- Inside a flow collection indentation does not count. -/
def inFlow (l : Lexer) : Bool := !l.outerKeys.isEmpty

def push (l : Lexer) (token : Token) : Lexer := { l with tokens := l.tokens.push token }

/-- Puts a token behind the first `position` tokens. -/
def insert (l : Lexer) (position : Nat) (token : Token) : Lexer :=
  { l with tokens := l.tokens.insertIdxIfInBounds position token }

def skip (l : Lexer) (n : Nat) : Lexer := { l with cursor := l.cursor.skip n }

/-! ## Keys without mark -/

/-- Gives up a possible key; a required one is missed. -/
def dropKey (l : Lexer) : Option Lexer :=
  if l.key.any KeyStart.required then none else some { l with key := none }

/-- Remembers that a key may begin here. -/
def noteKey (l : Lexer) : Option Lexer :=
  if l.keyAllowed then do
    let l ← l.dropKey
    let c := l.cursor
    some { l with
      key := some ⟨l.tokens.size, c.line, c.index, c.column,
        !l.inFlow && l.margin == c.column + 1⟩ }
  else some l

/-- The key is too far back. -/
def isStale (c : Cursor) (key : KeyStart) : Bool :=
  key.line < c.line || key.index + 1024 < c.index

/-- Gives up the possible keys that are too far back. -/
def dropStaleKeys (l : Lexer) : Option Lexer :=
  let refresh (key : Option KeyStart) : Option (Option KeyStart) :=
    -- a key that had to stand here is missed, any other was none
    match key with
    | some k => if isStale l.cursor k then if k.required then none else some none else some key
    | none => some none
  do some { l with key := ← refresh l.key, outerKeys := ← l.outerKeys.mapM refresh }

/-! ## Indentation -/

/-- Opens a block collection at a column, unless one is open there already. -/
def indentTo (l : Lexer) (column position : Nat) (token : Token) : Lexer :=
  if l.inFlow ∨ column < l.margin then l
  else { l.insert position token with margin := column + 1, margins := l.margin :: l.margins }

/-- Closes block collections until the margin is small enough. -/
def closeBlocks (bound : Nat) : Array Token → Nat → List Nat → Array Token × Nat × List Nat
  | tokens, margin, [] => (tokens, margin, [])
  | tokens, margin, outer :: margins =>
    if bound < margin then closeBlocks bound (tokens.push .blockEnd) outer margins
    else (tokens, margin, outer :: margins)

def dedentTo (l : Lexer) (bound : Nat) : Lexer :=
  if l.inFlow then l
  else
    let (tokens, margin, margins) := closeBlocks bound l.tokens l.margin l.margins
    { l with tokens, margin, margins }

/-! ## Between tokens -/

/-- Goes past blanks, comments, breaks and a byte order mark at the start of a line. A tab is no
blank where a key may begin. -/
def skipGap : Nat → Lexer → Lexer
  | 0, l => l
  | fuel + 1, l =>
    let c := if l.cursor.column = 0 ∧ l.cursor.seesChar 0 byteOrderMark then l.cursor.skip 1
      else l.cursor
    let c := c.skipWhile fun char => char == ' ' || ((l.inFlow || !l.keyAllowed) && char == '\t')
    let c := if c.seesChar 0 '#' then c.skipLine else c
    -- outside flow collections a new line is a place for keys
    if c.sees 0 isBreak then
      skipGap fuel { l with cursor := c.skipBreak, keyAllowed := l.keyAllowed || !l.inFlow }
    else { l with cursor := c }

/-! ## Tokens -/

/-- Takes over a token that a scanner read. -/
def take (l : Lexer) (scanned : Option (Token × Cursor)) : Option Lexer :=
  scanned.map fun (token, cursor) => { l.push token with cursor }

def takeDirective (l : Lexer) : Option Lexer := do
  let l ← (l.dedentTo 0).dropKey
  { l with keyAllowed := false }.take (scanDirective l.cursor)

def takeDocumentRule (l : Lexer) (token : Token) : Option Lexer := do
  let l ← (l.dedentTo 0).dropKey
  some ({ l with keyAllowed := false }.push token |>.skip 3)

def openFlow (l : Lexer) (token : Token) : Option Lexer := do
  -- the collection may turn out to be a key itself
  let l ← l.noteKey
  some ({ l with key := none, outerKeys := l.key :: l.outerKeys, keyAllowed := true }.push token
    |>.skip 1)

def closeFlow (l : Lexer) (token : Token) : Option Lexer := do
  let l ← l.dropKey
  let l := match l.outerKeys with
    | key :: outerKeys => { l with key, outerKeys }
    | [] => l
  some ({ l with keyAllowed := false }.push token |>.skip 1)

def takeFlowEntry (l : Lexer) : Option Lexer := do
  let l ← l.dropKey
  some ({ l with keyAllowed := true }.push .flowEntry |>.skip 1)

/-- Opens a block collection for a mark at the cursor; in a block collection marks stand only
where keys may begin. -/
def openBlock (l : Lexer) (token : Token) : Option Lexer :=
  if l.inFlow then some l
  else if ¬ l.keyAllowed then none
  else some (l.indentTo l.cursor.column l.tokens.size token)

def takeBlockEntry (l : Lexer) : Option Lexer := do
  let l ← (← l.openBlock .blockSequenceStart).dropKey
  some ({ l with keyAllowed := true }.push .blockEntry |>.skip 1)

def takeKey (l : Lexer) : Option Lexer := do
  let l ← (← l.openBlock .blockMappingStart).dropKey
  some ({ l with keyAllowed := !l.inFlow }.push .key |>.skip 1)

def takeValue (l : Lexer) : Option Lexer :=
  match l.key with
  | some k =>
    -- the key is marked where it began, and the mapping opens before the mark
    let l := (l.insert k.position .key).indentTo k.column k.position .blockMappingStart
    some ({ l with key := none, keyAllowed := false }.push .value |>.skip 1)
  | none => do
    -- nothing stands before the colon, or a key with a mark
    let l ← l.openBlock .blockMappingStart
    some ({ l with keyAllowed := !l.inFlow }.push .value |>.skip 1)

/-- A token that may begin a key. -/
def takeKeyPart (l : Lexer) (scan : Cursor → Option (Token × Cursor)) : Option Lexer := do
  let l ← l.noteKey
  { l with keyAllowed := false }.take (scan l.cursor)

def takeBlockScalar (fuel : Nat) (l : Lexer) (literal : Bool) : Option Lexer := do
  let l ← l.dropKey
  -- it ends at the start of a line, where a key may begin
  { l with keyAllowed := true }.take
    ((scanBlock fuel literal l.margin l.cursor).map fun (chars, c) =>
      (.scalar chars (if literal then .literal else .folded), c))

def takeQuoted (fuel : Nat) (l : Lexer) (single : Bool) : Option Lexer :=
  l.takeKeyPart fun c => (scanQuoted fuel single c).map fun (chars, c) =>
    (.scalar chars (if single then .singleQuoted else .doubleQuoted), c)

def takePlain (fuel : Nat) (l : Lexer) : Option Lexer := do
  let l ← l.noteKey
  let (chars, atLineStart, cursor) ← scanPlain fuel l.inFlow l.margin l.cursor
  some { l.push (.scalar chars .plain) with cursor, keyAllowed := atLineStart }

/-- The characters that cannot begin a plain scalar. -/
def isIndicator (c : Char) : Bool := "-?:,[]\x7b\x7d#&*!|>'\"%@`".toList.contains c

/-- A plain scalar may begin here. -/
def beginsPlain (l : Lexer) (char : Char) : Bool :=
  !(isBlankOrBreak char || isIndicator char) || (char == '-' && !l.cursor.sees 1 isBlank) ||
    (!l.inFlow && (char == '?' || char == ':') && !l.cursor.seesGap 1)

/-- Takes the token that begins with this character. The fuel is more than the characters that are
left. -/
def takeToken (fuel : Nat) (l : Lexer) (char : Char) : Option Lexer :=
  let c := l.cursor
  let marks := l.inFlow || c.seesGap 1
  -- what belongs to the document as a whole comes first: a rule of dashes is no list item
  if c.column = 0 ∧ char = '%' then l.takeDirective
  else if c.seesRule '-' then l.takeDocumentRule .documentStart
  else if c.seesRule '.' then l.takeDocumentRule .documentEnd
  else if char = '[' then l.openFlow .flowSequenceStart
  else if char = '\x7b' then l.openFlow .flowMappingStart
  else if char = ']' then l.closeFlow .flowSequenceEnd
  else if char = '\x7d' then l.closeFlow .flowMappingEnd
  else if char = ',' then l.takeFlowEntry
  else if char = '-' ∧ c.seesGap 1 then l.takeBlockEntry
  else if char = '?' ∧ marks then l.takeKey
  else if char = ':' ∧ marks then l.takeValue
  else if char = '*' then
    l.takeKeyPart fun c => (scanName c).map fun (name, c) => (.alias name, c)
  else if char = '&' then
    l.takeKeyPart fun c => (scanName c).map fun (name, c) => (.anchor name, c)
  else if char = '!' then l.takeKeyPart (scanTag l.inFlow)
  else if char = '|' ∧ ¬ l.inFlow then l.takeBlockScalar fuel true
  else if char = '>' ∧ ¬ l.inFlow then l.takeBlockScalar fuel false
  else if char = '\'' then l.takeQuoted fuel true
  else if char = '"' then l.takeQuoted fuel false
  else if l.beginsPlain char then l.takePlain fuel
  else none

/-- Ends the text: all block collections are closed. -/
def finish (l : Lexer) : Option Lexer := (l.dedentTo 0).dropKey

/-- Takes tokens to the end of the text. Every token has at least one character, so the fuel stays
more than what is left. -/
def run : Nat → Lexer → Option Lexer
  | 0, _ => none
  | fuel + 1, l => do
    let l ← (l.skipGap (fuel + 1)).dropStaleKeys
    -- a margin is one more than a column, so what begins at the cursor's column stays open
    let l := l.dedentTo (l.cursor.column + 1)
    match l.cursor.rest with
    | [] => l.finish
    | char :: _ => run fuel (← l.takeToken (fuel + 1) char)

end Lexer

/-- The tokens of a text, if it is not malformed. -/
def tokens? (s : String) : Option (List Token) :=
  if ¬ s.toList.all isReadable then none
  else (Lexer.run (s.length + 1) { cursor := .ofString s }).map fun l => l.tokens.toList

end ChatFlow.Yaml
