import ChatFlow.Yaml.Cursor
import ChatFlow.Yaml.Token.Basic

/-!
# ChatFlow — anchors, tags and directives

The parts of a YAML text that begin with `&`, `*`, `!` or `%`. Every scanner starts at that
character and returns the token with the cursor behind it.
-/

namespace ChatFlow.Yaml

/-! ## Anchors -/

/-- The characters besides a gap that may follow a name. -/
def endsName (c : Char) : Bool := "?:,]\x7d%@`".toList.contains c

/-- The name of an anchor or alias. -/
def scanName (c : Cursor) : Option (List Char × Cursor) :=
  let c := c.skip 1
  let name := c.rest.takeWhile isWord
  let c := c.skip name.length
  if name.isEmpty ∨ ¬ (c.seesGap 0 || c.sees 0 endsName) then none else some (name, c)

/-! ## Tags -/

/-- The characters of a tag. -/
def isTagChar (c : Char) : Bool := isWord c || ";/?:@&=+$.%!~*'()".toList.contains c

/-- The characters of a tag that is written out in full. -/
def isFullTagChar (c : Char) : Bool := isTagChar c || c == ',' || c == '[' || c == ']'

def octet? : List Char → Option Nat
  | '%' :: a :: b :: _ => do some (16 * (← hexDigit? a) + (← hexDigit? b))
  | _ => none

/-- How many octets a character takes, and what the first of them contributes. -/
def leadingOctet? (n : Nat) : Option (Nat × Nat) :=
  if n < 0x80 then some (1, n)
  else if n < 0xC0 then none
  else if n < 0xE0 then some (2, n - 0xC0)
  else if n < 0xF0 then some (3, n - 0xE0)
  else if n < 0xF8 then some (4, n - 0xF0)
  else none

/-- The contributions of the further octets of a character. -/
def trailingOctets? : Nat → Nat → List Char → Option Nat
  | 0, value, _ => some value
  | count + 1, value, cs => do
    let n ← octet? cs
    if 0x80 ≤ n ∧ n < 0xC0 then trailingOctets? count (64 * value + (n - 0x80)) (cs.drop 3)
    else none

/-- The smallest code point that needs this many octets. -/
def leastOf : Nat → Nat
  | 2 => 0x80
  | 3 => 0x800
  | 4 => 0x10000
  | _ => 0

/-- A character given by its octets, with the number of octets. -/
def escapedChar? (cs : List Char) : Option (TagText × Nat) := do
  let (octets, start) ← leadingOctet? (← octet? cs)
  let value ← trailingOctets? (octets - 1) start (cs.drop 3)
  if leastOf octets ≤ value ∧ (value < 0xD800 ∨ (0xDFFF < value ∧ value ≤ 0x10FFFF)) then
    some (⟨[some (Char.ofNat value)]⟩, octets)
  else some (⟨[none]⟩, octets)

/-- The characters of a tag from here on. -/
def scanTagText (allowed : Char → Bool) : Nat → TagText → Cursor → Option (TagText × Cursor)
  | 0, _, _ => none
  | fuel + 1, text, c =>
    match c.rest with
    | [] => some (text, c)
    | char :: _ =>
      if ¬ allowed char then some (text, c)
      else if char = '%' then do
        let (escaped, octets) ← escapedChar? c.rest
        scanTagText allowed fuel (text ++ escaped) (c.skip (3 * octets))
      else scanTagText allowed fuel (text ++ ⟨[some char]⟩) (c.skip 1)

/-- A part of a tag; it may be empty only where something stands before it. -/
def scanTagPart (allowed : Char → Bool) (mayBeEmpty : Bool) (before : List Char) (c : Cursor) :
    Option (TagText × Cursor) := do
  let (text, next) ← scanTagText allowed (c.rest.length + 1) (.ofList before) c
  if next.index = c.index ∧ ¬ mayBeEmpty then none else some (text.cut, next)

/-- An exclamation mark, the word behind it and the exclamation mark behind that. -/
def scanHandle (c : Cursor) : List Char × Cursor :=
  let word := (c.rest.drop 1).takeWhile isWord
  let c := c.skip (word.length + 1)
  if c.seesChar 0 '!' then ('!' :: word ++ ['!'], c.skip 1) else ('!' :: word, c)

/-- A handle and what follows it. A handle that is not closed is the beginning of the tag itself;
an exclamation mark alone is a tag without handle. -/
def scanShorthand (c : Cursor) : Option (Token × Cursor) :=
  let (handle, c) := scanHandle c
  if 1 < handle.length ∧ handle.getLast? = some '!' then do
    let (suffix, c) ← scanTagPart isTagChar false [] c
    some (.tag handle suffix, c)
  else do
    let (suffix, c) ← scanTagPart isTagChar true handle.tail c
    some (if suffix.chars.isEmpty then .tag [] (.ofString "!")
      else .tag ['!'] suffix, c)

def scanFullTag (c : Cursor) : Option (Token × Cursor) := do
  let (text, c) ← scanTagPart isFullTagChar false [] (c.skip 2)
  if c.seesChar 0 '>' then some (.tag [] text, c.skip 1) else none

def scanTag (flow : Bool) (c : Cursor) : Option (Token × Cursor) := do
  let (token, c) ← if c.seesChar 1 '<' then scanFullTag c else scanShorthand c
  if c.seesGap 0 ∨ (flow ∧ c.seesChar 0 ',') then some (token, c) else none

/-! ## Directives -/

/-- A number of at most nine digits. -/
def scanVersionNumber (c : Cursor) : Option (Nat × Cursor) :=
  let digits := c.rest.takeWhile isDigit
  if digits.isEmpty ∨ 9 < digits.length then none
  else some (digits.foldl (fun n d => 10 * n + (d.toNat - 48)) 0, c.skip digits.length)

def scanVersion (c : Cursor) : Option (Token × Cursor) := do
  let (major, c) ← scanVersionNumber (c.skipWhile isBlank)
  if ¬ c.seesChar 0 '.' then none
  else
    let (minor, c) ← scanVersionNumber (c.skip 1)
    some (.versionDirective major minor, c)

def scanTagDirective (c : Cursor) : Option (Token × Cursor) := do
  let c := c.skipWhile isBlank
  if ¬ c.seesChar 0 '!' then none
  else
    let (handle, c) := scanHandle c
    if handle ≠ ['!'] ∧ handle.getLast? ≠ some '!' ∨ ¬ c.sees 0 isBlank then none
    else
      let (start, c) ← scanTagPart isFullTagChar false [] (c.skipWhile isBlank)
      if c.seesGap 0 then some (.tagDirective handle start, c) else none

/-- A directive with the rest of its line. -/
def scanDirective (c : Cursor) : Option (Token × Cursor) := do
  let c := c.skip 1
  let name := c.rest.takeWhile isWord
  let c := c.skip name.length
  if ¬ c.seesGap 0 then none
  else
    let (token, c) ← (if name = "YAML".toList then scanVersion c
      else if name = "TAG".toList then scanTagDirective c
      else none)
    some (token, ← c.finishLine?)

end ChatFlow.Yaml
