import ChatFlow.Yaml.Cursor

/-!
# ChatFlow — scalars that run on

Plain and quoted scalars. Both may go on over several lines; what separates two words is folded: a
single line feed counts as a blank, of several the first is dropped. Every scanner returns what it
read with the cursor behind it, or nothing if the text is malformed.
-/

namespace ChatFlow.Yaml

/-- What stands between two words of a scalar. -/
structure Gap where
  /-- The blanks, up to the first break. -/
  blanks : List Char := []
  first : List Char := []
  /-- Further breaks. -/
  more : List Char := []
  broken : Bool := false

/-- What a gap contributes to the scalar. -/
def Gap.fold (gap : Gap) : List Char :=
  if ¬ gap.broken then gap.blanks
  else if gap.first = ['\n'] then if gap.more.isEmpty then [' '] else gap.more
  else gap.first ++ gap.more

/-- Goes past blanks and breaks. A tab may not stand before column `margin` of a further line. -/
def scanGap (margin : Nat) : Nat → Gap → Cursor → Option (Gap × Cursor)
  | 0, gap, c => some (gap, c)
  | fuel + 1, gap, c =>
    match c.rest with
    | [] => some (gap, c)
    | char :: _ =>
      if isBlank char then
        if gap.broken then
          if char = '\t' ∧ c.column < margin then none else scanGap margin fuel gap (c.skip 1)
        else scanGap margin fuel { gap with blanks := gap.blanks ++ [char] } (c.skip 1)
      else if isBreak char then
        let (kept, c) := c.takeBreak
        if gap.broken then scanGap margin fuel { gap with more := gap.more ++ kept } c
        else scanGap margin fuel { first := kept, broken := true } c
      else some (gap, c)

/-! ## Plain scalars -/

def isFlowIndicator (c : Char) : Bool :=
  c == ',' || c == '[' || c == ']' || c == '\x7b' || c == '\x7d'

/-- The characters up to a gap or to an indicator that ends a plain scalar. In a flow collection a
colon may not be glued to an indicator. -/
def plainWord (flow : Bool) : List Char → Option (List Char)
  | [] => some []
  | char :: rest =>
    if isBlankOrBreak char then some []
    else if flow && char == ':' && rest.head?.any fun c => isFlowIndicator c || c == '?' then none
    else if char == ':' && rest.head?.all isBlankOrBreak then some []
    else if flow && isFlowIndicator char then some []
    else (plainWord flow rest).map (char :: ·)

/-- The words from here on, the characters newest first. Also tells whether the scalar ended at
the start of a line. -/
def plainWords (flow : Bool) (margin : Nat) :
    Nat → List Char → Gap → Cursor → Option (List Char × Bool × Cursor)
  | 0, _, _, _ => none
  | fuel + 1, chars, gap, c =>
    if c.atDocumentRule || c.seesChar 0 '#' then some (chars, gap.broken, c)
    else do
      let word ← plainWord flow c.rest
      let (chars, gap) :=
        if word.isEmpty then (chars, gap) else ((gap.fold ++ word).reverse ++ chars, {})
      let c := c.skip word.length
      if ¬ c.sees 0 isBlankOrBreak then some (chars, gap.broken, c)
      else
        let (gap, c) ← scanGap margin fuel {} c
        if ¬ flow ∧ c.column < margin then some (chars, gap.broken, c)
        else plainWords flow margin fuel chars gap c

/-- A plain scalar, and whether it ended at the start of a line. In block collections it goes on
as long as its lines begin at column `margin` or behind it. The fuel is more than the characters
that are left. -/
def scanPlain (fuel : Nat) (flow : Bool) (margin : Nat) (c : Cursor) :
    Option (List Char × Bool × Cursor) :=
  (plainWords flow margin fuel [] {} c).map fun (chars, ended) => (chars.reverse, ended)

/-! ## Quoted scalars -/

/-- The value of the first `n` hexadecimal digits. -/
def hexValue? (n : Nat) (cs : List Char) : Option Nat :=
  if cs.length < n then none
  else (cs.take n).foldlM (fun acc c => (hexDigit? c).map (16 * acc + ·)) 0

/-- The character with this number, if there is one. -/
def codePoint? (n : Nat) : Option Char :=
  if n < 0xD800 ∨ (0xDFFF < n ∧ n ≤ 0x10FFFF) then some (Char.ofNat n) else none

/-- What stands for a character after a backslash. -/
def namedEscapes : List (Char × Char) :=
  [('0', '\x00'), ('a', '\x07'), ('b', '\x08'), ('t', '\t'), ('\t', '\t'), ('n', '\n'),
    ('v', '\x0b'), ('f', '\x0c'), ('r', '\r'), ('e', '\x1b'), (' ', ' '), ('"', '"'), ('/', '/'),
    ('\\', '\\'), ('N', '\u0085'), ('_', '\u00a0'), ('L', '\u2028'), ('P', '\u2029')]

/-- The character that an escape after a backslash stands for, and the length of the escape. -/
def unescape? : List Char → Option (Char × Nat)
  | [] => none
  | c :: rest =>
    let hex (n : Nat) := (hexValue? n rest).bind fun v => (codePoint? v).map (·, n + 1)
    if c = 'x' then hex 2
    else if c = 'u' then hex 4
    else if c = 'U' then hex 8
    else (namedEscapes.lookup c).map (·, 1)

/-- The characters up to a gap or the closing quote, newest first, and whether an escaped break
ended them. -/
def quotedWord (single : Bool) : Nat → List Char → Cursor → Option (List Char × Bool × Cursor)
  | 0, _, _ => none
  | fuel + 1, word, c =>
    match c.rest with
    | [] => some (word, false, c)
    | char :: rest =>
      if isBlankOrBreak char then some (word, false, c)
      else if single then
        if char ≠ '\'' then quotedWord single fuel (char :: word) (c.skip 1)
        -- a doubled quote is a quote
        else if rest.head? = some '\'' then quotedWord single fuel ('\'' :: word) (c.skip 2)
        else some (word, false, c)
      else if char = '"' then some (word, false, c)
      else if char ≠ '\\' then quotedWord single fuel (char :: word) (c.skip 1)
      -- an escaped break joins the lines without a blank
      else if rest.head?.any isBreak then some (word, true, (c.skip 1).skipBreak)
      else do
        let (char, length) ← unescape? rest
        quotedWord single fuel (char :: word) (c.skip (length + 1))

/-- The words from here on, newest first, and the cursor behind the closing quote. -/
def quotedWords (single : Bool) : Nat → List Char → Cursor → Option (List Char × Cursor)
  | 0, _, _ => none
  | fuel + 1, chars, c =>
    -- the quote is never closed
    if c.atDocumentRule || c.atEnd then none
    else do
      let (word, folded, c) ← quotedWord single (fuel + 1) [] c
      let chars := word ++ chars
      if c.seesChar 0 (if single then '\'' else '"') then some (chars, c.skip 1)
      else
        let (gap, c) ← scanGap 0 (fuel + 1) { broken := folded } c
        quotedWords single fuel (gap.fold.reverse ++ chars) c

/-- A quoted scalar, from its opening quote. The fuel is more than the characters that are left. -/
def scanQuoted (fuel : Nat) (single : Bool) (c : Cursor) : Option (List Char × Cursor) :=
  (quotedWords single fuel [] (c.skip 1)).map fun (chars, c) => (chars.reverse, c)

end ChatFlow.Yaml
