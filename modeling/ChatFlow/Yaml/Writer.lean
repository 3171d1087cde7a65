import ChatFlow.Value.Encoding
import ChatFlow.Yaml.Reader

/-!
# ChatFlow — values as YAML

Writes a value in block style. Sequences stand at the indentation of their mapping; empty lists and
records are written in flow style. A text is written plain if that reads back as the same text,
else in single quotes, and in double quotes if it holds characters that need escaping. A text of
several lines becomes a literal block.

Writer and reader together are `format`, the notation of all files.
-/

namespace ChatFlow.Yaml

def spaces (n : Nat) : List Char := List.replicate n ' '

/-! ## What the characters of a text allow -/

/-- The styles that a text may be written in, apart from double quotes, which take any text. -/
structure Allowed where
  plain : Bool
  single : Bool
  literal : Bool
  deriving DecidableEq

/-- The first of the characters is followed by a blank or a break, or ends the text. -/
def endsWord (rest : List Char) : Bool := rest.head?.all isBlankOrBreak

/-- The indicators that may not begin a plain text. -/
def isLeadingIndicator (c : Char) : Bool := "#,[]\x7b\x7d&*!|>'\"%@`".toList.contains c

/-- A text may not be plain because of how it begins. -/
def leadingIndicator : List Char → Bool
  | '-' :: '-' :: '-' :: _ => true
  | '.' :: '.' :: '.' :: _ => true
  | c :: rest => isLeadingIndicator c || ("?:-".toList.contains c && endsWord rest)
  | [] => false

/-- A colon before a gap or a hash behind one, among the characters after `before`. -/
def innerIndicator (before : Char) : List Char → Bool
  | [] => false
  | c :: rest =>
    (c == ':' && endsWord rest) || (c == '#' && isBlankOrBreak before) || innerIndicator c rest

/-- A character that passes the first test stands right before one that passes the second. -/
def hasPair (first second : Char → Bool) : List Char → Bool
  | a :: b :: rest => (first a && second b) || hasPair first second (b :: rest)
  | _ => false

def isSpace (c : Char) : Bool := c == ' '

def allowed (cs : List Char) : Allowed :=
  -- a blank before a break would be lost in folding
  let escapes := cs.any (fun c => !isWritable c) || hasPair isSpace isBreak cs
  let indented := hasPair isBreak isSpace cs
  let indicator := leadingIndicator cs || cs.head?.any fun c => innerIndicator c cs.tail
  let edge (c : Char) : Bool := isSpace c || isBreak c
  let padded := cs.head?.any edge || cs.getLast?.any edge
  { plain := !(escapes || indented || indicator || padded || cs.any isBreak)
    single := !(escapes || indented)
    literal := !(escapes || cs.isEmpty || cs.getLast?.any isSpace) }

/-! ## Styles -/

/-- Read as a plain scalar the text stands for itself, and it does not look like a number with
leading zeros. -/
def readsBackPlain (s : String) : Bool :=
  match resolvePlain s with
  | .content (.text _) => !hasLeadingZero s.toList
  | _ => false

/-- The style of a text. -/
def styleOf (s : String) : Style :=
  let may := allowed s.toList
  -- a line feed decides: a text of several lines is literal or escaped
  if s.toList.contains '\n' then if may.literal then .literal else .doubleQuoted
  else if may.plain && readsBackPlain s then .plain
  else if may.single then .singleQuoted
  else .doubleQuoted

/-! ## Scalars -/

/-- The lines of a text behind an indentation. Blank lines stay blank. -/
def indentLines (indent : Nat) (atLineStart : Bool) : List Char → List Char
  | [] => []
  | c :: rest =>
    if isBreak c then c :: indentLines indent true rest
    else
      let before := if atLineStart then spaces indent else []
      before ++ c :: indentLines indent false rest

def endsWithBreak (cs : List Char) : Bool := cs.getLast?.any isBreak

/-- What the header of a literal block says about breaks at the end. -/
def chompingMark (cs : List Char) : List Char :=
  match cs.reverse with
  | a :: rest => if isBreak a then if rest.head?.all isBreak then ['+'] else [] else ['-']
  | [] => ['-']

/-- The header says how deep the lines are indented if the first line does not show it. -/
def indentationMark (cs : List Char) : List Char :=
  if cs.head?.any fun c => isSpace c || isBreak c then ['2'] else []

def literalText (indent : Nat) (cs : List Char) : List Char :=
  '|' :: indentationMark cs ++ chompingMark cs ++ '\n' :: indentLines indent true cs

/-- Text in single quotes, with quotes doubled. A break is followed by indentation, also at the
end. -/
def singleQuotedText (indent : Nat) (cs : List Char) : List Char :=
  let body := (indentLines indent false cs).flatMap fun c => if c = '\'' then ['\'', '\''] else [c]
  '\'' :: body ++ (if endsWithBreak cs then spaces indent else []) ++ ['\'']

def hexUpper (width n : Nat) : List Char :=
  let digits := (Nat.toDigits 16 n).map Char.toUpper
  List.replicate (width - digits.length) '0' ++ digits

/-- The short escapes that are used in writing. -/
def shortEscapes : List (Char × Char) :=
  [('\x00', '0'), ('\x07', 'a'), ('\x08', 'b'), ('\t', 't'), ('\n', 'n'), ('\x0b', 'v'),
    ('\x0c', 'f'), ('\r', 'r'), ('\x1b', 'e'), ('"', '"'), ('\\', '\\'), ('\u0085', 'N'),
    ('\u2028', 'L'), ('\u2029', 'P')]

def escapeText (c : Char) : List Char :=
  match shortEscapes.lookup c with
  | some e => ['\\', e]
  | none =>
    if isWritable c then [c]
    else if c.toNat ≤ 0xFF then '\\' :: 'x' :: hexUpper 2 c.toNat
    else if c.toNat ≤ 0xFFFF then '\\' :: 'u' :: hexUpper 4 c.toNat
    else '\\' :: 'U' :: hexUpper 8 c.toNat

def doubleQuotedText (cs : List Char) : List Char := '"' :: cs.flatMap escapeText ++ ['"']

/-- A text as a scalar; its further lines stand behind the indentation. -/
def scalarText (indent : Nat) (s : String) : List Char :=
  match styleOf s with
  | .literal => literalText indent s.toList
  | .singleQuoted => singleQuotedText indent s.toList
  | .doubleQuoted => doubleQuotedText s.toList
  | _ => s.toList

/-- Ends the line, unless it has ended already. -/
def closeLine (cs : List Char) : List Char := if endsWithBreak cs then cs else cs ++ ['\n']

/-! ## Values -/

/-- How many columns a mapping is indented behind what holds it. -/
def step : Nat := 2

mutual

/-- A value at a column, with the end of its last line. -/
def render (indent : Nat) : Value → List Char
  | .null => "null\n".toList
  | .number n => Nat.toDigits 10 n ++ ['\n']
  | .text s => closeLine (scalarText indent s)
  | .list [] => "[]\n".toList
  | .list (v :: rest) => '-' :: ' ' :: render (indent + step) v ++ renderItems indent rest
  | .record [] => "\x7b\x7d\n".toList
  | .record ((name, v) :: rest) =>
    name.toList ++ ':' :: renderField indent v ++ renderFields indent rest

/-- Further items of a sequence. -/
def renderItems (indent : Nat) : List Value → List Char
  | [] => []
  | v :: rest =>
    spaces indent ++ '-' :: ' ' :: render (indent + step) v ++ renderItems indent rest

/-- Further entries of a mapping. -/
def renderFields (indent : Nat) : List (String × Value) → List Char
  | [] => []
  | (name, v) :: rest =>
    spaces indent ++ name.toList ++ ':' :: renderField indent v ++ renderFields indent rest

/-- The value of an entry behind the colon. -/
def renderField (indent : Nat) : Value → List Char
  | .null => " null\n".toList
  | .number n => ' ' :: Nat.toDigits 10 n ++ ['\n']
  | .text s => ' ' :: closeLine (scalarText (indent + step) s)
  | .list [] => " []\n".toList
  | .list (v :: rest) =>
    '\n' :: spaces indent ++ '-' :: ' ' :: render (indent + step) v ++ renderItems indent rest
  | .record [] => " \x7b\x7d\n".toList
  | .record ((name, v) :: rest) =>
    '\n' :: spaces (indent + step) ++ name.toList ++
      ':' :: renderField (indent + step) v ++ renderFields (indent + step) rest

end

/-- Writes a value. The further lines of a text are indented even if nothing is around it. -/
def print : Value → String
  | .text s => String.ofList (closeLine (scalarText step s))
  | v => String.ofList (render 0 v)

/-- YAML as a text format. -/
def format : TextFormat := { print, read }

end ChatFlow.Yaml
