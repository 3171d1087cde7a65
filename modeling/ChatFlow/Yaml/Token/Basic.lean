/-!
# ChatFlow — the tokens of YAML

What a text is cut into. The beginnings and ends of block collections, which the text shows by
indentation alone, are tokens too.
-/

namespace ChatFlow.Yaml

/-- How a scalar is written. -/
inductive Style
  | plain
  | singleQuoted
  | doubleQuoted
  | literal
  | folded
  deriving DecidableEq, Inhabited

/-- The text of a tag or of a part of it. Escaped octets may spell no character; `none` stands for
them. -/
structure TagText where
  chars : List (Option Char)
  deriving DecidableEq, Inhabited

namespace TagText

def ofList (cs : List Char) : TagText := ⟨cs.map some⟩

def ofString (s : String) : TagText := .ofList s.toList

def append (a b : TagText) : TagText := ⟨a.chars ++ b.chars⟩

instance : Append TagText := ⟨append⟩

/-- A part of a tag ends before its first NUL. -/
def cut (t : TagText) : TagText := ⟨t.chars.takeWhile (· ≠ some '\x00')⟩

end TagText

inductive Token
  | versionDirective (major minor : Nat)
  | tagDirective (handle : List Char) (start : TagText)
  | documentStart
  | documentEnd
  | blockSequenceStart
  | blockMappingStart
  | blockEnd
  | flowSequenceStart
  | flowSequenceEnd
  | flowMappingStart
  | flowMappingEnd
  | blockEntry
  | flowEntry
  | key
  | value
  | alias (name : List Char)
  | anchor (name : List Char)
  | tag (handle : List Char) (suffix : TagText)
  | scalar (chars : List Char) (style : Style)
  deriving DecidableEq, Inhabited

end ChatFlow.Yaml
