import ChatFlow.Value.Basic

/-!
# ChatFlow — values as JSON

Writes a value over several lines, with two blanks of indentation per level. Empty lists and
records stand on one line.
-/

namespace ChatFlow.Json

/-- The last hexadecimal digits of a code point below 256. -/
def lowHex (c : Char) : List Char :=
  let digit (n : Nat) : Char := if n < 10 then Char.ofNat (48 + n) else Char.ofNat (87 + n)
  [digit (c.toNat / 16 % 16), digit (c.toNat % 16)]

/-- Escapes quotes, backslashes and control characters. -/
def escape (c : Char) : List Char :=
  if c = '"' then ['\\', '"']
  else if c = '\\' then ['\\', '\\']
  else if c = '\n' then ['\\', 'n']
  else if c = '\r' then ['\\', 'r']
  else if c = '\t' then ['\\', 't']
  else if c = '\x08' then ['\\', 'b']
  else if c = '\x0c' then ['\\', 'f']
  else if c.toNat < 32 then ['\\', 'u', '0', '0'] ++ lowHex c
  else [c]

def textChars (s : String) : List Char := '"' :: s.toList.flatMap escape ++ ['"']

def newline (level : Nat) : List Char := '\n' :: List.replicate (2 * level) ' '

mutual

def render (level : Nat) : Value → List Char
  | .null => "null".toList
  | .number n => Nat.toDigits 10 n
  | .text s => textChars s
  | .list [] => ['[', ']']
  | .list (v :: rest) =>
    '[' :: newline (level + 1) ++ render (level + 1) v ++ renderItems (level + 1) rest ++
      newline level ++ [']']
  | .record [] => ['\x7b', '\x7d']
  | .record ((name, v) :: rest) =>
    '\x7b' :: newline (level + 1) ++ textChars name ++ [':', ' '] ++ render (level + 1) v ++
      renderFields (level + 1) rest ++ newline level ++ ['\x7d']

/-- Further items, each after a comma. -/
def renderItems (level : Nat) : List Value → List Char
  | [] => []
  | v :: rest => ',' :: newline level ++ render level v ++ renderItems level rest

/-- Further fields, each after a comma. -/
def renderFields (level : Nat) : List (String × Value) → List Char
  | [] => []
  | (name, v) :: rest =>
    ',' :: newline level ++ textChars name ++ [':', ' '] ++ render level v ++
      renderFields level rest

end

def pretty (v : Value) : String := String.ofList (render 0 v)

end ChatFlow.Json
