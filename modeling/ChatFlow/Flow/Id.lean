/-!
# ChatFlow — flow ids

A flow is named by a 128-bit universally unique identifier. It is written as 32 lower-case
hexadecimal digits in groups of 8, 4, 4, 4 and 12, and read in either case, with or without the
hyphens, and with the hyphens also in braces or after `urn:uuid:`, again in either case.
-/

namespace ChatFlow

structure FlowId where
  bits : BitVec 128
  deriving DecidableEq, Inhabited

namespace FlowId

/-- The id that is made from random bits: its version is 4 and its variant the standard one. -/
def ofRandom (bits : BitVec 128) : FlowId :=
  let kept : BitVec 128 := bits &&& ~~~(0xF#128 <<< 76 ||| 0xC#128 <<< 60)
  ⟨kept ||| 0x4#128 <<< 76 ||| 0x8#128 <<< 60⟩

/-! ## Writing -/

def hexDigit (n : Nat) : Char := if n < 10 then Char.ofNat (48 + n) else Char.ofNat (87 + n)

/-- The last `count` hexadecimal digits of a number, most significant first. -/
def hexDigits : Nat → Nat → List Char
  | 0, _ => []
  | count + 1, n => hexDigits count (n / 16) ++ [hexDigit (n % 16)]

/-- Puts a hyphen after the 8th, 12th, 16th and 20th digit. -/
def hyphenate (digits : List Char) : List Char :=
  digits.take 8 ++ '-' :: ((digits.drop 8).take 4 ++ '-' :: ((digits.drop 12).take 4 ++
    '-' :: ((digits.drop 16).take 4 ++ '-' :: digits.drop 20)))

def toChars (id : FlowId) : List Char := hyphenate (hexDigits 32 id.bits.toNat)

instance : ToString FlowId := ⟨fun id => String.ofList id.toChars⟩

/-! ## Reading -/

def hexValue? (c : Char) : Option Nat :=
  let n := c.toNat
  if 48 ≤ n && n ≤ 57 then some (n - 48)
  else if 97 ≤ n && n ≤ 102 then some (n - 87)
  else if 65 ≤ n && n ≤ 70 then some (n - 55)
  else none

/-- The number that a run of hexadecimal digits denotes. -/
def ofHex? (digits : List Char) : Option Nat :=
  digits.foldlM (fun acc c => (hexValue? c).map (16 * acc + ·)) 0

/-- Thirty-two digits without hyphens. -/
def ofSimple? (cs : List Char) : Option FlowId :=
  if cs.length = 32 then (ofHex? cs).map fun n => ⟨BitVec.ofNat 128 n⟩ else none

/-- Thirty-six characters with hyphens in their four places. -/
def ofHyphenated? (cs : List Char) : Option FlowId :=
  if cs.length = 36 ∧ [8, 13, 18, 23].all (fun i => cs[i]? == some '-') then
    ofSimple? (cs.filter (· ≠ '-'))
  else none

/-- Why a text is no flow id. -/
inductive Fault
  | character (found : Char) (position : Nat)
  | length (found : Nat)
  | groupCount (found : Nat)
  | groupLength (group found : Nat)
  deriving DecidableEq

def Fault.message : Fault → String
  | .character c i => s!"UUID parsing failed: invalid character: found `{c}` at {i}"
  | .length n =>
    s!"UUID parsing failed: invalid length: found {n}"
  | .groupCount n => s!"UUID parsing failed: invalid group count: expected 5, found {n}"
  | .groupLength g n =>
    let expected := [8, 4, 4, 4, 12].getD g 0
    s!"UUID parsing failed: invalid group length in group {g}: expected {expected}, found {n}"

def utf8Length (cs : List Char) : Nat := cs.foldr (fun c n => c.utf8Size + n) 0

/-- The first character that is neither a hexadecimal digit nor a hyphen, with the number of octets
before it. -/
def firstBad? (position : Nat) : List Char → Option (Char × Nat)
  | [] => none
  | c :: rest =>
    if c = '-' ∨ (hexValue? c).isSome then firstBad? (position + c.utf8Size) rest
    else some (c, position)

/-- The positions of the hyphens. -/
def hyphens (position : Nat) : List Char → List Nat
  | [] => []
  | c :: rest =>
    if c = '-' then position :: hyphens (position + 1) rest else hyphens (position + 1) rest

/-- The first group whose closing hyphen is not where it belongs; the last group otherwise. -/
def badGroup (total : Nat) : Nat → List (Nat × Nat) → List Nat → Fault
  | group, (start, stop) :: bounds, found :: rest =>
    if found = stop then badGroup total (group + 1) bounds rest
    else .groupLength group (found - start)
  | _, _, _ => .groupLength 4 (total - 24)

/-- The number of octets in the longest form. -/
def longest : Nat := 45

/-- Explains why a text is refused. Its characters count before its hyphens, and its hyphens before
the places where they stand; a text that is longer than every form is refused at once. -/
def fault (cs : List Char) : Fault :=
  let size := utf8Length cs
  if longest < size then .length size
  else
    match firstBad? 0 cs with
    | some (c, i) => .character c i
    | none =>
      let found := hyphens 0 cs
      -- without hyphens it is the length that is wrong
      if found.isEmpty then .length size
      else if found.length ≠ 4 then .groupCount (found.length + 1)
      else badGroup size 0 [(0, 8), (9, 13), (14, 18), (19, 23)] found

/-- The text between braces, if the whole stands in braces. -/
def unbrace? : List Char → Option (List Char)
  | '{' :: rest => if rest.getLast? = some '}' then some rest.dropLast else none
  | _ => none

def urn : List Char := "urn:uuid:".toList

/-- The text behind the name space. -/
def unurn? (cs : List Char) : Option (List Char) :=
  if (cs.take urn.length).map Char.toLower = urn then some (cs.drop urn.length) else none

/-- The hyphenated form in a text of the right length. -/
def hyphenatedPart? (cs : List Char) : Option (List Char) :=
  match utf8Length cs with
  | 36 => some cs
  | 38 => unbrace? cs
  | 45 => unurn? cs
  | _ => none

/-- Reads an id. Of what stands in braces or behind the name space only the inner part is at
fault. -/
def ofChars (cs : List Char) : Except Fault FlowId :=
  let read (found : Option FlowId) (body : List Char) : Except Fault FlowId :=
    match found with
    | some id => .ok id
    | none => .error (fault body)
  match hyphenatedPart? cs with
  | some body => read (ofHyphenated? body) body
  | none => read (ofSimple? cs) cs

def ofString (s : String) : Except Fault FlowId := ofChars s.toList

end FlowId

end ChatFlow
