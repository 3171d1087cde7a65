import ChatFlow.Json.Tree

/-!
# ChatFlow — reading JSON notation

`Json.parse` turns a text into a tree. Every scanner takes the characters that are left and
returns what it read with the characters behind it, or nothing if the text is malformed.

A fraction is rounded twice, first its digits and then their product with, or quotient by, a power
of ten.
-/

namespace ChatFlow.Json

open Decimal (Binary64)

def isSpace (c : Char) : Bool := c = ' ' || c = '\n' || c = '\t' || c = '\r'

def skipSpace (cs : List Char) : List Char := cs.dropWhile isSpace

def isDigit (c : Char) : Bool := '0' ≤ c && c ≤ '9'

def hex? (c : Char) : Option Nat :=
  if isDigit c then some (c.toNat - 48)
  else if 'a' ≤ c ∧ c ≤ 'f' then some (c.toNat - 87)
  else if 'A' ≤ c ∧ c ≤ 'F' then some (c.toNat - 55)
  else none

/-! ## Texts -/

/-- What a text is made of: characters, and code units given by their number. -/
inductive Unit16
  | char (c : Char)
  | unit (n : Nat)

def shortEscape? : Char → Option Char
  | '"' => some '"'
  | '\\' => some '\\'
  | '/' => some '/'
  | 'b' => some '\x08'
  | 'f' => some '\x0c'
  | 'n' => some '\n'
  | 'r' => some '\r'
  | 't' => some '\t'
  | _ => none

/-- The units up to the closing quote, and what follows it. -/
def scanText : List Char → Option (List Unit16 × List Char)
  | [] => none
  | '"' :: rest => some ([], rest)
  | '\\' :: 'u' :: a :: b :: c :: d :: rest =>
    match hex? a, hex? b, hex? c, hex? d with
    | some a, some b, some c, some d =>
      (scanText rest).map fun (units, rest) =>
        (.unit (((a * 16 + b) * 16 + c) * 16 + d) :: units, rest)
    | _, _, _, _ => none
  | '\\' :: c :: rest =>
    match shortEscape? c with
    | some c => (scanText rest).map fun (units, rest) => (.char c :: units, rest)
    | none => none
  | c :: rest =>
    if c.toNat < 32 ∨ c = '\\' then none
    else (scanText rest).map fun (units, rest) => (.char c :: units, rest)

/-- Joins surrogate pairs; half a pair is refused. -/
def joinUnits : List Unit16 → Option (List Char)
  | [] => some []
  | .char c :: rest => (joinUnits rest).map (c :: ·)
  | .unit high :: .unit low :: rest =>
    if 0xD800 ≤ high ∧ high < 0xDC00 then
      if 0xDC00 ≤ low ∧ low < 0xE000 then
        let n := 0x10000 + (high - 0xD800) * 0x400 + (low - 0xDC00)
        (joinUnits rest).map (Char.ofNat n :: ·)
      else none
    else if 0xDC00 ≤ high ∧ high < 0xE000 then none
    else (joinUnits (.unit low :: rest)).map (Char.ofNat high :: ·)
  | .unit n :: rest =>
    if 0xD800 ≤ n ∧ n < 0xE000 then none else (joinUnits rest).map (Char.ofNat n :: ·)

def textOf (units : List Unit16) : Option String := (joinUnits units).map String.ofList

/-! ## Numbers -/

/-- The parts of a number as they are written. -/
structure Literal where
  negative : Bool
  whole : List Char
  fraction : Option (List Char)
  /-- The exponent's sign and digits. -/
  exponent : Option (Bool × List Char)

def digitsOf (cs : List Char) : Nat := cs.foldl (fun acc c => 10 * acc + (c.toNat - 48)) 0

def scanWhole (cs : List Char) : Option (List Char × List Char) :=
  match cs.takeWhile isDigit with
  | [] => none
  | '0' :: _ :: _ => none
  | ds => some (ds, cs.drop ds.length)

def scanDigits (cs : List Char) : Option (List Char × List Char) :=
  match cs.takeWhile isDigit with
  | [] => none
  | ds => some (ds, cs.drop ds.length)

def scanFraction : List Char → Option (Option (List Char) × List Char)
  | '.' :: rest => (scanDigits rest).map fun (ds, rest) => (some ds, rest)
  | cs => some (none, cs)

def scanExponent : List Char → Option (Option (Bool × List Char) × List Char)
  | c :: rest =>
    if c = 'e' ∨ c = 'E' then
      match rest with
      | '-' :: rest => (scanDigits rest).map fun (ds, rest) => (some (true, ds), rest)
      | '+' :: rest => (scanDigits rest).map fun (ds, rest) => (some (false, ds), rest)
      | rest => (scanDigits rest).map fun (ds, rest) => (some (false, ds), rest)
    else some (none, c :: rest)
  | [] => some (none, [])

def scanNumber (cs : List Char) : Option (Literal × List Char) := do
  let (negative, cs) := match cs with
    | '-' :: rest => (true, rest)
    | cs => (false, cs)
  let (whole, cs) ← scanWhole cs
  let (fraction, cs) ← scanFraction cs
  let (exponent, cs) ← scanExponent cs
  some (⟨negative, whole, fraction, exponent⟩, cs)

/-- Reads digits as long as the number stays below 2⁶⁴; returns it with the digits left over. -/
def takeWord (acc : Nat) : List Char → Nat × List Char
  | [] => (acc, [])
  | c :: rest =>
    let next := 10 * acc + (c.toNat - 48)
    if next < Nat.pow 2 64 then takeWord next rest else (acc, c :: rest)

/-- The product of two binary numbers, or the quotient. -/
def scaleUp (a b : Binary64) : Option Binary64 :=
  Binary64.nearest? (a.mantissa * b.mantissa) 1 (a.exponent + b.exponent)

def scaleDown (a b : Binary64) : Option Binary64 :=
  Binary64.nearest? a.mantissa b.mantissa (a.exponent - b.exponent)

def powerOfTen (k : Nat) : Binary64 := (Binary64.ofDecimal? 1 k).getD Binary64.zero

/-- Multiplies by `10^k`. A large negative power is taken in steps of 308. -/
def timesPower : Nat → Binary64 → Int → Option Binary64
  | 0, _, _ => some Binary64.zero
  | fuel + 1, f, k =>
    if k.natAbs ≤ 308 then
      if 0 ≤ k then scaleUp f (powerOfTen k.natAbs) else scaleDown f (powerOfTen k.natAbs)
    else if f.mantissa = 0 then some f
    else if 0 ≤ k then none
    else (scaleDown f (powerOfTen 308)).bind fun f => timesPower fuel f (k + 308)

/-- The value of a fraction: the digits that fit into 64 bits, times a power of ten. -/
def fractionValue (whole fraction : List Char) (exponent : Int) : Option Binary64 :=
  -- digits beyond 64 bits only count by their number, and those of the fraction not at all
  let (significand, dropped) := takeWord 0 whole
  let (significand, unused) := takeWord significand fraction
  let k := (dropped.length : Int) - (fraction.length - unused.length : Nat) + exponent
  if significand = 0 ∨ k < -2147483648 then some Binary64.zero
  else if 2147483647 < k then none
  else (Binary64.nearest? significand 1 0).bind fun f => timesPower 5 f k

def Literal.value (l : Literal) : Option Numeral :=
  match l.fraction, l.exponent with
  | none, none =>
    let n := digitsOf l.whole
    -- integers that do not fit into 64 bits become fractions
    if ¬ l.negative ∧ n < Nat.pow 2 64 then some (.natural n)
    else if l.negative ∧ 0 < n ∧ n ≤ Nat.pow 2 63 then some (.negative n)
    else (fractionValue l.whole [] 0).map (.float l.negative)
  | fraction, exponent =>
    let e : Int := match exponent with
      | none => 0
      | some (true, ds) => -(digitsOf ds : Int)
      | some (false, ds) => digitsOf ds
    (fractionValue l.whole (fraction.getD []) e).map (.float l.negative)

/-! ## Values -/

/-- Drops a word from the front. -/
def literal? (word : String) (cs : List Char) : Option (List Char) :=
  if word.toList.isPrefixOf cs then some (cs.drop word.length) else none

mutual

/-- A tree with what follows it; `none` if the text is malformed in it. The fuel bounds the
nesting and the number of items. -/
def parseTree : Nat → List Char → Tree × Option (List Char)
  | 0, _ => (.broken, none)
  | fuel + 1, cs =>
    match skipSpace cs with
    | [] => (.broken, none)
    | '"' :: rest =>
      match scanText rest with
      | some (units, rest) => (.text (textOf units), some rest)
      | none => (.broken, none)
    | '[' :: rest =>
      match skipSpace rest with
      | ']' :: rest => (.array .closed, some rest)
      | rest =>
        let (items, rest) := parseItems fuel rest
        (.array items, rest)
    | '\x7b' :: rest =>
      match skipSpace rest with
      | '\x7d' :: rest => (.object .closed, some rest)
      | rest =>
        let (members, rest) := parseMembers fuel rest
        (.object members, rest)
    | c :: rest =>
      if c = 'n' then
        match literal? "ull" rest with
        | some rest => (.null, some rest)
        | none => (.broken, none)
      else if c = 't' then
        match literal? "rue" rest with
        | some rest => (.bool true, some rest)
        | none => (.broken, none)
      else if c = 'f' then
        match literal? "alse" rest with
        | some rest => (.bool false, some rest)
        | none => (.broken, none)
      else
        match scanNumber (c :: rest) with
        | some (l, rest) => (.number l.value, some rest)
        | none => (.broken, none)

/-- Items up to the closing bracket. -/
def parseItems : Nat → List Char → Items × Option (List Char)
  | 0, _ => (.broken, none)
  | fuel + 1, cs =>
    match parseTree fuel cs with
    | (head, none) => (.cons head .broken, none)
    | (head, some rest) =>
      match skipSpace rest with
      | ']' :: rest => (.cons head .closed, some rest)
      | ',' :: rest =>
        -- no comma before the bracket
        match skipSpace rest with
        | ']' :: _ => (.cons head .broken, none)
        | rest =>
          let (items, rest) := parseItems fuel rest
          (.cons head items, rest)
      | _ => (.cons head .broken, none)

/-- Members up to the closing brace. -/
def parseMembers : Nat → List Char → Members × Option (List Char)
  | 0, _ => (.broken, none)
  | fuel + 1, cs =>
    match skipSpace cs with
    | '"' :: rest =>
      match scanText rest with
      | none => (.broken, none)
      | some (units, rest) =>
        let key := textOf units
        match skipSpace rest with
        | ':' :: rest =>
          match parseTree fuel rest with
          | (value, none) => (.cons key value .broken, none)
          | (value, some rest) =>
            match skipSpace rest with
            | '\x7d' :: rest => (.cons key value .closed, some rest)
            | ',' :: rest =>
              let (members, rest) := parseMembers fuel rest
              (.cons key value members, rest)
            | _ => (.cons key value .broken, none)
        | _ => (.cons key .broken .broken, none)
    | _ => (.broken, none)

end

/-- The tree of a text, and whether nothing but white space follows it. -/
def parse (s : String) : Tree × Bool :=
  let cs := s.toList
  -- an opening bracket takes two calls, every other character at most one
  match parseTree (2 * cs.length + 1) cs with
  | (tree, some rest) => (tree, (skipSpace rest).isEmpty)
  | (tree, none) => (tree, false)

end ChatFlow.Json
