import ChatFlow.Decimal.Shortest
import ChatFlow.Value.Content
import ChatFlow.Yaml.Chars
import ChatFlow.Yaml.Node.Basic

/-!
# ChatFlow — what scalars stand for

A plain scalar without tag stands for null, a truth value, a number or a text, by its look. The
core tags ask for one of these; other tags that begin with `!` leave a plain scalar to its look. A
quoted or block scalar stands for its text.

Leading zeros make a text of a decimal number, unless it has a point or an exponent.
-/

namespace ChatFlow.Yaml

open Decimal (Binary64)

/-- What a scalar stands for. An integer beyond 64 bits has no content. -/
inductive Resolved
  | content (c : Content)
  | wide (n : Int)
  deriving Inhabited

/-! ## Null and truth values -/

def isNull (s : String) : Bool := s ∈ ["null", "Null", "NULL", "~"]

/-- A plain scalar that may stand for nothing at all. -/
def isNothing (s : String) : Bool := s.isEmpty || isNull s

def truthValue? (s : String) : Option Bool :=
  if s ∈ ["true", "True", "TRUE"] then some true
  else if s ∈ ["false", "False", "FALSE"] then some false
  else none

/-! ## Integers -/

def signs : List Char := ['+', '-']

def dropSign : List Char → List Char
  | '+' :: rest | '-' :: rest => rest
  | cs => cs

/-- Digits behind a leading zero. -/
def hasLeadingZero (cs : List Char) : Bool :=
  match dropSign cs with
  | '0' :: a :: rest => (a :: rest).all isDigit
  | _ => false

/-- The value of one or more digits. -/
def digits? (base : Nat) (cs : List Char) : Option Nat :=
  if cs.isEmpty then none
  else cs.foldlM (fun n c => (hexDigit? c).bind fun d =>
    if d < base then some (base * n + d) else none) 0

/-- The base that the beginning of a number names, with the digits. -/
def based? : List Char → Option (Nat × List Char)
  | '0' :: 'x' :: rest => some (16, rest)
  | '0' :: 'o' :: rest => some (8, rest)
  | '0' :: 'b' :: rest => some (2, rest)
  | _ => none

/-- A number without sign, or the plain decimal digits of one. -/
def magnitude? (allowed : Bool) (cs : List Char) : Option Nat :=
  match based? cs with
  | some (base, ds) => digits? base ds
  | none => if allowed then digits? 10 cs else none

/-- An integer below `limit`, perhaps with a plus sign. -/
def unsigned? (limit : Nat) (cs : List Char) : Option Nat :=
  let body := match cs with
    | '+' :: rest => rest
    | cs => cs
  (magnitude? (¬ hasLeadingZero cs) body).filter (· < limit)

/-- The magnitude, up to `limit`, of an integer with a minus sign. -/
def negative? (limit : Nat) : List Char → Option Nat
  | '-' :: rest =>
    (magnitude? (¬ hasLeadingZero rest) rest).filter (· ≤ limit)
  | _ => none

def integer? (cs : List Char) : Option Resolved :=
  match unsigned? (Nat.pow 2 64) cs, negative? (Nat.pow 2 63) cs with
  | some n, _ => some (.content (.natural n))
  | none, some n => some (.content (.negative n))
  | none, none =>
    -- up to 128 bits a number is known as one, if only to be refused
    match unsigned? (Nat.pow 2 128) cs, negative? (Nat.pow 2 127) cs with
    | some n, _ => some (.wide n)
    | none, some n => some (.wide (-n))
    | none, none => none

/-! ## Fractions -/

/-- An exponent behind its mark. -/
def exponent? : List Char → Option Int
  | '-' :: rest => (digits? 10 rest).map fun n => -(n : Int)
  | '+' :: rest => (digits? 10 rest).map fun n => (n : Int)
  | rest => (digits? 10 rest).map fun n => (n : Int)

/-- Digits with an optional point among them and an optional exponent; at least one digit. -/
def decimal? (cs : List Char) : Option Binary64 := do
  let whole := cs.takeWhile isDigit
  let (fraction, rest) := match cs.drop whole.length with
    | '.' :: rest => let ds := rest.takeWhile isDigit; (ds, rest.drop ds.length)
    | rest => ([], rest)
  -- all digits as one number; those of the fraction lower the exponent
  let digits ← digits? 10 (whole ++ fraction)
  let exponent ← match rest with
    | [] => some 0
    | c :: rest => if c = 'e' ∨ c = 'E' then exponent? rest else none
  Binary64.ofDecimal? digits (exponent - fraction.length)

/-- A fraction as it is shown; numbers beyond the largest are none. -/
def float? (cs : List Char) : Option String :=
  let body := match cs with
    | '+' :: rest => rest
    | cs => cs
  let s := String.ofList cs
  -- two signs are no number
  if cs.head? = some '+' ∧ body.head?.any (· ∈ signs) then none
  else if String.ofList body ∈ [".inf", ".Inf", ".INF"] then some "inf"
  else if s ∈ ["-.inf", "-.Inf", "-.INF"] then some "-inf"
  else if s ∈ [".nan", ".NaN", ".NAN"] then some "NaN"
  else match body with
    | '-' :: rest => (decimal? rest).map fun b => String.ofList ('-' :: b.toChars)
    | rest => (decimal? rest).map fun b => String.ofList b.toChars

/-! ## Scalars -/

/-- What a plain scalar stands for by its look. -/
def resolvePlain (s : String) : Resolved :=
  if isNothing s then .content .null
  else
    match truthValue? s, integer? s.toList with
    | some b, _ => .content (.bool b)
    | none, some n => n
    | none, none =>
      let float := if hasLeadingZero s.toList then none else float? s.toList
      match float with
      | some shown => .content (.float shown)
      | none => .content (.text s)

namespace TagText

def isLocal (t : TagText) : Bool := t.chars.head? = some (some '!')

/-- One of the tags for null, truth values and numbers. -/
def isCore (t : TagText) (name : String) : Bool :=
  t == .ofString ("tag:yaml.org,2002:" ++ name)

/-- The name of a tag that begins with an exclamation mark, if all of it is readable. -/
def localName? (t : TagText) : Option String :=
  match t.chars with
  | [some '!'] => some "!"
  | some '!' :: rest => (rest.mapM id).map String.ofList
  | _ => none

end TagText

namespace Scalar

/-- What a scalar stands for. The error tells that it does not fit its tag. -/
def resolve (s : Scalar) : Except String Resolved :=
  let wanted (found : Option Resolved) (expecting : String) : Except String Resolved :=
    match found with
    | some r => .ok r
    | none => .error (Shape.wrongValue ((Content.text s.text).describe "") expecting)
  match s.tag with
  | none =>
    .ok (if s.style = .plain then resolvePlain s.text else .content (.text s.text))
  | some tag =>
    if tag.isCore "bool" then
      wanted ((truthValue? s.text).map fun b => .content (.bool b)) "a boolean"
    else if tag.isCore "int" then wanted (integer? s.text.toList) "an integer"
    else if tag.isCore "float" then
      wanted ((float? s.text.toList).map fun shown => .content (.float shown)) "a float"
    else if tag.isCore "null" then
      wanted (if isNull s.text then some (.content .null) else none) "null"
    else .ok (if tag.isLocal ∧ s.style = .plain then resolvePlain s.text
      else .content (.text s.text))

/-- A blank place. -/
def isBlank (s : Scalar) : Bool := s.text.isEmpty && s.style = .plain

/-- A number that is read where one is asked for: plain, or literal and tagged as an integer. -/
def natural? (s : Scalar) : Option Nat :=
  if s.style = .plain ∨ (s.style = .literal ∧ s.tag.any (·.isCore "int")) then
    unsigned? (Nat.pow 2 64) s.text.toList
  else none

/-- Whether a scalar stands for the lack of a value. Only the tag for null can be wrong. -/
def isNone (s : Scalar) : Except String Bool :=
  if s.style ≠ .plain then .ok false
  else match s.tag with
    | none => .ok (isNothing s.text)
    | some tag =>
      if ¬ tag.isCore "null" then .ok false
      else if isNull s.text then .ok true
      else .error (Shape.wrongValue ((Content.text s.text).describe "") "null")

end Scalar

end ChatFlow.Yaml
