import ChatFlow.Text.Basic

/-!
# ChatFlow — times

A point in time, as a UTC calendar date and time of day. It is written in the form of RFC 3339
with as many fraction digits as it needs, in groups of three, and read with some tolerance: one
digit is enough for a month, a day, an hour, a minute or a second, white space may stand before
each number, and the date and the time are separated by `T`, `t` or a blank.

A leap second is the second 59 with a nanosecond count of at least 10⁹.

## Results

* `le_total`, `le_trans` — the order on times, by which a store is sorted.
-/

namespace ChatFlow

structure Timestamp where
  year : Int
  month : Nat
  day : Nat
  /-- Seconds since midnight. -/
  second : Nat
  /-- Nanoseconds, below 2 · 10⁹. -/
  nano : Nat
  deriving DecidableEq, Inhabited

namespace Timestamp

/-! ## Order -/

/-- Grows with the time: no month has more than 31 days, no day more than 86400 seconds. -/
def rank (t : Timestamp) : Int :=
  (((t.year * 13 + t.month) * 32 + t.day) * 86400 + t.second) * 2000000000 + t.nano

def le (a b : Timestamp) : Bool := decide (a.rank ≤ b.rank)

theorem le_trans {a b c : Timestamp} (hab : a.le b = true) (hbc : b.le c = true) :
    a.le c = true := by
  simp only [le, decide_eq_true_eq] at *
  omega

theorem le_total (a b : Timestamp) : (a.le b || b.le a) = true := by
  simp only [le, Bool.or_eq_true, decide_eq_true_eq]
  omega

/-! ## Calendar -/

def isLeap (year : Int) : Bool :=
  year % 4 = 0 ∧ (year % 100 ≠ 0 ∨ year % 400 = 0)

def daysIn (year : Int) (month : Nat) : Nat :=
  if month = 2 then (if isLeap year then 29 else 28)
  else if [4, 6, 9, 11].contains month then 30 else 31

/-- The years that dates range over. -/
def firstYear : Int := -262143

def lastYear : Int := 262142

def dayBefore? (t : Timestamp) : Option Timestamp :=
  if t.day > 1 then some { t with day := t.day - 1 }
  else if t.month > 1 then
    some { t with month := t.month - 1, day := daysIn t.year (t.month - 1) }
  else if t.year > firstYear then some { t with year := t.year - 1, month := 12, day := 31 }
  else none

def dayAfter? (t : Timestamp) : Option Timestamp :=
  if t.day < daysIn t.year t.month then some { t with day := t.day + 1 }
  else if t.month < 12 then some { t with month := t.month + 1, day := 1 }
  else if t.year < lastYear then some { t with year := t.year + 1, month := 1, day := 1 }
  else none

/-- Shifts a local time to UTC; the offset is less than a day. -/
def shift? (t : Timestamp) (offset : Int) : Option Timestamp :=
  let second := (t.second : Int) - offset
  if second < 0 then dayBefore? { t with second := (second + 86400).toNat }
  else if 86400 ≤ second then dayAfter? { t with second := (second - 86400).toNat }
  else some { t with second := second.toNat }

/-- The time that lies `seconds` and `nanos` after the start of 1970. -/
def ofUnix (seconds nanos : Nat) : Timestamp :=
  -- days are counted from 1 March of the year 0, so that a leap day ends its year, and in eras
  -- of 400 years
  let z := seconds / 86400 + 719468
  let era := z / 146097
  let doe := z % 146097
  let yoe := (doe - doe / 1460 + doe / 36524 - doe / 146096) / 365
  let doy := doe - (365 * yoe + yoe / 4 - yoe / 100)
  let mp := (5 * doy + 2) / 153
  let month := if mp < 10 then mp + 3 else mp - 9
  { year := yoe + era * 400 + (if month ≤ 2 then 1 else 0)
    month
    day := doy - (153 * mp + 2) / 5 + 1
    second := seconds % 86400
    nano := nanos }

/-! ## Writing -/

/-- A number with leading zeros up to the given width. -/
def padded (width n : Nat) : List Char :=
  let digits := Nat.toDigits 10 n
  List.replicate (width - digits.length) '0' ++ digits

/-- Four digits; a year beyond them carries its sign. -/
def yearChars (year : Int) : List Char :=
  if 0 ≤ year ∧ year ≤ 9999 then padded 4 year.toNat
  else (if year < 0 then '-' else '+') :: padded 4 year.natAbs

def fractionChars (nano : Nat) : List Char :=
  if nano = 0 then []
  else if nano % 1000000 = 0 then '.' :: padded 3 (nano / 1000000)
  else if nano % 1000 = 0 then '.' :: padded 6 (nano / 1000)
  else '.' :: padded 9 nano

def toChars (t : Timestamp) : List Char :=
  -- a leap second is shown as the sixtieth
  let leap := decide (1000000000 ≤ t.nano)
  let nano := if leap then t.nano - 1000000000 else t.nano
  let second := t.second % 60 + (if leap then 1 else 0)
  yearChars t.year ++ '-' :: padded 2 t.month ++ '-' :: padded 2 t.day ++
    'T' :: padded 2 (t.second / 3600) ++ ':' :: padded 2 (t.second / 60 % 60) ++
    ':' :: padded 2 second ++ fractionChars nano ++ ['Z']

instance : ToString Timestamp := ⟨fun t => String.ofList t.toChars⟩

/-! ## Reading -/

/-- Why a text is no time. -/
inductive Fault
  | outOfRange
  | invalid
  | tooShort
  | tooLong
  | impossible
  deriving DecidableEq

def Fault.message : Fault → String
  | .outOfRange => "input is out of range"
  | .invalid => "input contains invalid characters"
  | .tooShort => "premature end of input"
  | .tooLong => "trailing input"
  | .impossible => "no possible date and time matching input"

def digit? (c : Char) : Option Nat :=
  if '0' ≤ c ∧ c ≤ '9' then some (c.toNat - 48) else none

def ofDigits (ds : List Char) : Nat := ds.foldl (fun acc c => 10 * acc + (c.toNat - 48)) 0

/-- The longest run of at most `width` digits. -/
def digitRun : Nat → List Char → List Char
  | width + 1, c :: rest => if (digit? c).isSome then c :: digitRun width rest else []
  | _, _ => []

/-- A number of at least one and at most `width` digits, and what follows it. -/
def number (width : Nat) (cs : List Char) : Except Fault (Nat × List Char) :=
  if cs.isEmpty then .error .tooShort
  else
    let ds := digitRun width cs
    if ds.isEmpty then .error .invalid
    else if Nat.pow 2 63 ≤ ofDigits ds then .error .outOfRange
    else .ok (ofDigits ds, cs.drop ds.length)

/-- A number that lies between two bounds, after optional white space. -/
def field (low high : Nat) (cs : List Char) : Except Fault (Nat × List Char) := do
  let (n, rest) ← number 2 (Text.trimLeft cs)
  if low ≤ n ∧ n ≤ high then .ok (n, rest) else .error .outOfRange

/-- The year: four digits at most, or a sign and any number of digits. -/
def yearField (cs : List Char) : Except Fault (Int × List Char) := do
  let cs := Text.trimLeft cs
  let (year, rest) ← (match cs with
    | '-' :: cs => (number cs.length cs).map fun (n, rest) => (-(n : Int), rest)
    | '+' :: cs => (number cs.length cs).map fun (n, rest) => ((n : Int), rest)
    | cs => (number 4 cs).map fun (n, rest) => ((n : Int), rest))
  if -2147483648 ≤ year ∧ year < 2147483648 then .ok (year, rest) else .error .outOfRange

/-- One given character, after optional white space. -/
def mark (c : Char) (cs : List Char) : Except Fault (List Char) :=
  match Text.trimLeft cs with
  | [] => .error .tooShort
  | d :: rest => if d = c then .ok rest else .error .invalid

/-- An optional fraction of a second; digits beyond the ninth are dropped. -/
def fraction (cs : List Char) : Except Fault (Nat × List Char) :=
  match cs with
  | '.' :: cs => do
    let (n, rest) ← number 9 cs
    let shown := cs.length - rest.length
    -- three digits are thousandths
    .ok (n * Nat.pow 10 (9 - shown), rest.dropWhile fun c => (digit? c).isSome)
  | cs => .ok (0, cs)

/-- Two digits at the front. -/
def twoDigits (cs : List Char) : Except Fault (Nat × Nat × List Char) :=
  match cs with
  | a :: b :: rest =>
    match digit? a, digit? b with
    | some m, some n => .ok (m, n, rest)
    | _, _ => .error .invalid
  | [c] => if c.utf8Size < 2 then .error .tooShort else .error .invalid
  | [] => .error .tooShort

/-- Hours and minutes of an offset from UTC, in seconds. -/
def offsetDigits (cs : List Char) : Except Fault (Nat × List Char) := do
  let (h₁, h₂, rest) ← twoDigits cs
  let (m₁, m₂, rest) ← twoDigits (rest.dropWhile fun c => c = ':' || Text.isBlank c)
  if m₁ < 6 then .ok ((10 * h₁ + h₂) * 3600 + (10 * m₁ + m₂) * 60, rest)
  else .error .outOfRange

/-- `UTC` or `Z` in either case, or a sign with hours and minutes. -/
def offset (cs : List Char) : Except Fault (Int × List Char) :=
  if (cs.take 3).map Char.toUpper = ['U', 'T', 'C'] then .ok (0, cs.drop 3)
  else match cs with
    | [] => .error .tooShort
    | 'Z' :: rest | 'z' :: rest => .ok (0, rest)
    | '+' :: rest => (offsetDigits rest).map fun (n, rest) => ((n : Int), rest)
    | '-' :: rest | '\u2212' :: rest =>
      (offsetDigits rest).map fun (n, rest) => (-(n : Int), rest)
    | _ => .error .invalid

def ofChars (cs : List Char) : Except Fault Timestamp := do
  let (year, cs) ← yearField cs
  let cs ← mark '-' cs
  let (month, cs) ← field 1 12 cs
  let cs ← mark '-' cs
  let (day, cs) ← field 1 31 cs
  let cs ← (match cs with
    | [] => .error .tooShort
    | c :: rest => if c = 'T' ∨ c = 't' ∨ c = ' ' then .ok rest else .error .invalid)
  let (hour, cs) ← field 0 23 cs
  let cs ← mark ':' cs
  let (minute, cs) ← field 0 59 cs
  let cs ← mark ':' cs
  let (sec, cs) ← field 0 60 cs
  let (nano, cs) ← fraction cs
  let (offset, cs) ← offset (Text.trimLeft cs)
  -- nothing may follow, and only then it is asked whether there is such a day
  if ¬ (Text.trimLeft cs).isEmpty then .error .tooLong
  else if year < firstYear ∨ lastYear < year ∨ daysIn year month < day then .error .outOfRange
  else if 86400 ≤ offset.natAbs then .error .outOfRange
  else
    let leap := decide (sec = 60)
    -- the time is local so far, and may leave the range on its way to UTC
    let local_ : Timestamp :=
      { year, month, day
        second := hour * 3600 + minute * 60 + (if leap then 59 else sec)
        nano := nano + (if leap then 1000000000 else 0) }
    match local_.shift? offset with
    | some t => .ok t
    | none => .error .impossible

def ofString (s : String) : Except Fault Timestamp := ofChars s.toList

end Timestamp

end ChatFlow
