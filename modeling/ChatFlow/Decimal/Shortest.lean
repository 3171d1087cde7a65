import ChatFlow.Decimal.Binary64

/-!
# ChatFlow — shortest decimal text

The fewest digits that read back as a given binary number, and among those the nearest to it. They
are written in positional notation with at least one digit after the point, or in scientific
notation where positional notation would need many zeros.
-/

namespace ChatFlow.Decimal

namespace Binary64

/-- A point of the decimal grid that rounds to the number, if the grid `10^k` has one: of the two
neighbours of the number on the grid the nearer that lies in its rounding interval. The interval
is given by quarters of a unit of the mantissa, and its ends belong to it iff the mantissa is
even. -/
def gridPoint? (b : Binary64) (k : Int) : Option Nat :=
  -- below a power of two the neighbours are closer
  let below := if b.mantissa = Nat.pow 2 52 ∧ -1074 < b.exponent then 1 else 2
  let (two, half) := power 2 (b.exponent - 2)
  let (ten, tenth) := power 10 k
  let den := half * ten
  let mid := 4 * b.mantissa * two * tenth
  let low := (4 * b.mantissa - below) * two * tenth
  let high := (4 * b.mantissa + 2) * two * tenth
  let inside (c : Nat) : Bool :=
    0 < c ∧ (if b.mantissa % 2 = 0 then low ≤ c * den ∧ c * den ≤ high
      else low < c * den ∧ c * den < high)
  let c := mid / den
  match inside c, inside (c + 1) with
  | true, true => if 2 * (mid % den) ≤ den then some c else some (c + 1)
  | true, false => some c
  | false, true => some (c + 1)
  | false, false => none

/-- The first grid with a point, from coarse to fine. Seventeen digits always suffice. -/
def shortestFrom (b : Binary64) : Nat → Int → Nat × Int
  | 0, k => (0, k)
  | fuel + 1, k =>
    match b.gridPoint? k with
    | some digits => (digits, k)
    | none => shortestFrom b fuel (k - 1)

/-- The shortest decimal `digits · 10^k` that reads back as the number. -/
def shortest (b : Binary64) : Nat × Int :=
  if b.mantissa = 0 then (0, 0)
  else
    -- `30103 / 100000` is the decimal logarithm of two; the first grids are too coarse for a point
    let bits : Int := b.mantissa.log2 + 1 + b.exponent
    shortestFrom b 24 (bits * 30103 / 100000 + 2)

/-- Positional notation of `digits · 10^k`, with a point and at least one digit after it. -/
def positional (digits : Nat) (k : Int) : List Char :=
  let ds := Nat.toDigits 10 digits
  if 0 ≤ k then ds ++ List.replicate k.toNat '0' ++ ['.', '0']
  else
    let places := (-k).toNat
    let ds := List.replicate (places + 1 - ds.length) '0' ++ ds
    ds.take (ds.length - places) ++ '.' :: ds.drop (ds.length - places)

/-- Scientific notation of `digits · 10^k`: a point behind the first digit if there are more, and an
exponent with its sign. -/
def scientific (digits : Nat) (k : Int) : List Char :=
  let ds := Nat.toDigits 10 digits
  let e := k + ((ds.length - 1 : Nat) : Int)
  let fraction := if ds.length = 1 then [] else '.' :: ds.drop 1
  ds.take 1 ++ fraction ++ ['e', if e < 0 then '-' else '+'] ++ Nat.toDigits 10 e.natAbs

/-- The number in positional notation. -/
def toChars (b : Binary64) : List Char :=
  let (digits, k) := b.shortest
  positional digits k

/-- The number in positional notation from `10^-5` to below `10^16`, in scientific notation
elsewhere. -/
def toCompactChars (b : Binary64) : List Char :=
  let (digits, k) := b.shortest
  -- where the point stands among the digits
  let point := k + ((Nat.toDigits 10 digits).length : Int)
  if -5 < point ∧ point ≤ 16 then positional digits k else scientific digits k

end Binary64

end ChatFlow.Decimal
