/-!
# ChatFlow — binary floating point numbers

The non-negative finite numbers of the 64-bit binary format, as a mantissa below 2⁵³ and a power
of two, and rounding to them in exact integer arithmetic: to the nearest, a tie to the even
mantissa. Numbers are never computed with; they only have to be shown in messages.
-/

namespace ChatFlow.Decimal

/-- `mantissa · 2^exponent`, with the mantissa in `[2⁵², 2⁵³)` or the exponent at −1074. -/
structure Binary64 where
  mantissa : Nat
  exponent : Int
  deriving DecidableEq, Inhabited

/-- The nearest integer to a quotient; a half goes to the even neighbour. -/
def roundHalfEven (num den : Nat) : Nat :=
  let q := num / den
  let r := num % den
  if 2 * r < den then q else if den < 2 * r then q + 1 else q + q % 2

namespace Binary64

def zero : Binary64 := ⟨0, -1074⟩

/-- The power of two as numerator and denominator. -/
def power (base : Nat) (k : Int) : Nat × Nat :=
  if 0 ≤ k then (Nat.pow base k.toNat, 1) else (1, Nat.pow base (-k).toNat)

/-- The number nearest to `num / den · 2^shift`, unless it is beyond the largest. -/
def nearest? (num den : Nat) (shift : Int) : Option Binary64 :=
  if num = 0 then some zero
  else
    -- `2 ^ top` is the largest power of two up to the quotient
    let spread : Int := (num.log2 : Int) - den.log2
    let (up, down) := power 2 spread
    let top := if den * up ≤ num * down then spread else spread - 1
    let exponent := max (-1074) (top + shift - 52)
    -- rounding may reach the next power of two
    let (up, down) := power 2 (shift - exponent)
    let m := roundHalfEven (num * up) (den * down)
    let rounded : Binary64 := if m = Nat.pow 2 53 then ⟨Nat.pow 2 52, exponent + 1⟩ else ⟨m, exponent⟩
    if 971 < rounded.exponent then none else some rounded

/-- The number nearest to `digits · 10^k`. Far outside the range of the format the power of ten
is not computed. -/
def ofDecimal? (digits : Nat) (k : Int) : Option Binary64 :=
  let places := (Nat.toDigits 10 digits).length
  if digits = 0 ∨ k + places < -400 then some zero
  else if 400 < k + places then none
  else
    let (up, down) := power 10 k
    nearest? (digits * up) down 0

end Binary64

end ChatFlow.Decimal
