/-! Binary64 numbers, and the rounding of exact decimals to them. A finite number keeps its
mantissa and its power of two, so every statement about it is one about natural numbers. -/
namespace QueryAudit

/-- `finite negative m q` stands for `m * 2 ^ q` with its sign. -/
inductive Binary64 where
  | nan
  | infinite (negative : Bool)
  | finite (negative : Bool) (mantissa : Nat) (exponent : Int)
deriving DecidableEq, Repr

namespace Binary64

/-- The exponent of the smallest positive number. -/
def minExponent : Int := -1074

/-- The largest exponent that a full mantissa may have. -/
def maxExponent : Int := 971

def isZero : Binary64 → Bool
  | finite _ 0 _ => true
  | _ => false

/-- The quotient rounded to the nearest integer; a tie goes to the even neighbour. -/
def roundQuotient (num den : Nat) : Nat :=
  let quotient := num / den
  let twice := 2 * (num % den)
  if twice > den ∨ (twice = den ∧ quotient % 2 = 1) then quotient + 1 else quotient

/-- `num / den / 2 ^ q`, rounded. -/
def scaled (num den : Nat) (q : Int) : Nat :=
  if q < 0 then roundQuotient (num * Nat.pow 2 (-q).toNat) den
  else roundQuotient num (den * Nat.pow 2 q.toNat)

/-- The binary64 number nearest to a quotient of naturals. -/
def ofQuotient (negative : Bool) (num den : Nat) : Binary64 :=
  if num = 0 then finite negative 0 minExponent
  else
    let estimate : Int := (num.log2 : Int) - den.log2 - 53
    let fits := if estimate < 0 then num * Nat.pow 2 (-estimate).toNat < den * Nat.pow 2 53
      else num < den * Nat.pow 2 estimate.toNat * Nat.pow 2 53
    let exponent := max (if fits then estimate else estimate + 1) minExponent
    let mantissa := scaled num den exponent
    let (mantissa, exponent) :=
      if mantissa = Nat.pow 2 53 then (Nat.pow 2 52, exponent + 1) else (mantissa, exponent)
    if exponent > maxExponent then infinite negative else finite negative mantissa exponent

/-- The binary64 number nearest to `digits * 10 ^ exponent`. Exponents far outside the
range are settled by magnitude alone. -/
def ofDecimal (negative : Bool) (digits : Nat) (exponent : Int) : Binary64 :=
  let magnitude : Int := exponent + (Nat.toDigits 10 digits).length
  if digits = 0 ∨ magnitude < -400 then finite negative 0 minExponent
  else if magnitude > 400 then infinite negative
  else if exponent < 0 then ofQuotient negative digits (Nat.pow 10 (-exponent).toNat)
  else ofQuotient negative (digits * Nat.pow 10 exponent.toNat) 1

end Binary64

end QueryAudit
