/-! # Rounding to binary64

    A decimal fraction is read as the nearest number with 53 significant bits and
    an exponent in the range of the binary64 format, ties going to the even
    neighbour.  All arithmetic is on natural numbers and EXACT; no machine
    arithmetic is involved. -/

namespace DocAudit

/-- The number `significand` times two to the power `exponent`. -/
structure Binary64 where
  significand : Nat
  exponent : Int
  deriving Repr, DecidableEq

namespace Binary64

/-- Two to a power. -/
def pow2 (n : Nat) : Nat := Nat.pow 2 n

/-- Ten to a power. -/
def pow10 (n : Nat) : Nat := Nat.pow 10 n

/-- The exponent of the smallest positive number. -/
def leastExponent : Int := -1074

/-- The nearest integer to a quotient, a half going to the even neighbour. -/
def roundDiv (num den : Nat) : Nat :=
  let q := num / den
  let r := num % den
  if 2 * r < den then q
  else if den < 2 * r then q + 1
  else if q % 2 = 0 then q else q + 1

/-- The quotient is at least two to the power `k`. -/
def reaches (num den : Nat) (k : Int) : Bool :=
  if 0 ≤ k then decide (den * pow2 k.toNat ≤ num) else decide (den ≤ num * pow2 (-k).toNat)

/-- The exponent of the leading bit of a positive quotient. -/
def leadingBit (num den : Nat) : Int :=
  let k : Int := (num.log2 : Int) - (den.log2 : Int)
  if reaches num den k then k else k - 1

/-- Round a quotient to 53 bits; `none` if the result is too large for the format. -/
def ofQuotient? (num den : Nat) : Option Binary64 :=
  if num = 0 then some ⟨0, 0⟩
  else
    let e := max (leadingBit num den - 52) leastExponent
    let significand :=
      if 0 ≤ e then roundDiv num (den * pow2 e.toNat) else roundDiv (num * pow2 (-e).toNat) den
    if 972 ≤ e ∨ (e = 971 ∧ pow2 53 ≤ significand) then none else some ⟨significand, e⟩

/-- Round `mantissa` times ten to the power `exponent`.  A number of 310 places before the
    point is too large in any case, and one with 330 zeros after it rounds to zero. -/
def ofDecimal? (mantissa : Nat) (exponent : Int) : Option Binary64 :=
  let places : Int := (Nat.toDigits 10 mantissa).length + exponent
  if mantissa = 0 ∨ places < -330 then some ⟨0, 0⟩
  else if 310 < places then none
  else if 0 ≤ exponent then ofQuotient? (mantissa * pow10 exponent.toNat) 1
  else ofQuotient? mantissa (pow10 (-exponent).toNat)

/-- The integer that the number is equal to, if it is one. -/
def toNat? (x : Binary64) : Option Nat :=
  if 0 ≤ x.exponent then some (x.significand * pow2 x.exponent.toNat)
  else if x.significand % pow2 (-x.exponent).toNat = 0 then
    some (x.significand / pow2 (-x.exponent).toNat)
  else none

end Binary64

end DocAudit
