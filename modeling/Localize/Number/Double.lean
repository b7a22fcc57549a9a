/-
  IEEE 754 double precision numbers by their bits, and the number nearest to a decimal.
-/

namespace Localize

/-- A double precision number, given by its 64 bits. -/
structure Double where
  bits : UInt64
deriving DecidableEq, Repr, Inhabited

namespace Double

/-- The number of bits of the fraction field. -/
def fractionBits : Nat := 52

/-- The number of fractions, which is the least significand that has an exponent field of its own. -/
def fractionCount : Nat := 1 <<< fractionBits

/-- The sign bit. -/
def isNegative (x : Double) : Bool := x.bits.toNat >>> 63 = 1

/-- The exponent field. -/
def exponentField (x : Double) : Nat := (x.bits.toNat >>> fractionBits) % 2048

/-- The fraction field. -/
def fractionField (x : Double) : Nat := x.bits.toNat % fractionCount

/-- Neither a number nor an infinity. -/
def isNaN (x : Double) : Bool := x.exponentField = 2047 && x.fractionField != 0

/-- Whether a number is infinite. -/
def isInfinite (x : Double) : Bool := x.exponentField = 2047 && x.fractionField = 0

/-- The number with the given sign, exponent field and fraction field. -/
def ofFields (negative : Bool) (exponent fraction : Nat) : Double :=
  ⟨UInt64.ofNat ((if negative then 1 <<< 63 else 0) + (exponent <<< fractionBits) + fraction)⟩

/-- One of the two infinities. -/
def infinity (negative : Bool) : Double := ofFields negative 2047 0

/-- What is no number. -/
def notANumber : Double := ofFields false 2047 (fractionCount / 2)

/-- One of the two zeros. -/
def zero (negative : Bool) : Double := ofFields negative 0 0

/-- The significand `m` and exponent `q` of a finite number, whose magnitude is `m * 2 ^ q`. -/
def parts (x : Double) : Nat × Int :=
  if x.exponentField = 0 then (x.fractionField, -1074)
  else (x.fractionField + fractionCount, (x.exponentField : Int) - 1075)

/-- The quotient of two numbers, rounded to the nearest number and from a tie to the even one. -/
def roundedQuotient (num den : Nat) : Nat :=
  let quot := num / den
  let twice := 2 * (num % den)
  if twice < den || (twice = den && quot % 2 = 0) then quot else quot + 1

/-- `num / den` times `2 ^ (-q)` as a fraction. -/
def scaled (num den : Nat) (q : Int) : Nat × Nat :=
  if q < 0 then (num <<< q.natAbs, den) else (num, den <<< q.natAbs)

/-- The number nearest to the positive fraction `num / den`. The exponent is chosen so that the
quotient has 53 bits, or is the least exponent. -/
def ofFraction (negative : Bool) (num den : Nat) : Double :=
  let estimate : Int := (num.log2 : Int) - (den.log2 : Int) - 53
  let at_ (q : Int) : Nat := let (n, d) := scaled num den q; roundedQuotient n d
  let floorAt (q : Int) : Nat := let (n, d) := scaled num den q; n / d
  let q₀ := if floorAt estimate ≥ 2 * fractionCount then estimate + 1 else estimate
  let q := if q₀ < -1074 then -1074 else q₀
  let m := at_ q
  let (m, q) := if m = 2 * fractionCount then (fractionCount, q + 1) else (m, q)
  if m < fractionCount then ofFields negative 0 m
  else if q > 971 then infinity negative
  else ofFields negative (q + 1075).toNat (m - fractionCount)

/-- One with a number of zeros behind it. -/
def powerOfTen (zeros : Nat) : Nat := Nat.pow 10 zeros

/-- The number of decimal digits, where zero has one. -/
def digitCount (n : Nat) : Nat := (Nat.toDigits 10 n).length

/-- The number nearest to `digits * 10 ^ exponent`. Exponents far outside the range of the format
give zero or an infinity at once. -/
def ofDecimal (negative : Bool) (digits : Nat) (exponent : Int) : Double :=
  if digits = 0 then zero negative
  else
    let scale := (digitCount digits : Int) + exponent
    if scale > 310 then infinity negative
    else if scale < -330 then zero negative
    else if exponent < 0 then ofFraction negative digits (powerOfTen exponent.natAbs)
    else ofFraction negative (digits * powerOfTen exponent.natAbs) 1

end Double

end Localize
