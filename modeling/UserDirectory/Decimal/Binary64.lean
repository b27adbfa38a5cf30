/-!
# Binary floating point numbers, exactly

A finite number of the binary64 format, its sign apart, is a natural number below 2^53 times a
power of two not below 2^-1074. Everything here is exact arithmetic on natural numbers: a quotient
is rounded once, to the nearest such number, and a tie goes to the even neighbour.

`ofDecimal?` gives the number that a decimal numeral denotes when it is read by one rounding of its
digits and one rounding for its power of ten. That is what the readers of this library report when
they meet a number where another kind of value should stand.
-/

namespace UserDirectory

/-- The number `mantissa * 2 ^ exponent`. -/
structure Binary64 where
  mantissa : Nat
  exponent : Int
  deriving DecidableEq, Repr

namespace Binary64

/-- The exponent below which the format has no more bits. -/
def leastExponent : Int := -1074

/-- The exponent of the largest numbers. -/
def greatestExponent : Int := 971

/-- The least mantissa with 53 bits, 2^52. -/
def leastNormal : Nat := 4503599627370496

/-- The natural number nearest to `num / den`, the even one of two. -/
def roundDiv (num den : Nat) : Nat :=
  if 2 * (num % den) < den then num / den
  else if den < 2 * (num % den) then num / den + 1
  else if num / den % 2 = 0 then num / den
  else num / den + 1

/-- The quotient `num / den / 2 ^ e` as a numerator and a denominator. -/
def overTwoTo (e : Int) (num den : Nat) : Nat × Nat :=
  if 0 ≤ e then (num, den * Nat.pow 2 e.toNat) else (num * Nat.pow 2 (-e).toNat, den)

/-- The exponent at which `num / den` has 53 bits before the point, or the least one. -/
def exponentOf (num den : Nat) : Int :=
  let guess : Int := (Nat.log2 num : Int) - Nat.log2 den - 52
  let scaled := overTwoTo guess num den
  max leastExponent (if scaled.1 / scaled.2 < leastNormal then guess - 1 else guess)

/-- The number nearest to `num / den`; none when that exceeds the format. -/
def ofRatio? (num den : Nat) : Option Binary64 :=
  let e := exponentOf num den
  let scaled := overTwoTo e num den
  let m := roundDiv scaled.1 scaled.2
  let rounded : Binary64 := if m = 2 * leastNormal then ⟨leastNormal, e + 1⟩ else ⟨m, e⟩
  if greatestExponent < rounded.exponent then none else some rounded

/-- The numerator of the number as a fraction. -/
def num (x : Binary64) : Nat := x.mantissa * Nat.pow 2 x.exponent.toNat

/-- The denominator of the number as a fraction. -/
def den (x : Binary64) : Nat := Nat.pow 2 (-x.exponent).toNat

/-- The product, rounded. -/
def mul? (x y : Binary64) : Option Binary64 := ofRatio? (x.num * y.num) (x.den * y.den)

/-- The quotient, rounded. -/
def div? (x y : Binary64) : Option Binary64 := ofRatio? (x.num * y.den) (x.den * y.num)

/-- The number times a power of ten. Powers up to 10^308 are numbers of the format; a smaller power
is reached in steps of 10^-308, each rounded, and a larger one exceeds the format. -/
def timesTenTo? (x : Binary64) (power : Int) : Option Binary64 :=
  if power.natAbs ≤ 308 then do
    let ten ← ofRatio? (Nat.pow 10 power.natAbs) 1
    if 0 ≤ power then x.mul? ten else x.div? ten
  else if x.mantissa = 0 then some x
  else if 0 ≤ power then none
  else do
    let ten ← ofRatio? (Nat.pow 10 308) 1
    let y ← x.div? ten
    y.timesTenTo? (power + 308)
termination_by (-power).toNat

/-- The number that `significand * 10 ^ power` is read as; none when it exceeds the format. -/
def ofDecimal? (significand : Nat) (power : Int) : Option Binary64 := do
  let x ← ofRatio? significand 1
  x.timesTenTo? power

end Binary64

end UserDirectory
