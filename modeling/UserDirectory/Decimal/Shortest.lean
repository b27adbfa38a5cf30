import UserDirectory.Decimal.Binary64

/-!
# The shortest decimal

The text of a floating point number: the fewest decimal digits that single it out among the numbers
of the format, and of those the nearest to it.

## How it works

The reals that round to a number form an interval around it, whose ends belong to it exactly when
the mantissa is even. For one digit, two digits and so on up to seventeen, the two neighbours of
the number on the decimal grid with that many digits are tested against the interval. If any point
of a grid lies inside, one of the two neighbours does, so the first grid with a hit has the fewest
digits.

The digits are then laid out: positionally when the first digit stands between the fifth place
after the point and the sixteenth before it, otherwise with a signed exponent.
-/

namespace UserDirectory.Binary64

/-- Compares two fractions: `a / b ≤ c / d`. -/
def ratioLE (a b c d : Nat) : Bool := decide (a * d ≤ c * b)

/-- The fraction `n * 2 ^ e`. -/
def twoScaled (n : Nat) (e : Int) : Nat × Nat := (n * Nat.pow 2 e.toNat, Nat.pow 2 (-e).toNat)

/-- The fraction `n * 10 ^ p`. -/
def tenScaled (n : Nat) (p : Int) : Nat × Nat := (n * Nat.pow 10 p.toNat, Nat.pow 10 (-p).toNat)

/-- The lower end of the interval that rounds to the number. Below a power of two the numbers lie
twice as close. -/
def lowerEnd (x : Binary64) : Nat × Nat :=
  let gap := if x.mantissa = leastNormal ∧ leastExponent < x.exponent then 1 else 2
  twoScaled (4 * x.mantissa - gap) (x.exponent - 2)

/-- The upper end of the interval that rounds to the number. -/
def upperEnd (x : Binary64) : Nat × Nat := twoScaled (4 * x.mantissa + 2) (x.exponent - 2)

/-- Whether the decimal `n * 10 ^ p` rounds to the number. -/
def readsBack (x : Binary64) (n : Nat) (p : Int) : Bool :=
  let d := tenScaled n p
  let low := x.lowerEnd
  let high := x.upperEnd
  if x.mantissa % 2 = 0 then
    ratioLE low.1 low.2 d.1 d.2 && ratioLE d.1 d.2 high.1 high.2
  else
    !ratioLE d.1 d.2 low.1 low.2 && !ratioLE high.1 high.2 d.1 d.2

/-- The power of ten of the number's first decimal digit. -/
def magnitude (x : Binary64) : Int :=
  let guess : Int := (Nat.toDigits 10 x.num).length - (Nat.toDigits 10 x.den).length
  let unit := tenScaled 1 guess
  if ratioLE unit.1 unit.2 x.num x.den then guess else guess - 1

/-- The neighbours of the number on the grid of multiples of `10 ^ p`: of those that read back, the
nearer one, and of two equally near ones the even one. -/
def onGrid? (x : Binary64) (p : Int) : Option Nat :=
  let unit := tenScaled 1 p
  let below := x.num * unit.2 / (x.den * unit.1)
  let twice := 2 * (x.num * unit.2 % (x.den * unit.1))
  match x.readsBack below p, x.readsBack (below + 1) p with
  | false, false => none
  | true, false => some below
  | false, true => some (below + 1)
  | true, true =>
    if twice < x.den * unit.1 then some below
    else if x.den * unit.1 < twice then some (below + 1)
    else if below % 2 = 0 then some below
    else some (below + 1)

/-- The fewest digits that read back, without trailing zeros, and the power of ten of the first. -/
def shortest (x : Binary64) : List Char × Int :=
  let top := x.magnitude
  let hit := (List.range 17).findSome? fun (k : Nat) => (x.onGrid? (top - k)).map (·, top - k)
  let (n, p) := hit.getD (0, top)
  let digits := Nat.toDigits 10 n
  ((digits.reverse.dropWhile (· = '0')).reverse, p + (digits.length - 1))

/-- Digits laid out with the point in its place. -/
def positional (digits : List Char) (first : Int) : List Char :=
  if first < 0 then
    ['0', '.'] ++ List.replicate (-first - 1).toNat '0' ++ digits
  else
    let whole := first.toNat + 1
    let missing := List.replicate (whole - digits.length) '0'
    let fraction := digits.drop whole
    digits.take whole ++ missing ++ ['.'] ++ (if fraction.isEmpty then ['0'] else fraction)

/-- Digits laid out with one digit before the point and a signed exponent. -/
def scientific (digits : List Char) (first : Int) : List Char :=
  let fraction := digits.drop 1
  digits.take 1 ++ (if fraction.isEmpty then [] else '.' :: fraction) ++
    ['e', if first < 0 then '-' else '+'] ++ Nat.toDigits 10 first.natAbs

/-- The text of the number. -/
def text (x : Binary64) : List Char :=
  if x.mantissa = 0 then ['0', '.', '0']
  else
    let (digits, first) := x.shortest
    if -5 ≤ first ∧ first ≤ 15 then positional digits first else scientific digits first

end UserDirectory.Binary64
